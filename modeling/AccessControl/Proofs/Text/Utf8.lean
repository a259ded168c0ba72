import Mathlib.Data.List.Basic
/-!
The bytes of characters. The bytes of a character tell it from every other one, whatever comes after them,
and only the first of them can be the first byte of a character. So where a part of some text begins with
such a byte, no character has been cut in two.
-/
namespace AccessControl.Text
open String (utf8EncodeChar)

/-- The bytes of some characters. -/
def encode (text : List Char) : List UInt8 := text.flatMap utf8EncodeChar

@[simp] theorem encode_nil : encode [] = [] := rfl

@[simp] theorem encode_cons (c : Char) (text : List Char) :
    encode (c :: text) = utf8EncodeChar c ++ encode text := rfl

@[simp] theorem encode_append (text text' : List Char) :
    encode (text ++ text') = encode text ++ encode text' := List.flatMap_append

theorem encode_eq_nil {text : List Char} : encode text = [] ↔ text = [] := by
  cases text with
  | nil => simp
  | cons c text => simp [String.utf8EncodeChar_ne_nil]

/-- A text holds the bytes of its characters. -/
theorem toUTF8_eq (text : String) : text.toUTF8.data.toList = encode text.toList := by
  rw [String.toUTF8_eq_toByteArray, ← String.utf8Encode_toList]
  exact List.toList_data_toByteArray

theorem utf8EncodeChar_append_inj {c d : Char} {rest rest' : List UInt8}
    (same : utf8EncodeChar c ++ rest = utf8EncodeChar d ++ rest') : c = d ∧ rest = rest' := by
  -- Both sides are decoded; the first character that comes of it is the one that was encoded.
  have decoded := congrArg (fun bytes => bytes.toByteArray.utf8DecodeChar? 0) same
  simp only [List.toByteArray_append, ByteArray.utf8DecodeChar?_utf8EncodeChar_append,
    Option.some.injEq] at decoded
  subst decoded
  exact ⟨rfl, List.append_cancel_left same⟩

/-- The first byte of a character, and those after it. -/
theorem utf8EncodeChar_eq_cons (c : Char) : ∃ first later, utf8EncodeChar c = first :: later ∧
    first.IsUTF8FirstByte ∧ ∀ byte ∈ later, ¬byte.IsUTF8FirstByte := by
  cases encoded : utf8EncodeChar c with
  | nil => exact absurd encoded String.utf8EncodeChar_ne_nil
  | cons first later =>
    have starts {i : Nat} (short : i < (first :: later).length) :
        (first :: later)[i].IsUTF8FirstByte ↔ i = 0 := by
      have whole : i < (utf8EncodeChar c).length := encoded ▸ short
      simpa only [encoded] using @UInt8.isUTF8FirstByte_getElem_utf8EncodeChar c i whole
    refine ⟨first, later, rfl, (starts (Nat.succ_pos _)).2 rfl, ?_⟩
    intro byte inside
    obtain ⟨i, short, rfl⟩ := List.mem_iff_getElem.1 inside
    exact fun isFirst => absurd ((starts (Nat.succ_lt_succ short)).1 isFirst) (Nat.succ_ne_zero i)

/-- A part of a text that begins with a first byte begins with a character. -/
theorem exists_encode_of_append {text : List Char} {before after : List UInt8}
    (parted : encode text = before ++ after) (starts : ∀ byte ∈ after.head?, byte.IsUTF8FirstByte) :
    ∃ text₁ text₂, text = text₁ ++ text₂ ∧ encode text₂ = after := by
  induction text generalizing before with
  | nil =>
    obtain ⟨-, rfl⟩ := List.append_eq_nil_iff.1 parted.symm
    exact ⟨[], [], rfl, rfl⟩
  | cons c text ih =>
    rcases List.append_eq_append_iff.1 ((encode_cons c text).symm.trans parted) with
      ⟨between, rfl, rest⟩ | ⟨cut, whole, rfl⟩
    · obtain ⟨text₁, text₂, rfl, same⟩ := ih rest
      exact ⟨c :: text₁, text₂, rfl, same⟩
    · cases before with
      | nil => exact ⟨[], c :: text, rfl, by rw [encode_cons, whole]; rfl⟩
      | cons byte before =>
        -- The character would be cut before a byte that is not its first one.
        obtain ⟨first, later, encoded, -, none⟩ := utf8EncodeChar_eq_cons c
        rw [encoded, List.cons_append] at whole
        obtain ⟨-, rfl⟩ := List.cons.inj whole
        cases cut with
        | nil => exact ⟨[c], text, rfl, rfl⟩
        | cons next cut =>
          exact absurd (starts next rfl) (none next (List.mem_append_right _ List.mem_cons_self))

end AccessControl.Text
