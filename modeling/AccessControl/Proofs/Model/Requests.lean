import AccessControl.Proofs.Model.Keys
import AccessControl.Proofs.PolicyText.RoundTrip
import Mathlib.Data.String.Basic
/-!
What a text must have to be one of a model. A model has a request definition, so that one of its lines
starts with the letter of requests, unless a lone backslash joins it to the next one. As the row of a
policy such a line has a type that no model declares. Therefore a text that is both a model and a policy
has a rule that fits no model; and a text of one byte is no model.
-/
namespace AccessControl

namespace Model
open Text

/-- A line that a request definition may start with. -/
def StartsRequest (raw : List Char) : Prop :=
  PolicyText.isSkipped (trim raw) = false ∧ (trim raw = ['\\'] ∨ (trim raw).head? = some 'r')

namespace Draft

/-- The request is read from a line that starts with its letter. -/
theorem head_of_request {draft after : Draft} (missing : draft.request? = none) {line : List Char}
    (done : draft.readLine line = .ok after) (found : after.request? ≠ none) :
    (trimStart line).head? = some 'r' := by
  rcases readLine_cases done with ⟨header, part, -, -, -, rfl⟩ | ⟨key, value, parted, defined⟩
  · exact absurd missing found
  obtain ⟨rfl, -⟩ := eq_of_cut? parted
  obtain ⟨part, kind, -, -, -, entered⟩ := define_cases defined
  by_cases request : part = .request
  · subst request
    have start := head_trim key
    rw [Part.eq_letter kind nofun nofun] at start
    have some : trimStart key ≠ [] := by
      intro none
      rw [none] at start
      cases start
    rw [trimStart_append some, List.head?_append_of_ne_nil _ some, ← start]
    rfl
  · rw [(enter_frame entered).2.1 request] at found
    exact absurd missing found

theorem exists_line_of_request {lines : List Pending} {draft after : Draft}
    (missing : draft.request? = none) (done : draft.readLines lines = .ok after)
    (found : after.request? ≠ none) : ∃ line ∈ lines, (trimStart line.text).head? = some 'r' := by
  induction lines generalizing draft with
  | nil =>
    cases done
    exact absurd missing found
  | cons line rest ih =>
    unfold readLines at done
    split at done
    · cases done
    next middle read =>
      cases given : middle.request? with
      | some request => 
        exact ⟨line, List.mem_cons_self, head_of_request missing read (by simp [given])⟩
      | none =>
        obtain ⟨other, inside, start⟩ := ih given done
        exact ⟨other, List.mem_cons_of_mem _ inside, start⟩

end Draft

/-- What has been read of a definition comes from a line that starts in the same way, unless that line is
a lone backslash. -/
def Pending.From (raws : List (List Char)) (pending : Pending) : Prop :=
  ∃ raw ∈ raws, PolicyText.isSkipped (trim raw) = false ∧
    (trim raw = ['\\'] ∨ pending.text ≠ [] ∧ (trim raw).head? = pending.text.head?)

theorem Pending.From.join {raws : List (List Char)} {pending : Pending} (origin : pending.From raws)
    (text : List Char) : (pending.join text).From raws := by
  obtain ⟨raw, inside, solid, start⟩ := origin
  refine ⟨raw, inside, solid, start.imp id ?_⟩
  rintro ⟨some, head⟩
  have joined : (pending.join text).text = pending.text ++ ' ' :: text :=
    if_neg (by simpa using some)
  rw [joined]
  exact ⟨by simp, by rw [head, List.head?_append_of_ne_nil _ some]⟩

/-- A definition that goes on starts where its first line does. -/
theorem start_of_continued {raw : List Char} (continued : (trim raw).getLast? = some '\\') :
    trim raw = ['\\'] ∨ trimEnd (trim raw).dropLast ≠ [] ∧
      (trim raw).head? = (trimEnd (trim raw).dropLast).head? := by
  have solid := head_trimStart raw
  rw [← head_trim] at solid
  obtain ⟨front, whole⟩ := List.getLast?_eq_some_iff.1 continued
  rw [whole] at solid ⊢
  rw [List.dropLast_concat]
  cases front with
  | nil => exact .inl rfl
  | cons c more =>
    right
    rw [trimEnd_cons (by simpa using solid)]
    exact ⟨by simp, rfl⟩

theorem from_of_mem_logicalLines {numbered : List (Nat × List Char)} {pending? : Option Pending}
    {raws : List (List Char)} (listed : ∀ line ∈ numbered, line.2 ∈ raws)
    (origin : ∀ pending, pending? = some pending → pending.From raws) {line : Pending}
    (inside : line ∈ logicalLines numbered pending?) : line.From raws := by
  induction numbered generalizing pending? with
  | nil =>
    cases pending? with
    | none => cases inside
    | some pending =>
      rw [logicalLines, List.mem_singleton] at inside
      exact inside ▸ origin pending rfl
  | cons first rest ih =>
    obtain ⟨number, raw⟩ := first
    rw [List.forall_mem_cons] at listed
    rw [logicalLines] at inside
    cases pending? with
    | some pending =>
      have before := origin pending rfl
      simp only [Option.isNone_some, Bool.false_and, Bool.false_eq_true, if_false, Option.getD_some] at inside
      split at inside
      · refine ih listed.2 ?_ inside
        rintro _ ⟨⟩
        exact before.join _
      · rcases List.mem_cons.1 inside with rfl | later
        · exact before.join _
        · exact ih listed.2 (by simp) later
    | none =>
      simp only [Option.isNone_none, Bool.true_and, Option.getD_none] at inside
      split at inside
      · exact ih listed.2 (by simp) inside
      next solid =>
        have kept : PolicyText.isSkipped (trim raw) = false := by simpa [PolicyText.isSkipped] using solid
        split at inside
        next continued =>
          refine ih listed.2 ?_ inside
          rintro _ ⟨⟩
          exact ⟨raw, listed.1, kept, start_of_continued continued⟩
        · rcases List.mem_cons.1 inside with rfl | later
          · have some : trim raw ≠ [] := by
              intro none
              rw [none] at kept
              cases kept
            exact ⟨raw, listed.1, kept, .inr ⟨some, rfl⟩⟩
          · exact ih listed.2 (by simp) later

/-- One of the lines of a model is such that its request definition starts with it. -/
theorem exists_request_line {text : String} {model : Model} (read : ofText text = .ok model) :
    ∃ raw ∈ lines text.toList, StartsRequest raw := by
  obtain ⟨draft, done, whole⟩ := Result.bind_eq_ok.1 read
  have found : draft.request? ≠ none := by simp [(Draft.complete_eq_ok.1 whole).request]
  obtain ⟨line, inside, start⟩ := Draft.exists_line_of_request rfl done found
  have listed : ∀ line ∈ numberedLines text.toList, line.2 ∈ lines text.toList :=
    fun line => mem_lines_of_mem_numberedLines
  obtain ⟨raw, among, kept, alone | ⟨some, same⟩⟩ := from_of_mem_logicalLines listed (by simp) inside
  · exact ⟨raw, among, kept, .inl alone⟩
  · refine ⟨raw, among, kept, .inr ?_⟩
    have solid := head_trimStart raw
    rw [← head_trim, same] at solid
    rw [same, ← start, trimStart_of_head solid]

/-- As a row, the line that a request definition starts with has a type with the letter of requests. -/
theorem StartsRequest.type_of_row {raw : List Char} (start : StartsRequest raw) {rule : Rule}
    (read : Row.read raw = .ok rule) : rule.type.toList.head? = some 'r' := by
  rw [← Row.read_trim] at read
  obtain ⟨cells, -, some⟩ := Row.read_eq_ok.1 read
  rcases start.2 with alone | letter
  · rw [alone, Row.readCells_eq, Row.readCell_bare (by decide)] at cells
    have single : ["\\"] = rule.type :: rule.fields := Except.ok.inj cells
    exact absurd (List.cons.inj single).2.symm some
  · obtain ⟨rest, whole⟩ := List.head?_eq_some_iff.1 letter
    obtain ⟨after, first⟩ := Row.readCell_of_readCells cells
    have bare : trimStart ('r' :: rest) = 'r' :: rest := trimStart_cons (by decide)
    rw [whole, Row.readCell_bare (by simp [bare]), bare, List.takeWhile_cons_of_pos (by decide),
      trimEnd_cons (by decide)] at first
    rw [← (Prod.mk.inj (Except.ok.inj first)).1]
    rfl

/-- A text that is both a model and a policy has a rule whose type starts with the letter of requests. -/
theorem exists_rule_of_request {text : String} {model : Model} (parsed : ofText text = .ok model)
    {rules : RuleSet} (read : PolicyText.read text = .ok rules) :
    ∃ rule ∈ rules.toList, rule.type.toList.head? = some 'r' := by
  obtain ⟨raw, inside, start⟩ := exists_request_line parsed
  obtain ⟨listed, rows, rfl⟩ := Result.map_eq_ok.1 read
  have all := (PolicyText.readLines_numberedLines_eq_ok.1 rows).flip
  obtain ⟨rule, among, matched⟩ := Result.exists_of_forall₂ all
    (List.mem_filter.2 ⟨inside, by simpa using start.1⟩)
  exact ⟨rule, (RuleSet.toList_ofList_perm listed).mem_iff.2 among, start.type_of_row matched⟩

/-- A text of one byte is no model. -/
theorem ofText_short {text : String} (short : text.utf8ByteSize ≤ 1) (model : Model) :
    ofText text ≠ .ok model := by
  intro read
  obtain ⟨raw, inside, -, start⟩ := exists_request_line read
  have length : ∀ cs : List Char, cs.length ≤ String.utf8Len cs := by
    intro cs
    induction cs with
    | nil => exact Nat.le_refl 0
    | cons c rest ih =>
      have some := c.utf8Size_pos
      rw [String.utf8Len_cons, List.length_cons]
      omega
  have single : text.toList.length ≤ 1 := by
    have bound := length text.toList
    rw [String.utf8Len_toList] at bound
    omega
  match same : text.toList with
  | [] =>
    rw [same] at inside
    cases inside
  | _ :: _ :: _ =>
    rw [same] at single
    simp at single
  | [c] =>
    have kept : (trim raw).Sublist [c] := by
      have line : raw.Sublist [c] := by
        rw [same] at inside
        by_cases lineFeed : c = '\n'
        · rw [lineFeed] at inside
          rw [List.mem_singleton.1 inside]
          exact List.nil_sublist _
        · rw [List.mem_singleton.1 (show raw ∈ [[c]] by simpa [Text.lines] using inside)]
      exact ((trimEnd_sublist _).trans (List.dropWhile_sublist _)).trans line
    have letter : c = '\\' ∨ c = 'r' := by
      rcases start with alone | letter
      · rw [alone] at kept
        exact .inl (List.mem_singleton.1 (kept.subset List.mem_cons_self)).symm
      · exact .inr (List.mem_singleton.1 (kept.subset (List.mem_of_head? letter))).symm
    have whole : text = String.ofList [c] := by rw [← same, String.ofList_toList]
    rw [whole] at read
    rcases letter with rfl | rfl
    · cases read
    · cases read

end Model
end AccessControl
