import AccessControl.PolicyText
import AccessControl.Proofs.Row.Written
import Mathlib
/-!
Writing a policy text and reading it back. A text can be written unless a field breaks a line, and it
holds a line for each rule. Rules come back from it if each of them can be read back from its row. No
other rules come back even by chance, as rows of one another: a quote at the start of a type is lost
with every reading, and so is all that stands behind a comma.
-/
namespace AccessControl

/-- Whether a field of the rule breaks a line. -/
def Rule.isBroken (rule : Rule) : Bool := rule.fields.any breaksLine

theorem Rule.isBroken_eq (rule : Rule) :
    rule.isBroken = (PolicyText.breakingField? rule.fields).isSome := by
  rw [isBroken, PolicyText.breakingField?, List.findIdx?_isSome]

theorem Rule.isBroken_iff {rule : Rule} : rule.isBroken = true ↔
    ∃ field ∈ rule.fields, '\r' ∈ field.toList ∨ '\n' ∈ field.toList := by
  simp [isBroken, breaksLine, and_or_left, exists_or]

namespace PolicyText
open Text

theorem isSkipped_trim (raw : List Char) : isSkipped (trim raw) = isSkipped (trimStart raw) := by
  have empty (line : List Char) : line.isEmpty = line.head?.isNone := by cases line <;> rfl
  rw [isSkipped, isSkipped, empty, empty, head_trim]

/-- The rules that numbered lines are read as, those that hold no rule left out. -/
theorem readLines_eq_ok {lines : List (Nat × List Char)} {rules : List Rule} :
    readLines lines = .ok rules ↔ List.Forall₂ (fun line rule => Row.read line.2 = .ok rule)
      (lines.filter fun line => !isSkipped (trim line.2)) rules := by
  induction lines generalizing rules with
  | nil => simp [readLines, eq_comm]
  | cons line rest ih =>
    obtain ⟨number, raw⟩ := line
    rw [readLines]
    cases skipped : isSkipped (trim raw) with
    | true => simp [skipped, ih]
    | false =>
      rw [List.filter_cons_of_pos (by simp [skipped])]
      simp only [Row.read_trim, Bool.false_eq_true, if_false]
      cases read : Row.read raw with
      | error fault =>
        constructor
        · intro done
          cases done
        · intro all
          cases all with
          | cons first _ => simp [read] at first
      | ok rule =>
        simp only [Result.map_eq_ok, ih]
        constructor
        · rintro ⟨later, all, rfl⟩
          exact .cons read all
        · intro all
          cases all with
          | cons first later =>
            rw [read] at first
            cases first
            exact ⟨_, later, rfl⟩

/-- Lines are not read for a row that is malformed. -/
theorem exists_of_readLines_eq_error {lines : List (Nat × List Char)} {error : Error}
    (failed : readLines lines = .error error) : ∃ number raw fault, (number, raw) ∈ lines ∧
      Row.read (trim raw) = .error fault ∧ error = .malformedRow number fault := by
  induction lines with
  | nil => cases failed
  | cons line rest ih =>
    obtain ⟨number, raw⟩ := line
    rw [readLines] at failed
    have later (failed : readLines rest = .error error) : ∃ number' raw' fault,
        (number', raw') ∈ (number, raw) :: rest ∧ Row.read (trim raw') = .error fault ∧
          error = .malformedRow number' fault := by
      obtain ⟨number', raw', fault, inside, malformed, same⟩ := ih failed
      exact ⟨number', raw', fault, List.mem_cons_of_mem _ inside, malformed, same⟩
    split at failed
    next => exact later failed
    next =>
      split at failed
      next fault malformed =>
        cases failed
        exact ⟨number, raw, fault, List.mem_cons_self, malformed, rfl⟩
      next => exact later (Result.map_eq_error.1 failed)

/-- Rules are written unless a field breaks a line, one row to a line. -/
theorem writeRules_eq_ok {rules : List Rule} {text : List Char} :
    writeRules rules = .ok text ↔ (∀ rule ∈ rules, breakingField? rule.fields = none) ∧
      text = rules.flatMap fun rule => Row.write rule ++ ['\n'] := by
  induction rules generalizing text with
  | nil => simp [writeRules, eq_comm]
  | cons rule rest ih =>
    rw [writeRules]
    cases broken : breakingField? rule.fields with
    | some index => simp [broken]
    | none =>
      simp only [Result.map_eq_ok, ih, List.forall_mem_cons, broken, true_and, List.flatMap_cons]
      constructor
      · rintro ⟨_, ⟨all, rfl⟩, rfl⟩
        exact ⟨all, by simp⟩
      · rintro ⟨all, rfl⟩
        exact ⟨_, ⟨all, rfl⟩, by simp⟩

theorem write_eq_ok {rules : RuleSet} (unbroken : ∀ rule ∈ rules.toList, breakingField? rule.fields = none) :
    write rules = .ok (String.ofList (rules.toList.flatMap fun rule => Row.write rule ++ ['\n'])) :=
  Result.map_eq_ok.2 ⟨_, writeRules_eq_ok.2 ⟨unbroken, rfl⟩, rfl⟩

/-- The first rule that cannot be written is the one that is reported, with its first such field. -/
theorem writeRules_eq_error {rules : List Rule} {error : Error} :
    writeRules rules = .error error ↔ ∃ rule index, rules.find? Rule.isBroken = some rule ∧
      rule.fields.findIdx? breaksLine = some index ∧ error = .lineBreak rule.type index := by
  induction rules with
  | nil => simp [writeRules]
  | cons rule rest ih =>
    have any := rule.isBroken_eq
    rw [writeRules]
    cases broken : breakingField? rule.fields with
    | some index =>
      rw [List.find?_cons_of_pos (by rw [any, broken]; rfl)]
      constructor
      · intro failed
        cases failed
        exact ⟨rule, index, rfl, broken, rfl⟩
      · rintro ⟨_, _, same, first, rfl⟩
        cases same
        cases broken.symm.trans first
        rfl
    | none =>
      rw [List.find?_cons_of_neg (by rw [any, broken]; exact Bool.false_ne_true), ← ih]
      cases writeRules rest with
      | error fault => rfl
      | ok text => exact ⟨nofun, nofun⟩

/-- Writing fails just when there is a rule that cannot be written. -/
theorem exists_writeRules_eq_error {rules : List Rule} :
    (∃ error, writeRules rules = .error error) ↔ ∃ rule ∈ rules, rule.isBroken = true := by
  rw [← List.find?_isSome]
  simp only [writeRules_eq_error]
  constructor
  · rintro ⟨error, rule, index, found, -, -⟩
    rw [found]
    rfl
  · intro some
    obtain ⟨rule, found⟩ := Option.isSome_iff_exists.1 some
    have broken := List.find?_some found
    rw [Rule.isBroken_eq] at broken
    obtain ⟨index, first⟩ := Option.isSome_iff_exists.1 broken
    exact ⟨_, rule, index, found, first, rfl⟩

/-- The lines of a written text are the rows of its rules. -/
theorem lines_rows {rules : List Rule} (some : ∀ rule ∈ rules, rule.fields ≠ [])
    (types : ∀ rule ∈ rules, '\n' ∉ rule.type.toList)
    (fields : ∀ rule ∈ rules, breakingField? rule.fields = none) :
    lines (rules.flatMap fun rule => Row.write rule ++ ['\n']) = rules.map Row.write := by
  induction rules with
  | nil => rfl
  | cons rule rest ih =>
    rw [List.forall_mem_cons] at some types fields
    have whole := Row.write_unbroken some.1 types.1 (List.findIdx?_eq_none_iff.1 fields.1)
    rw [List.flatMap_cons, List.append_assoc, List.singleton_append, lines_append whole.1 whole.2,
      ih some.2 types.2 fields.2, List.map_cons]

/-- The rules that a text is read as come from its lines one by one. -/
theorem readLines_numberedLines_eq_ok {text : List Char} {rules : List Rule} :
    readLines (numberedLines text) = .ok rules ↔
      List.Forall₂ (fun line rule => Row.read line = .ok rule)
        ((lines text).filter fun line => !isSkipped (trim line)) rules := by
  have unnumbered : (numberedLines text).map (·.2) = lines text := by
    simp [numberedLines, Function.comp_def]
  rw [readLines_eq_ok, ← List.forall₂_map_left_iff (f := Prod.snd)
    (R := fun line rule => Row.read line = .ok rule), ← unnumbered, List.filter_map]
  rfl

theorem isSkipped_write {rule : Rule} (rereads : rule.Rereads) :
    isSkipped (trim (Row.write rule)) = false := by
  rw [isSkipped_trim]
  have named : rule.type.toList ≠ [] := fun none => rereads.named (String.toList_eq_nil_iff.1 none)
  obtain ⟨c, more, same⟩ := List.exists_cons_of_ne_nil named
  have first := rereads.first
  have noComment := rereads.noComment
  rw [same] at first noComment
  rw [Row.write, same, List.cons_append, trimStart_cons (by simpa using first)]
  simpa [isSkipped] using noComment

/-- Rules that can be read back are read back from a text. -/
theorem readLines_write {rules : List Rule} (rereads : ∀ rule ∈ rules, rule.Rereads)
    (unbroken : ∀ rule ∈ rules, breakingField? rule.fields = none) :
    readLines (numberedLines (rules.flatMap fun rule => Row.write rule ++ ['\n'])) = .ok rules := by
  rw [readLines_numberedLines_eq_ok, lines_rows (fun rule stored => (rereads rule stored).fields)
    (fun rule stored => (rereads rule stored).unbroken) unbroken]
  have all : (rules.map Row.write).filter (fun line => !isSkipped (trim line)) = rules.map Row.write := by
    rw [List.filter_eq_self]
    intro line row
    obtain ⟨rule, stored, rfl⟩ := List.mem_map.1 row
    rw [isSkipped_write (rereads rule stored)]
    rfl
  rw [all, List.forall₂_map_left_iff, List.forall₂_same]
  exact fun rule stored => Row.read_write (rereads rule stored)

/-- Where no value grows and the values together do not shrink, each of them stays. -/
theorem forall₂_eq_of_sum_le (value : Rule → Nat) {rules others : List Rule}
    (below : List.Forall₂ (fun rule other => value other ≤ value rule) rules others)
    (sum : (rules.map value).sum ≤ (others.map value).sum) :
    List.Forall₂ (fun rule other => value other = value rule) rules others := by
  have least : ∀ {rules others : List Rule},
      List.Forall₂ (fun rule other => value other ≤ value rule) rules others →
        (others.map value).sum ≤ (rules.map value).sum := by
    intro rules others below
    induction below with
    | nil => exact Nat.le_refl 0
    | cons first _ ih =>
      simp only [List.map_cons, List.sum_cons]
      omega
  induction below with
  | nil => exact .nil
  | cons first rest ih =>
    have later := least rest
    simp only [List.map_cons, List.sum_cons] at sum
    exact .cons (by omega) (ih (by omega))

/-- Rules that come back from their rows as a whole, in whatever order, come back one by one. A row that
starts with a quote loses leading quotes in reading; as none gains any and none are lost altogether,
there is no such row. Then no row loses anything that stands behind a comma or a blank either. -/
theorem core_eq_of_perm {rules others : List Rule} (some : ∀ rule ∈ rules, rule.fields ≠ [])
    (matched : List.Forall₂ (fun rule other => Row.read (Row.write rule) = .ok other) rules others)
    (same : others.Perm rules) :
    ∀ rule ∈ rules, (trimStart rule.type.toList).head? ≠ Option.some '"' ∧
      Row.core rule.type.toList = rule.type.toList := by
  have typed := ((List.forall₂_and_left rules others).2 ⟨some, matched⟩).imp
    fun rule other known => Row.type_of_read known.1 known.2
  have bare : List.Forall₂ (fun rule other => (trimStart rule.type.toList).head? ≠ Option.some '"' ∧
      other.type.toList = Row.core rule.type.toList) rules others := by
    have below : List.Forall₂ (fun rule other =>
        Row.leadingQuotes other.type.toList ≤ Row.leadingQuotes rule.type.toList) rules others := by
      refine typed.imp fun rule other known => ?_
      rcases known with fewer | ⟨start, core⟩
      · exact Nat.le_of_lt fewer
      · rw [core, Row.leadingQuotes_core start]
        exact Nat.zero_le _
    have quotes := forall₂_eq_of_sum_le (fun rule => Row.leadingQuotes rule.type.toList) below
      (Nat.le_of_eq (same.map _).sum_eq.symm)
    refine typed.mp (fun rule other known equal => ?_) quotes
    exact known.resolve_left (by omega)
  have lengths := forall₂_eq_of_sum_le (fun rule => rule.type.toList.length)
    (bare.imp fun rule other known => by
      rw [known.2]
      exact (Row.core_sublist _).length_le)
    (Nat.le_of_eq (same.map _).sum_eq.symm)
  have whole : List.Forall₂ (fun rule other => ((trimStart rule.type.toList).head? ≠ Option.some '"' ∧
      Row.core rule.type.toList = rule.type.toList) ∧ True) rules others := by
    refine bare.mp (fun rule other known equal => ⟨⟨known.1, ?_⟩, trivial⟩) lengths
    apply (Row.core_sublist _).eq_of_length
    rw [← known.2, equal]
  exact ((List.forall₂_and_left rules others).1 whole).1

/-- If the rules of a text come back from it, in whatever order, they are such as can be read back. -/
theorem rereads_of_perm {rules others : List Rule}
    (unbroken : ∀ rule ∈ rules, breakingField? rule.fields = none)
    (read : readLines (numberedLines (rules.flatMap fun rule => Row.write rule ++ ['\n'])) = .ok others)
    (same : others.Perm rules) : ∀ rule ∈ rules, rule.Rereads := by
  rw [readLines_numberedLines_eq_ok] at read
  have shaped : ∀ rule ∈ others, rule.fields ≠ [] ∧ rule.type ≠ "" ∧ '\n' ∉ rule.type.toList := by
    intro rule back
    obtain ⟨line, inside, matched⟩ := Result.exists_of_forall₂ read back
    obtain ⟨cells, named, some⟩ := Row.read_eq_ok.1 matched
    obtain ⟨after, first⟩ := Row.readCell_of_readCells cells
    refine ⟨some, named, fun broken => ?_⟩
    exact not_mem_of_mem_lines (List.mem_of_mem_filter inside) (Row.mem_of_readCell first broken)
  have kept : ∀ rule ∈ rules, rule.fields ≠ [] ∧ rule.type ≠ "" ∧ '\n' ∉ rule.type.toList :=
    fun rule stored => shaped rule (same.mem_iff.2 stored)
  rw [lines_rows (fun rule stored => (kept rule stored).1) (fun rule stored => (kept rule stored).2.2)
    unbroken] at read
  -- As many rules as there are lines come back, so that no line is passed over.
  have all : (rules.map Row.write).filter (fun line => !isSkipped (trim line)) = rules.map Row.write := by
    apply List.filter_sublist.eq_of_length
    rw [read.length_eq, same.length_eq, List.length_map]
  rw [all, List.forall₂_map_left_iff] at read
  have cores := core_eq_of_perm (fun rule stored => (kept rule stored).1) read same
  intro rule stored
  obtain ⟨some, named, lines⟩ := kept rule stored
  obtain ⟨noQuote, core⟩ := cores rule stored
  obtain ⟨single, first, last⟩ := Row.of_core_eq core
  rw [trimStart_of_head first] at noQuote
  refine ⟨some, named, single, lines, ?_, noQuote, first, last⟩
  intro comment
  have kept := List.filter_eq_self.1 all (Row.write rule) (List.mem_map_of_mem stored)
  obtain ⟨more, start⟩ := List.head?_eq_some_iff.1 comment
  rw [isSkipped_trim, Row.write, start, List.cons_append, trimStart_cons (by decide)] at kept
  cases kept

end PolicyText

theorem RuleSet.toList_ofList_perm (rules : List Rule) : (ofList rules).toList.Perm rules := by
  have parted := List.filter_append_perm (fun rule : Rule => !rule.isGrouping) rules
  simp only [Bool.not_not] at parted
  exact parted

theorem RuleSet.ofList_toList_ofList (rules : List Rule) : ofList (ofList rules).toList = ofList rules := by
  simp [ofList, toList, List.filter_append, List.filter_filter]

namespace PolicyText
open Text

/-- Whatever rules are pushed into a rule set, it is written as a text unless a field breaks a line, and
then the first such rule is reported with its first such field. A text that is written is read as the
same rule set just when each rule has fields and a type that stands for itself. -/
theorem read_write_iff (rules : List Rule) :
    (∀ error, write (rules.foldl RuleSet.push .empty) = .error error ↔
      ∃ rule index, (rules.foldl RuleSet.push .empty).toList.find? Rule.isBroken = some rule ∧
        rule.fields.findIdx? breaksLine = some index ∧ error = .lineBreak rule.type index) ∧
    ((∃ error, write (rules.foldl RuleSet.push .empty) = .error error) ↔
      ∃ rule ∈ rules, ∃ field ∈ rule.fields, '\r' ∈ field.toList ∨ '\n' ∈ field.toList) ∧
    ∀ text, write (rules.foldl RuleSet.push .empty) = .ok text →
      (read text = .ok (rules.foldl RuleSet.push .empty) ↔ ∀ rule ∈ rules, rule.Rereads) := by
  rw [RuleSet.foldl_push]
  generalize stored : RuleSet.ofList rules = set
  have same : set.toList.Perm rules := stored ▸ RuleSet.toList_ofList_perm rules
  have rejected : ∀ error, write set = .error error ↔ writeRules set.toList = .error error := by
    intro error
    unfold write
    cases writeRules set.toList <;> simp [Except.map]
  refine ⟨fun error => (rejected error).trans writeRules_eq_error, ?_, ?_⟩
  · simp only [rejected, exists_writeRules_eq_error, same.mem_iff, Rule.isBroken_iff]
  · intro text written
    obtain ⟨rows, wrote, rfl⟩ := Result.map_eq_ok.1 written
    obtain ⟨unbroken, rfl⟩ := writeRules_eq_ok.1 wrote
    unfold read
    rw [String.toList_ofList, Result.map_eq_ok]
    constructor
    · rintro ⟨others, back, equal⟩
      have again : others.Perm set.toList := by
        rw [← equal]
        exact (RuleSet.toList_ofList_perm others).symm
      intro rule inside
      exact rereads_of_perm unbroken back again rule (same.mem_iff.2 inside)
    · intro rereads
      refine ⟨set.toList, readLines_write (fun rule inside => rereads rule (same.mem_iff.1 inside)) unbroken, ?_⟩
      rw [← stored, RuleSet.ofList_toList_ofList]

/-- Fields with commas, quotes and outer blanks, and an empty last field. -/
theorem read_write_of_awkward_fields :
    write ⟨[⟨"p", ["a,b", "say \"no\"", ""]⟩], [⟨"g", [" alice", "#1"]⟩]⟩ =
        .ok "p, \"a,b\", \"say \"\"no\"\"\", \ng, \" alice\", #1\n" ∧
      read "p, \"a,b\", \"say \"\"no\"\"\", \ng, \" alice\", #1\n" =
        .ok ⟨[⟨"p", ["a,b", "say \"no\"", ""]⟩], [⟨"g", [" alice", "#1"]⟩]⟩ := by
  have written : write ⟨[⟨"p", ["a,b", "say \"no\"", ""]⟩], [⟨"g", [" alice", "#1"]⟩]⟩ =
      .ok "p, \"a,b\", \"say \"\"no\"\"\", \ng, \" alice\", #1\n" := by rfl
  have rereads : ∀ rule ∈ [(⟨"g", [" alice", "#1"]⟩ : Rule), ⟨"p", ["a,b", "say \"no\"", ""]⟩],
      rule.Rereads := by
    intro rule stored
    simp only [List.mem_cons, List.not_mem_nil, or_false] at stored
    rcases stored with rfl | rfl <;> constructor <;> decide
  exact ⟨written, ((read_write_iff [⟨"g", [" alice", "#1"]⟩, ⟨"p", ["a,b", "say \"no\"", ""]⟩]).2.2
    _ written).2 rereads⟩

end PolicyText
end AccessControl
