import AccessControl.Proofs.Model.Layout
/-!
Comments in models. Between definitions a line that starts with `#` is passed over: with it and without it
a text is read as the same model, or has the same fault on a line whose number may be one more. Where a
definition goes on over the end of the line above, the line belongs to the definition. There only the effect
and the matcher can take it, which then end with it; any other definition is refused with it, like a header.
-/
namespace AccessControl

namespace Model
open Text

/-- Whether a definition goes on behind a line, given whether one goes on in front of it. -/
def goesOn (inside : Bool) (line : List Char) : Bool :=
  (trim line).getLast? == some '\\' && (inside || (trim line).head? != some '#')

/-- Whether a definition goes on over the end of some lines. -/
def isUnended (lines : List (List Char)) : Bool := lines.foldl goesOn false

/-- The definition, or header, that goes on to the last of some lines. -/
def lastDefinition? (lines : List (List Char)) : Option (List Char) :=
  (logicalLines (lines.map fun line => (0, line)) none).getLast?.map (·.text)

/-- What a line defines, if it is a definition. -/
def Part.ofLine? (line : List Char) : Option Part :=
  if line.head? = some '[' then none else (cut? '=' line).bind fun (key, _) => ofKey? (trim key)

/-- Whatever comes behind some lines, they give the same definitions, and the last goes on or not. -/
theorem exists_logicalLines_append (front : List (Nat × List Char)) (pending? : Option Pending) :
    ∃ done later?, (∀ back, logicalLines (front ++ back) pending? = done ++ logicalLines back later?) ∧
      later?.isSome = (front.map (·.2)).foldl goesOn pending?.isSome := by
  induction front generalizing pending? with
  | nil => exact ⟨[], pending?, fun _ => rfl, rfl⟩
  | cons first rest ih =>
    obtain ⟨number, raw⟩ := first
    simp only [List.cons_append, logicalLines, List.map_cons, List.foldl_cons]
    -- The line is passed over, or it leaves a definition unended, or it ends one.
    by_cases skipped : (pending?.isNone && ((trim raw).isEmpty || (trim raw).head? == some '#')) = true
    · have ended : goesOn pending?.isSome raw = false := by
        rw [Bool.and_eq_true, Option.isNone_iff_eq_none, Bool.or_eq_true, List.isEmpty_iff] at skipped
        obtain ⟨rfl, blank | comment⟩ := skipped
        · simp [goesOn, blank]
        · simp [goesOn, bne, comment]
      simp only [if_pos skipped]
      rw [ended]
      exact ih none
    · simp only [if_neg skipped]
      by_cases last : (trim raw).getLast? = some '\\'
      · have continued : goesOn pending?.isSome raw = true := by
          cases pending? with
          | some pending => simp [goesOn, last]
          | none => simp_all [goesOn]
        simp only [if_pos last]
        rw [continued]
        exact ih (some _)
      · have ended : goesOn pending?.isSome raw = false := by simp [goesOn, last]
        simp only [if_neg last]
        rw [ended]
        obtain ⟨done, later?, split, same⟩ := ih none
        exact ⟨_ :: done, later?, fun back => by rw [split, List.cons_append], same⟩

section Renumber
variable (change : Nat → Nat)

/-- The same definition on a line of another number. -/
def Pending.renumber (pending : Pending) : Pending := { pending with number := change pending.number }

/-- The same fault on a line of another number. -/
def Fault.renumber : Fault → Fault
  | line number fault => line (change number) fault
  | missing part => missing part

/-- Definitions are joined without regard to the numbers of their lines. -/
theorem logicalLines_renumber (lines : List (Nat × List Char)) (pending? : Option Pending) :
    logicalLines (lines.map fun line => (change line.1, line.2)) (pending?.map (.renumber change)) =
      (logicalLines lines pending?).map (.renumber change) := by
  induction lines generalizing pending? with
  | nil => cases pending? <;> rfl
  | cons first rest ih =>
    obtain ⟨number, raw⟩ := first
    have start : (pending?.map (.renumber change)).getD ⟨change number, []⟩ =
        (pending?.getD ⟨number, []⟩).renumber change := by
      cases pending? <;> rfl
    simp only [List.map_cons, logicalLines, Option.isNone_map, start]
    split
    · exact ih none
    · split
      · exact ih (some ((pending?.getD ⟨number, []⟩).join _))
      · exact congrArg _ (ih none)

/-- Lines are read without regard to their numbers, which only a fault tells. -/
theorem Draft.readLines_renumber (draft : Draft) (lines : List Pending) :
    draft.readLines (lines.map (.renumber change)) =
      (draft.readLines lines).mapError (.renumber change) := by
  induction lines generalizing draft with
  | nil => rfl
  | cons line rest ih =>
    have text : (line.renumber change).text = line.text := rfl
    rw [List.map_cons, readLines, readLines, text]
    cases draft.readLine line.text with
    | error fault => rfl
    | ok next => exact ih next

/-- What a text lacks as a whole is on no line. -/
theorem Draft.complete_renumber (draft : Draft) :
    draft.complete.mapError (.renumber change) = draft.complete := by
  unfold complete
  split
  · rfl
  · split
    · rfl
    · split <;> rfl

end Renumber

/-- A comment between definitions is passed over. -/
theorem ofText_eq_of_comment {text longer : String} {front back : List (List Char)} {comment : List Char}
    (whole : lines text.toList = front ++ back) (inserted : lines longer.toList = front ++ comment :: back)
    (start : (trim comment).head? = some '#') (ended : isUnended front = false) :
    ofText longer = (ofText text).mapError (.renumber (numberBehind front.length)) := by
  obtain ⟨before, after, longer', text', same⟩ := exists_numberedLines_insert whole inserted
  obtain ⟨done, later?, split, unended⟩ := exists_logicalLines_append before none
  have nothing : later? = none := by
    rw [same] at unended
    exact Option.isNone_iff_eq_none.1 (Option.isSome_eq_false_iff.1 (unended.trans ended))
  have passed : logicalLines (numberedLines longer.toList) none =
      (logicalLines (numberedLines text.toList) none).map (.renumber (numberBehind front.length)) := by
    have skipped : logicalLines ((front.length + 1, comment) :: after) none = logicalLines after none :=
      Draft.logicalLines_skipped (.inr start)
    have renumbered := logicalLines_renumber (numberBehind front.length) (numberedLines text.toList) none
    rw [Option.map_none, text', split, nothing] at renumbered
    rw [longer', split, nothing, skipped, renumbered]
  unfold ofText
  rw [passed, Draft.readLines_renumber]
  cases Draft.readLines {} (logicalLines (numberedLines text.toList) none) with
  | error fault => rfl
  | ok draft => exact (draft.complete_renumber _).symm

/-- In a definition that goes on, a comment is joined to what comes before it and ends the definition. -/
theorem exists_definition_of_comment {longer : List Char} {front back : List (List Char)}
    {comment : List Char} (inserted : lines longer = front ++ comment :: back)
    (unended : isUnended front = true) (last : (trim comment).getLast? ≠ some '\\') :
    ∃ done line later, logicalLines (numberedLines longer) none = done ++ line :: later ∧
      lastDefinition? (front ++ [comment]) = some line.text ∧ trim comment <:+ line.text := by
  have numbered := map_numberedLines longer
  rw [inserted] at numbered
  obtain ⟨before, rest, longer', same, more⟩ := List.map_eq_append_iff.1 numbered
  obtain ⟨⟨number, raw⟩, after, rfl, rfl, -⟩ := List.map_eq_cons_iff.1 more
  obtain ⟨done, later?, split, within⟩ := exists_logicalLines_append before none
  rw [same] at within
  obtain ⟨pending, rfl⟩ := Option.isSome_iff_exists.1 (within.trans unended)
  have joined (back : List (Nat × List Char)) : logicalLines (before ++ (number, raw) :: back) none =
      done ++ pending.join (trim raw) :: logicalLines back none := by
    rw [split, logicalLines]
    simp only [Option.isNone_some, Bool.false_and, Bool.false_eq_true, if_false, if_neg last,
      Option.getD_some]
  refine ⟨done, pending.join (trim raw), logicalLines after none, ?_, ?_, ?_⟩
  · rw [longer', joined]
  · have renumbered := logicalLines_renumber (fun _ => 0) (before ++ [(number, raw)]) none
    rw [joined, List.map_append, Option.map_none] at renumbered
    have zeros : (front ++ [raw]).map (fun line => (0, line)) =
        before.map (fun line => (0, line.2)) ++ [(number, raw)].map fun line => (0, line.2) := by
      rw [← same, List.map_append, List.map_map]
      rfl
    rw [lastDefinition?, zeros, renumbered, logicalLines, List.map_append, List.getLast?_append]
    rfl
  · unfold Pending.join
    split
    · exact List.suffix_rfl
    · exact List.suffix_append_of_suffix (List.suffix_cons ' ' _)

/-- A key has letters and digits between its blanks, and nothing else. -/
theorem Part.not_mem_of_ofKey? {key : List Char} {part : Part} (kind : ofKey? (trim key) = some part) {c : Char}
    (solid : isSpace c = false) (other : c.isAlphanum = false) : c ∉ key := by
  intro inside
  have word := isAlphanum_of_ofKey? kind c ((mem_trim solid).2 inside)
  rw [other] at word
  cases word

/-- A definition is no header. -/
theorem Part.ofLine?_of_ofKey? {line key value : List Char} {part : Part}
    (parted : cut? '=' line = some (key, value)) (kind : ofKey? (trim key) = some part) :
    ofLine? line = some part := by
  have other : line.head? ≠ some '[' := by
    intro bracket
    rw [(eq_of_cut? parted).1] at bracket
    cases key with
    | nil => cases bracket
    | cons c rest =>
      cases bracket
      exact not_mem_of_ofKey? kind (by decide) (by decide) List.mem_cons_self
  rw [ofLine?, if_neg other, parted]
  exact kind

theorem Part.title_of_ofHeader? {name : String} {part : Part} (known : ofHeader? name = some part) :
    part.title = name := by
  unfold ofHeader? at known
  split at known
  all_goals cases known
  all_goals rfl

/-- Every character of a list is in one of its items, but for commas and blanks. -/
theorem exists_item_of_mem {value : List Char} {c : Char} (inside : c ∈ value) (other : c ≠ ',')
    (solid : isSpace c = false) : ∃ item ∈ items value, c ∈ item.toList := by
  obtain ⟨piece, among, found⟩ := exists_mem_splitOn inside other
  refine ⟨String.ofList (trim piece), List.mem_map_of_mem among, ?_⟩
  rw [String.toList_ofList]
  exact (mem_trim solid).2 found

/-- No list of fields has a `#` in it. -/
theorem hash_of_readFields {key : String} {value : List Char} {names : List String}
    (done : readFields key [] (items value) = .ok names) : '#' ∉ value := by
  intro inside
  obtain ⟨item, among, found⟩ := exists_item_of_mem inside (by decide) (by decide)
  obtain ⟨c, rest, spelled, first, later⟩ := ((readFields_eq_ok List.nodup_nil).1 done).2.2 item among
  rw [spelled] at found
  rcases List.mem_cons.1 found with rfl | within
  · revert first
    decide
  · have word := later _ within
    revert word
    decide

/-- The placeholders of a role definition have no `#` in them. -/
theorem hash_of_readShape {key : String} {value : List Char} {shape : RoleShape}
    (done : readShape key (items value) = .ok shape) : '#' ∉ value := by
  intro inside
  obtain ⟨item, among, found⟩ := exists_item_of_mem inside (by decide) (by decide)
  have placeholder : item = "_" := by
    unfold readShape at done
    split at done
    next same =>
      rw [same] at among
      simpa using among
    next =>
      split at done
      next same =>
        rw [same] at among
        simpa using among
      next => cases done
  rw [placeholder] at found
  revert found
  decide

namespace Draft
variable {draft after : Draft} {expression : String}

/-- Whether an expression is what the effect, or the matcher, has been defined to be. -/
inductive States (draft : Draft) (expression : String) : Part → Prop
  | effect (known : "e" ∈ draft.keys) (stated : draft.effect? = some expression) :
    States draft expression .effect
  | matcher (known : "m" ∈ draft.keys) (stated : draft.matcher? = some expression) :
    States draft expression .matcher

/-- An expression that has been read stays, as its key is not taken again. -/
theorem States.readLine {stated : Part} (states : draft.States expression stated) {line : List Char}
    (done : draft.readLine line = .ok after) : after.States expression stated := by
  rcases readLine_cases done with ⟨header, part, -, -, -, rfl⟩ | ⟨key, value, -, defined⟩
  · cases states with
    | effect known same => exact .effect known same
    | matcher known same => exact .matcher known same
  · obtain ⟨part, kind, -, fresh, -, entered⟩ := define_cases defined
    obtain ⟨keys, -, effect, matcher⟩ := enter_frame entered
    cases states with
    | effect known stated =>
      have other : part ≠ .effect := by
        rintro rfl
        rw [Part.eq_letter kind nofun nofun] at fresh
        exact fresh known
      exact .effect (keys ▸ List.mem_cons_of_mem _ known) ((effect other).trans stated)
    | matcher known stated =>
      have other : part ≠ .matcher := by
        rintro rfl
        rw [Part.eq_letter kind nofun nofun] at fresh
        exact fresh known
      exact .matcher (keys ▸ List.mem_cons_of_mem _ known) ((matcher other).trans stated)

theorem States.readLines {stated : Part} (states : draft.States expression stated) {lines : List Pending}
    (done : draft.readLines lines = .ok after) : after.States expression stated :=
  readLines_preserves (fun _ _ _ _ before read => States.readLine before read) states done

theorem States.complete {stated : Part} (states : draft.States expression stated) {model : Model}
    (done : draft.complete = .ok model) :
    stated = .effect ∧ model.effect = expression ∨ stated = .matcher ∧ model.matcher = expression := by
  have gives := complete_eq_ok.1 done
  cases states with
  | effect _ same => exact .inl ⟨rfl, Option.some.inj (gives.effect.symm.trans same)⟩
  | matcher _ same => exact .inr ⟨rfl, Option.some.inj (gives.matcher.symm.trans same)⟩

theorem readLines_append (draft : Draft) (first later : List Pending) :
    draft.readLines (first ++ later) = draft.readLines first >>= (readLines · later) := by
  induction first generalizing draft with
  | nil => rfl
  | cons line rest ih =>
    rw [List.cons_append, readLines, readLines]
    cases draft.readLine line.text with
    | error fault => rfl
    | ok next => exact ih next

section Comment
variable {comment line : List Char} (start : comment.head? = some '#') (ends : comment <:+ line)
include start ends

/-- A line that is the header of a kind does not end with a comment. -/
theorem not_header_of_comment {header : List Char} (same : line = '[' :: header)
    (last : header.getLast? = some ']') {part : Part}
    (known : Part.ofHeader? (String.ofList (trim header.dropLast)) = some part) : False := by
  have hash : '#' ∈ header := by
    have inside := ends.subset (List.mem_of_head? start)
    rw [same] at inside
    exact (List.mem_cons.1 inside).resolve_left (by decide)
  obtain ⟨name, rfl⟩ := List.getLast?_eq_some_iff.1 last
  rw [List.dropLast_concat] at known
  have title := Part.title_of_ofHeader? known
  have within : '#' ∈ name := by
    refine (List.mem_append.1 hash).resolve_right fun behind => ?_
    exact absurd (List.mem_singleton.1 behind) (by decide)
  have among : '#' ∈ part.title.toList := by
    rw [title, String.toList_ofList]
    exact (mem_trim (by decide)).2 within
  revert among
  cases part <;> decide

/-- A comment at the end of a definition is at the end of its value. -/
theorem suffix_value_of_comment {key value : List Char} (parted : cut? '=' line = some (key, value))
    {part : Part} (kind : Part.ofKey? (trim key) = some part) : comment <:+ value := by
  have fresh : '#' ∉ key := Part.not_mem_of_ofKey? kind (by decide) (by decide)
  obtain ⟨rest, rfl⟩ := List.head?_eq_some_iff.1 start
  obtain ⟨front, whole⟩ := ends
  rw [(eq_of_cut? parted).1] at whole
  -- A comment that starts in front of the value starts in the key or with the equals sign.
  rcases List.append_eq_append_iff.1 whole with ⟨more, rfl, same⟩ | ⟨more, rfl, same⟩
  · cases more with
    | nil => cases same
    | cons c more =>
      cases same
      exact absurd (List.mem_append_right front List.mem_cons_self) fresh
  · cases more with
    | nil => cases same
    | cons c more =>
      cases same
      exact List.suffix_append more _

/-- Where a line that ends with a comment is read, it defines the effect or the matcher, which ends with the
comment. -/
theorem states_of_comment (trimmed : Trimmed comment) (done : draft.readLine line = .ok after) :
    ∃ part expression, Part.ofLine? line = some part ∧ after.States expression part ∧
      comment <:+ expression.toList := by
  rcases readLine_cases done with ⟨header, part, same, last, known, -⟩ | ⟨key, value, parted, defined⟩
  · exact (not_header_of_comment start ends same last known).elim
  · obtain ⟨part, kind, -, -, -, entered⟩ := define_cases defined
    have some : comment ≠ [] := by
      rintro rfl
      cases start
    have kept := trimmed.suffix_trim some (suffix_value_of_comment start ends parted kind)
    have hash : '#' ∈ (String.ofList (trim value)).toList := by
      rw [String.toList_ofList]
      exact kept.subset (List.mem_of_head? start)
    refine ⟨part, String.ofList (trim value), Part.ofLine?_of_ofKey? parted kind, ?_,
      by rwa [String.toList_ofList]⟩
    cases part with
    | request =>
      obtain ⟨names, read, -⟩ := Result.bind_eq_ok.1 entered
      exact absurd hash (hash_of_readFields read)
    | policy =>
      obtain ⟨names, read, -⟩ := Result.bind_eq_ok.1 entered
      exact absurd hash (hash_of_readFields read)
    | role =>
      obtain ⟨shape, read, -⟩ := Result.bind_eq_ok.1 entered
      exact absurd hash (hash_of_readShape read)
    | effect =>
      rw [Part.eq_letter kind nofun nofun] at entered
      cases entered
      exact .effect List.mem_cons_self rfl
    | matcher =>
      rw [Part.eq_letter kind nofun nofun] at entered
      cases entered
      exact .matcher List.mem_cons_self rfl

end Comment
end Draft

/-- In a definition that goes on, a comment belongs to the effect or the matcher. -/
theorem exists_part_of_comment {longer : String} {front back : List (List Char)} {comment : List Char}
    (inserted : lines longer.toList = front ++ comment :: back) (start : (trim comment).head? = some '#')
    (unended : isUnended front = true) (last : (trim comment).getLast? ≠ some '\\') :
    ∃ definition, lastDefinition? (front ++ [comment]) = some definition ∧ trim comment <:+ definition ∧
      ∀ model, ofText longer = .ok model →
        Part.ofLine? definition = some .effect ∧ trim comment <:+ model.effect.toList ∨
          Part.ofLine? definition = some .matcher ∧ trim comment <:+ model.matcher.toList := by
  obtain ⟨done, line, later, split, whole, ends⟩ := exists_definition_of_comment inserted unended last
  refine ⟨line.text, whole, ends, fun model read => ?_⟩
  obtain ⟨draft, drafted, complete⟩ := Result.bind_eq_ok.1 read
  rw [split, Draft.readLines_append] at drafted
  obtain ⟨before, -, rest⟩ := Result.bind_eq_ok.1 drafted
  unfold Draft.readLines at rest
  split at rest
  · cases rest
  next after here =>
    obtain ⟨part, expression, defines, states, kept⟩ :=
      Draft.states_of_comment start ends (trimmed_trim comment) here
    rcases (states.readLines rest).complete complete with ⟨rfl, same⟩ | ⟨rfl, same⟩
    · exact .inl ⟨defines, same ▸ kept⟩
    · exact .inr ⟨defines, same ▸ kept⟩

/-- A comment can be put at any place between the lines of a text. Between definitions it is passed over:
the same model is read, or the same fault is found on its line, which is the next one if it stands behind the
comment. Where a definition goes on over the end of the line above, the comment belongs to the definition:
if the text is read at all, that is the definition of the effect or of the matcher, which ends with the
comment. A header or any other definition is refused with it. -/
theorem ofText_comment {text : String} {front back : List (List Char)}
    (whole : lines text.toList = front ++ back) {comment : List Char} (unbroken : '\n' ∉ comment)
    (start : (trim comment).head? = some '#') :
    (∃ longer : String, lines longer.toList = front ++ comment :: back) ∧
    ∀ longer : String, lines longer.toList = front ++ comment :: back →
      (isUnended front = false →
        ofText longer = (ofText text).mapError (.renumber (numberBehind front.length))) ∧
      (isUnended front = true → (trim comment).getLast? ≠ some '\\' →
        ∃ definition, lastDefinition? (front ++ [comment]) = some definition ∧ trim comment <:+ definition ∧
          (∀ model, ofText longer = .ok model →
            Part.ofLine? definition = some .effect ∧ trim comment <:+ model.effect.toList ∨
              Part.ofLine? definition = some .matcher ∧ trim comment <:+ model.matcher.toList) ∧
          (Part.ofLine? definition ≠ some .effect → Part.ofLine? definition ≠ some .matcher →
            ∃ fault, ofText longer = .error fault)) := by
  constructor
  · have lineFeeds : ∀ line ∈ front ++ comment :: back, '\n' ∉ line := by
      intro line inside
      rw [List.mem_append, List.mem_cons, or_left_comm, ← List.mem_append, ← whole] at inside
      rcases inside with rfl | among
      · exact unbroken
      · exact not_mem_of_mem_lines among
    obtain ⟨longer, same⟩ := exists_lines_eq lineFeeds
    exact ⟨String.ofList longer, by rw [String.toList_ofList, same]⟩
  · intro longer inserted
    refine ⟨ofText_eq_of_comment whole inserted start, fun unended last => ?_⟩
    obtain ⟨definition, joined, ends, takes⟩ := exists_part_of_comment inserted start unended last
    refine ⟨definition, joined, ends, takes, fun noEffect noMatcher => ?_⟩
    cases read : ofText longer with
    | error fault => exact ⟨fault, rfl⟩
    | ok model =>
      rcases takes model read with ⟨effect, -⟩ | ⟨matcher, -⟩
      · exact absurd effect noEffect
      · exact absurd matcher noMatcher

/-- A comment behind a definition of two lines, one that ends a matcher, and one among the fields of a request
in a text whose matcher ends with the same comment. -/
theorem ofText_comment_of_continuations :
    ofText "r = sub, \\\nobj\n # who\np = sub\ne = priority(p.eft)\nm = true" =
      .ok ⟨["sub", "obj"], .ofList [("p", ["sub"])], .empty, "priority(p.eft)", "true"⟩ ∧
    (Part.ofLine? "m = true # always".toList = some .effect ∧ "# always".toList <:+ "priority(p.eft)".toList ∨
      Part.ofLine? "m = true # always".toList = some .matcher ∧
        "# always".toList <:+ "true # always".toList) ∧
    ∃ fault, ofText "r = sub \\\n# a\np = sub\ne = priority(p.eft)\nm = true # a" = .error fault := by
  refine ⟨?_, ?_, ?_⟩
  · have whole : lines "r = sub, \\\nobj\np = sub\ne = priority(p.eft)\nm = true".toList =
        ["r = sub, \\".toList, "obj".toList] ++
          ["p = sub".toList, "e = priority(p.eft)".toList, "m = true".toList] := by decide +kernel
    have inserted : lines "r = sub, \\\nobj\n # who\np = sub\ne = priority(p.eft)\nm = true".toList =
        ["r = sub, \\".toList, "obj".toList] ++
          " # who".toList :: ["p = sub".toList, "e = priority(p.eft)".toList, "m = true".toList] := by
      decide +kernel
    have passed := ((ofText_comment whole (by decide) (by decide +kernel)).2 _ inserted).1 (by decide +kernel)
    rw [passed]
    rfl
  · have whole : lines "r = sub\np = sub\ne = priority(p.eft)\nm = true \\\n".toList =
        ["r = sub".toList, "p = sub".toList, "e = priority(p.eft)".toList, "m = true \\".toList] ++ [] := by
      decide +kernel
    have inserted : lines "r = sub\np = sub\ne = priority(p.eft)\nm = true \\\n# always".toList =
        ["r = sub".toList, "p = sub".toList, "e = priority(p.eft)".toList, "m = true \\".toList] ++
          "# always".toList :: [] := by decide +kernel
    have read : ofText "r = sub\np = sub\ne = priority(p.eft)\nm = true \\\n# always" =
        .ok ⟨["sub"], .ofList [("p", ["sub"])], .empty, "priority(p.eft)", "true # always"⟩ := rfl
    obtain ⟨definition, joined, -, takes, -⟩ :=
      ((ofText_comment whole (by decide) (by decide +kernel)).2 _ inserted).2 (by decide +kernel)
        (by decide +kernel)
    have same : definition = "m = true # always".toList :=
      Option.some.inj (joined.symm.trans (by decide +kernel))
    exact same ▸ takes _ read
  · have whole : lines "r = sub \\\np = sub\ne = priority(p.eft)\nm = true # a".toList =
        ["r = sub \\".toList] ++
          ["p = sub".toList, "e = priority(p.eft)".toList, "m = true # a".toList] := by decide +kernel
    have inserted : lines "r = sub \\\n# a\np = sub\ne = priority(p.eft)\nm = true # a".toList =
        ["r = sub \\".toList] ++
          "# a".toList :: ["p = sub".toList, "e = priority(p.eft)".toList, "m = true # a".toList] := by
      decide +kernel
    obtain ⟨definition, joined, -, -, refused⟩ :=
      ((ofText_comment whole (by decide) (by decide +kernel)).2 _ inserted).2 (by decide +kernel)
        (by decide +kernel)
    have same : definition = "r = sub # a".toList := Option.some.inj (joined.symm.trans (by decide +kernel))
    rw [same] at refused
    exact refused (by decide +kernel) (by decide +kernel)

/-- In a definition that goes on, a comment is not passed over. -/
theorem not_passed_of_continued : ¬∀ (text longer : String) (front back : List (List Char))
    (comment : List Char), lines text.toList = front ++ back →
      lines longer.toList = front ++ comment :: back → (trim comment).head? = some '#' →
      (trim comment).getLast? ≠ some '\\' → ∀ model, ofText text = .ok model ↔ ofText longer = .ok model := by
  intro passed
  have read : ofText "r = sub, \\\nobj\np = sub\ne = priority(p.eft)\nm = true" =
      .ok ⟨["sub", "obj"], .ofList [("p", ["sub"])], .empty, "priority(p.eft)", "true"⟩ := rfl
  have refused : ofText "r = sub, \\\n# who\nobj\np = sub\ne = priority(p.eft)\nm = true" =
      .error (.line 1 (.invalidField "# who" "r")) := rfl
  have whole : lines "r = sub, \\\nobj\np = sub\ne = priority(p.eft)\nm = true".toList =
      ["r = sub, \\".toList] ++
        ["obj".toList, "p = sub".toList, "e = priority(p.eft)".toList, "m = true".toList] := by decide +kernel
  have inserted : lines "r = sub, \\\n# who\nobj\np = sub\ne = priority(p.eft)\nm = true".toList =
      ["r = sub, \\".toList] ++ "# who".toList ::
        ["obj".toList, "p = sub".toList, "e = priority(p.eft)".toList, "m = true".toList] := by decide +kernel
  have same := (passed _ _ _ _ _ whole inserted (by decide +kernel) (by decide +kernel) _).1 read
  rw [refused] at same
  cases same

end Model
end AccessControl
