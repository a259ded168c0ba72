import AccessControl.Proofs.Result
import AccessControl.Storage.Replacement
/-!
What actions ensure. An action ends in one of two ways, with a value or with a failure, and each of them
says something about the state that it leaves. What an action ensures is put together from what its steps
ensure. The actions on whole storages have no effect when they fail.
-/
namespace AccessControl.Action
variable {σ ε δ α β : Type} {state : σ} {yields : α → σ → Prop} {fails : ε → σ → Prop}

/-- Whether an action yields a value and leaves a state of one kind, or fails and leaves a state of
another. -/
def Ensures (action : Action σ ε α) (state : σ) (yields : α → σ → Prop) (fails : ε → σ → Prop) :
    Prop :=
  match action.run state with
  | (.ok value, after) => yields value after
  | (.error fault, after) => fails fault after

namespace Ensures

theorem of_pure {value : α} (holds : yields value state) :
    Ensures (pure value) state yields fails := holds

theorem of_throw {fault : ε} (holds : fails fault state) :
    Ensures (throw fault : Action σ ε α) state yields fails := holds

/-- A result is taken over without a change. -/
theorem of_lift {result : Except ε α} (ends : ∀ value, result = .ok value → yields value state)
    (failed : ∀ fault, result = .error fault → fails fault state) :
    Ensures (liftM result : Action σ ε α) state yields fails := by
  cases result with
  | ok value => exact ends value rfl
  | error fault => exact failed fault rfl

theorem of_set {yields : PUnit → σ → Prop} {after : σ} (holds : yields ⟨⟩ after) :
    Ensures (set after : Action σ ε PUnit) state yields fails := holds

theorem of_modify {yields : PUnit → σ → Prop} {change : σ → σ} (holds : yields ⟨⟩ (change state)) :
    Ensures (modify change : Action σ ε PUnit) state yields fails := holds

/-- The two ways in which an action ends. -/
theorem cases {action : Action σ ε α} (ensured : Ensures action state yields fails) :
    (∃ value after, action.run state = (.ok value, after) ∧ yields value after) ∨
      ∃ fault after, action.run state = (.error fault, after) ∧ fails fault after := by
  unfold Ensures at ensured
  generalize action.run state = ended at ensured ⊢
  obtain ⟨fault | value, after⟩ := ended
  · exact .inr ⟨fault, after, rfl, ensured⟩
  · exact .inl ⟨value, after, rfl, ensured⟩

theorem of_bind {action : Action σ ε α} {next : α → Action σ ε β} {middle : α → σ → Prop}
    {yields : β → σ → Prop} (first : Ensures action state middle fails)
    (rest : ∀ value after, middle value after → Ensures (next value) after yields fails) :
    Ensures (action >>= next) state yields fails := by
  have run : (action >>= next).run state =
      ExceptT.bindCont next (action.run state).1 (action.run state).2 := rfl
  unfold Ensures
  rw [run]
  rcases first.cases with ⟨value, after, ended, holds⟩ | ⟨fault, after, ended, holds⟩
  · rw [ended]
    exact rest value after holds
  · rw [ended]
    exact holds

theorem of_get_bind {next : σ → Action σ ε α} (rest : Ensures (next state) state yields fails) :
    Ensures (get >>= next) state yields fails := rest

theorem of_lift_bind {result : Except ε α} {next : α → Action σ ε β} {yields : β → σ → Prop}
    (rest : ∀ value, result = .ok value → Ensures (next value) state yields fails)
    (failed : ∀ fault, result = .error fault → fails fault state) :
    Ensures (liftM result >>= next) state yields fails := by
  cases result with
  | ok value => exact rest value rfl
  | error fault => exact failed fault rfl

/-- A failure that is caught leaves the rest to what is done about it. -/
theorem of_catch {action : Action σ ε α} {handle : ε → Action σ ε α} {caught : ε → σ → Prop}
    (first : Ensures action state yields caught)
    (rest : ∀ fault after, caught fault after → Ensures (handle fault) after yields fails) :
    Ensures (tryCatch action handle) state yields fails := by
  have run : (tryCatch action handle).run state =
      (match (action.run state).1 with
      | .ok value => (pure value : Action σ ε α)
      | .error fault => handle fault).run (action.run state).2 := rfl
  unfold Ensures
  rw [run]
  rcases first.cases with ⟨value, after, ended, holds⟩ | ⟨fault, after, ended, holds⟩
  · rw [ended]
    exact holds
  · rw [ended]
    exact rest fault after holds

/-- A failure that is told in other words. -/
theorem of_adapt {action : Action σ ε α} {change : ε → δ} {fails : δ → σ → Prop}
    (ensured : Ensures action state yields fun fault => fails (change fault)) :
    Ensures (ExceptT.adapt change action) state yields fails := by
  have run : (ExceptT.adapt change action).run state =
      ((action.run state).1.mapError change, (action.run state).2) := rfl
  unfold Ensures
  rw [run]
  rcases ensured.cases with ⟨value, after, ended, holds⟩ | ⟨fault, after, ended, holds⟩
  · rw [ended]
    exact holds
  · rw [ended]
    exact holds

theorem mono {action : Action σ ε α} {yields' : α → σ → Prop} {fails' : ε → σ → Prop}
    (ensured : Ensures action state yields fails)
    (weaker : ∀ value after, yields value after → yields' value after)
    (weaker' : ∀ fault after, fails fault after → fails' fault after) :
    Ensures action state yields' fails' := by
  unfold Ensures
  rcases ensured.cases with ⟨value, after, ended, holds⟩ | ⟨fault, after, ended, holds⟩
  · rw [ended]
    exact weaker value after holds
  · rw [ended]
    exact weaker' fault after holds

end Ensures

/-- A step goes on from where the one before it has ended well. -/
theorem run_bind_of_ok {action : Action σ ε α} {next : α → Action σ ε β} {value : α} {after : σ}
    (first : action.run state = (.ok value, after)) :
    (action >>= next).run state = (next value).run after := by
  change ExceptT.bindCont next (action.run state).1 (action.run state).2 = _
  rw [first]
  rfl

/-- The outcome of two steps is put together from theirs. -/
theorem outcome_bind (action : Action σ ε α) (next : α → Action σ ε β) (state : σ) :
    (action >>= next).outcome state =
      action.outcome state >>= fun result => (next result.1).outcome result.2 := by
  have run : (action >>= next).run state =
      ExceptT.bindCont next (action.run state).1 (action.run state).2 := rfl
  unfold outcome
  rw [run]
  obtain ⟨fault | value, after⟩ := action.run state
  · rfl
  · rfl

theorem outcome_get_bind (next : σ → Action σ ε α) (state : σ) :
    (get >>= next).outcome state = (next state).outcome state := rfl

theorem outcome_lift (result : Except ε α) (state : σ) :
    (liftM result : Action σ ε α).outcome state = result.map (·, state) := by
  cases result <;> rfl

/-- Whether an action has an intended outcome, or else fails, for some reason or because the intended
outcome is a failure, and changes nothing. -/
def Follows (reason : ε → Prop) (action : Action σ ε α) (state : σ)
    (intended : Except ε (α × σ)) : Prop :=
  action.Ensures state (fun value after => intended = .ok (value, after))
    fun fault after => (reason fault ∨ intended = .error fault) ∧ after = state

namespace Follows
variable {reason : ε → Prop}

theorem lift (result : Except ε α) : Follows reason (liftM result) state (result.map (·, state)) := by
  refine .of_lift (fun value same => ?_) fun fault same => ⟨.inr ?_, rfl⟩
  · rw [same]
    rfl
  · rw [same]
    rfl

theorem throw {fault : ε} {intended : Except ε (α × σ)} (given : reason fault) :
    Follows reason (throw fault) state intended := .of_throw ⟨.inl given, rfl⟩

theorem get_bind {next : σ → Action σ ε α} {intended : Except ε (α × σ)}
    (rest : Follows reason (next state) state intended) :
    Follows reason (get >>= next) state intended := rest

/-- A result is made the state, or something that is made of the result. -/
theorem lift_bind {result : Except ε α} {update : α → Action σ ε PUnit} {after : α → σ}
    (updates : ∀ value, (update value).run state = (.ok ⟨⟩, after value)) :
    Follows reason (liftM result >>= update) state (result.map fun value => (PUnit.unit, after value)) := by
  refine .of_lift_bind (fun value same => ?_) fun fault same => ⟨.inr ?_, rfl⟩
  · unfold Ensures
    rw [same, updates]
    rfl
  · rw [same]
    rfl

/-- An action may change the state after one that does not. -/
theorem bind {action : Action σ ε α} {next : α → Action σ ε β} {first : Except ε α}
    {rest : α → Except ε (β × σ)} (started : Follows reason action state (first.map (·, state)))
    (goesOn : ∀ value, first = .ok value → Follows reason (next value) state (rest value)) :
    Follows reason (action >>= next) state (first >>= rest) := by
  refine .of_bind (Ensures.mono started (fun _ _ same => same) ?_) ?_
  · rintro fault after ⟨given | same, kept⟩
    · exact ⟨.inl given, kept⟩
    · rw [Result.map_eq_error.1 same]
      exact ⟨.inr rfl, kept⟩
  · intro value after same
    obtain ⟨_, done, same⟩ := Result.map_eq_ok.1 same
    cases same
    rw [done]
    exact goesOn value done

/-- A failure that is told in other words has its reasons in other words. -/
theorem adapt {action : Action σ ε α} {intended : Except ε (α × σ)} {change : ε → δ}
    {reason' : δ → Prop} (follows : Follows reason action state intended)
    (told : ∀ fault, reason fault → reason' (change fault)) :
    Follows reason' (ExceptT.adapt change action) state (intended.mapError change) := by
  refine .of_adapt (Ensures.mono follows ?_ ?_)
  · intro value after same
    rw [same]
    rfl
  · rintro fault after ⟨given | same, kept⟩
    · exact ⟨.inl (told fault given), kept⟩
    · rw [same]
      exact ⟨.inr rfl, kept⟩

/-- An action without a value leads to the intended state, or changes nothing. -/
theorem ensures {action : Action σ ε Unit} {result : Except ε σ}
    (follows : Follows reason action state (result.map ((), ·))) :
    action.Ensures state (fun _ after => result = .ok after)
      fun fault after => (reason fault ∨ result = .error fault) ∧ after = state := by
  refine Ensures.mono follows ?_ fun _ _ failed => ⟨failed.1.imp_right Result.map_eq_error.1, failed.2⟩
  intro _ after same
  obtain ⟨_, done, same⟩ := Result.map_eq_ok.1 same
  cases same
  exact done

section Reliable
variable (reliable : ∀ fault, ¬reason fault)
include reliable

/-- The value of an action that has no reason to fail and does not change the state. -/
theorem value_eq {action : Action σ ε α} {result : Except ε α}
    (follows : Follows reason action state (result.map (·, state))) : action.value state = result := by
  unfold value
  rcases Ensures.cases follows with ⟨value, after, ended, same⟩ | ⟨fault, after, ended, given | same, -⟩
  · obtain ⟨_, done, same⟩ := Result.map_eq_ok.1 same
    cases same
    rw [ended, done]
  · exact absurd given (reliable fault)
  · rw [ended, Result.map_eq_error.1 same]

/-- The state that an action without a reason to fail leads to. -/
theorem after_eq {action : Action σ ε Unit} {result : Except ε σ}
    (follows : Follows reason action state (result.map ((), ·))) : action.after state = result := by
  unfold after
  rcases follows.ensures.cases with ⟨_, after, ended, done⟩ | ⟨fault, after, ended, given | failed, -⟩
  · rw [ended, done]
  · exact absurd given (reliable fault)
  · rw [ended, failed]

end Reliable
end Follows
end AccessControl.Action
