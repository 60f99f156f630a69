/-!
# Outcomes

Small facts about computations that yield a value or an error, and that may change a state
on the way.
-/

namespace DomainGen

variable {ε δ α β : Type}

@[simp] theorem mapError_ok (change : ε → δ) (value : α) :
    (Except.ok value : Except ε α).mapError change = .ok value := rfl

@[simp] theorem mapError_error (change : ε → δ) (failure : ε) :
    (Except.error failure : Except ε α).mapError change = .error (change failure) := rfl

theorem eq_ok_of_toOption {result : Except ε α} {value : α}
    (found : result.toOption = some value) : result = .ok value := by
  cases result with
  | error => contradiction
  | ok other => rw [Option.some.inj found]

theorem toOption_eq_some_iff {result : Except ε α} {value : α} :
    result.toOption = some value ↔ result = .ok value :=
  ⟨eq_ok_of_toOption, congrArg Except.toOption⟩

/-- A computation that is seen to succeed has a result. -/
theorem exists_eq_ok_of_isSome {result : Except ε α} (found : result.toOption.isSome) :
    ∃ value, result = .ok value := by
  cases result with
  | error => contradiction
  | ok value => exact ⟨value, rfl⟩

theorem exists_of_map_eq_ok {image : α → β} {result : Except ε α} {value : β}
    (mapped : result.map image = .ok value) :
    ∃ source, result = .ok source ∧ image source = value := by
  cases result with
  | error => contradiction
  | ok source => exact ⟨source, rfl, Except.ok.inj mapped⟩

theorem eq_error_of_map_eq {image : α → β} {result : Except ε α} {failure : ε}
    (mapped : result.map image = .error failure) : result = .error failure := by
  cases result with
  | error other => exact congrArg Except.error (Except.error.inj mapped)
  | ok source => contradiction

/-- A failure of the first of two computations in sequence ends the sequence, and the second
starts from the state that the first has left. -/
theorem run_bind_stateM {σ : Type} (action : ExceptT ε (StateM σ) α)
    (next : α → ExceptT ε (StateM σ) β) (state : σ) :
    (action >>= next).run state =
      match action.run state with
      | (.ok value, after) => (next value).run after
      | (.error failure, after) => (.error failure, after) := by
  change StateT.bind action.run (ExceptT.bindCont next) state = _
  simp only [StateT.bind]
  cases result : action.run state with
  | mk outcome after =>
      cases outcome with
      | ok value => rfl
      | error failure => rfl

end DomainGen
