import DomainGen.Proofs.Cli.Sessions

/-!
# Exit statuses

The exit status of a run is decided by the well-known failures that its failure counts as: some
link of the failure carries their mark.  On its way out a failure is told with context, hints,
details and traces, and is marked as shown.  A link that is added in this way says what a link
inside it says already, or it has a colon in its text, which no well-known failure has
(`is_sentinel_on`).  So the failure counts as the same well-known ones as before, and the
exit status stays (`exitStatus_passedOn`).
-/

namespace DomainGen

namespace Failure

/-! ## What a failure counts as -/

/-- Some link of a failure carries the mark of another failure. -/
def Is (failure reference : Failure) : Prop :=
  ∃ link ∈ failure.chain, link.identity = reference.identity

instance (failure reference : Failure) : Decidable (failure.Is reference) :=
  inferInstanceAs (Decidable (∃ link ∈ failure.chain, link.identity = reference.identity))

theorem counts_eq_decide (failure : Failure) (which : Sentinel) :
    failure.counts which = decide (failure.Is (.sentinel which)) := by
  rw [Bool.eq_iff_iff, decide_eq_true_iff]
  simp only [counts, Is, List.any_eq_true, beq_iff_eq]

/-- A failure that stands in front of a cause has a link of its own and those of the cause. -/
theorem is_iff_of_chain {failure cause reference : Failure}
    (listed : failure.chain = failure :: cause.chain) :
    failure.Is reference ↔ failure.identity = reference.identity ∨ cause.Is reference := by
  simp only [Is, listed, List.mem_cons, exists_eq_or_imp]

/-- What a failure says is said by one of its links that is not marked, together with the kind
of the innermost cause. -/
theorem exists_link_of_text (failure : Failure) :
    ∃ link ∈ failure.chain, link.identity = (failure.text, failure.causeKind) := by
  induction failure with
  | message text => exact ⟨_, List.mem_cons_self, rfl⟩
  | sentinel which => exact ⟨_, List.mem_cons_self, rfl⟩
  | malformed diagnostic parse => exact ⟨_, List.mem_cons_self, rfl⟩
  | system operation paths refusal => exact ⟨_, List.mem_cons_self, rfl⟩
  | external text => exact ⟨_, List.mem_cons_self, rfl⟩
  | context text cause => exact ⟨_, List.mem_cons_self, rfl⟩
  | hint text cause ih | detail text cause ih | likened reference cause _ ih | trace cause ih =>
      rcases ih with ⟨link, member, same⟩
      exact ⟨link, List.mem_cons_of_mem _ member, same⟩

/-- A link that says what its cause says adds nothing to what the failure counts as. -/
theorem is_iff_of_text {failure cause reference : Failure}
    (listed : failure.chain = failure :: cause.chain)
    (repeats : failure.identity = (cause.text, cause.causeKind)) :
    failure.Is reference ↔ cause.Is reference := by
  rw [is_iff_of_chain listed, or_iff_right_iff_imp]
  intro same
  rcases cause.exists_link_of_text with ⟨link, member, own⟩
  exact ⟨link, member, (own.trans repeats.symm).trans same⟩

theorem colon_not_mem_text (which : Sentinel) : ':' ∉ which.text.toList := by
  cases which <;> decide

theorem text_context_eq {text : String} (filled : text ≠ "") (cause : Failure) :
    ∃ said, (context text cause).text = text ++ ": " ++ said := by
  rw [Failure.text, if_neg filled]
  exact ⟨_, rfl⟩

/-- No well-known failure says what a context makes of its cause. -/
theorem identity_context_ne {text : String} (filled : text ≠ "") (cause : Failure)
    (which : Sentinel) : (context text cause).identity ≠ (sentinel which).identity := by
  intro same
  rcases text_context_eq filled cause with ⟨said, equal⟩
  have spelled : which.text = text ++ ": " ++ said := by
    rw [← equal]
    exact (congrArg Prod.fst same).symm
  apply colon_not_mem_text which
  rw [spelled]
  simp

end Failure

/-! ## Passing a failure on -/

/-- What a caller adds to a failure that it passes on. -/
inductive Remark where
  | context (text : String)
  | hint (text : String)
  | detail (text : String)
  | trace
  deriving Repr, DecidableEq, Inhabited

/-- A failure with a remark. -/
def Remark.on : Remark → Failure → Failure
  | context text, cause => .context text cause
  | hint text, cause => .hint text cause
  | detail text, cause => .detail text cause
  | trace, cause => .trace cause

/-- A failure with remarks, the first of them innermost. -/
def Failure.told (failure : Failure) (remarks : List Remark) : Failure :=
  remarks.foldl (fun cause remark => remark.on cause) failure

/-- With a remark a failure counts as the same well-known failures as without. -/
theorem is_sentinel_on (remark : Remark) (failure : Failure) (which : Sentinel) :
    (remark.on failure).Is (.sentinel which) ↔ failure.Is (.sentinel which) := by
  cases remark with
  | hint text => exact Failure.is_iff_of_text rfl rfl
  | detail text => exact Failure.is_iff_of_text rfl rfl
  | trace => exact Failure.is_iff_of_text rfl rfl
  | context text =>
      by_cases empty : text = ""
      · apply Failure.is_iff_of_text rfl
        simp [Remark.on, Failure.identity, Failure.text, Failure.causeKind, empty]
      · rw [Remark.on, Failure.is_iff_of_chain rfl]
        apply or_iff_right
        exact Failure.identity_context_ne empty failure which

/-- The induction is on the remarks, from the innermost on. -/
theorem counts_told (failure : Failure) (remarks : List Remark) (which : Sentinel) :
    (failure.told remarks).counts which = failure.counts which := by
  induction remarks generalizing failure with
  | nil => rfl
  | cons remark remarks ih =>
      have first : (remark.on failure).counts which = failure.counts which := by
        simp only [Failure.counts_eq_decide, is_sentinel_on]
      rw [← first]
      exact ih (remark.on failure)

theorem exitStatus_congr {failure other : Failure}
    (same : ∀ which ∈ [Sentinel.outOfDate, .invalidTarget],
      failure.counts which = other.counts which) :
    exitStatus (some failure) = exitStatus (some other) := by
  simp only [List.forall_mem_cons] at same
  rw [exitStatus, exitStatus, same.1, same.2.1]

/-! ## Showing a failure -/

/-- A mark is one more failure that a failure counts as. -/
theorem is_mark_iff (which : Sentinel) (failure reference : Failure) :
    (failure.mark which).Is reference ↔
      (Failure.sentinel which).identity = reference.identity ∨ failure.Is reference :=
  Failure.is_iff_of_chain rfl

theorem hints_mark (which : Sentinel) (failure : Failure) :
    (failure.mark which).hints = failure.hints := by
  simp only [Failure.hints, Failure.chain, List.reverse_cons, List.foldl_append, List.foldl_cons,
    List.foldl_nil]

/-- The failure that a computation ended with. -/
def failureOf? {α : Type} : Except Failure α → Option Failure
  | .ok _ => none
  | .error failure => some failure

theorem failureOf?_mapError {α : Type} (change : Failure → Failure)
    (outcome : Except Failure α) :
    failureOf? (outcome.mapError change) = (failureOf? outcome).map change := by
  cases outcome with
  | ok value => rfl
  | error failure => rfl

theorem counts_mark_reported (failure : Failure) (which : Sentinel) :
    (failure.mark .reported).counts which = (which == .reported || failure.counts which) := by
  simp only [Failure.counts_eq_decide, is_mark_iff, Bool.decide_or]
  congr 1
  cases which <;> decide

theorem exitStatus_eq_zero_iff (outcome : Option Failure) :
    exitStatus outcome = 0 ↔ outcome = none := by
  cases outcome with
  | none => simp [exitStatus]
  | some failure =>
      rw [exitStatus]
      split
      · simp
      · split <;> simp

/-- The exit status tells which well-known failures a failure counts as, and nothing that is
done with a failure on its way out changes that: neither remarks, however many and in whatever
order, nor showing it, which adds one mark and keeps every hint. -/
theorem exitStatus_passedOn :
    (∀ outcome, exitStatus outcome = 0 ↔ outcome = none) ∧
    (∀ failure : Failure, exitStatus (some failure) =
      if failure.Is (.sentinel .outOfDate) then 1
      else if failure.Is (.sentinel .invalidTarget) then 3
      else 2) ∧
    (∀ (failure : Failure) (remarks : List Remark),
      exitStatus (some (failure.told remarks)) = exitStatus (some failure) ∧
      ∀ which, (failure.told remarks).counts which = failure.counts which) ∧
    (∀ (α : Type) (voice : Cli.Voice) (quiet : Bool) (action : ExceptT Failure (StateM Machine) α)
      (machine : Machine),
      let own := failureOf? (Machine.run action machine).1
      let shown := failureOf? (Machine.run (Cli.reported voice quiet action) machine).1
      shown = own.map (.mark .reported) ∧ exitStatus shown = exitStatus own) ∧
    (∀ failure : Failure,
      (∀ which, (failure.mark .reported).counts which =
        (which == .reported || failure.counts which)) ∧
      (∀ reference, (failure.mark .reported).Is reference ↔
        (Failure.sentinel .reported).identity = reference.identity ∨ failure.Is reference) ∧
      (failure.mark .reported).hints = failure.hints) := by
  have marked : ∀ failure : Failure,
      exitStatus (some (failure.mark .reported)) = exitStatus (some failure) := by
    intro failure
    apply exitStatus_congr
    intro which member
    rw [counts_mark_reported, Bool.or_eq_right_iff_imp, beq_iff_eq]
    rintro rfl
    exact absurd member (by decide)
  refine ⟨exitStatus_eq_zero_iff, ?status, ?remarks, ?shown, ?mark⟩
  case status =>
    intro failure
    simp only [exitStatus, Failure.counts_eq_decide, decide_eq_true_iff]
  case remarks =>
    intro failure remarks
    have same := counts_told failure remarks
    exact ⟨exitStatus_congr fun which _ => same which, same⟩
  case shown =>
    intro α voice quiet action machine own shown
    have said : shown = own.map (.mark .reported) := by
      simp only [shown, own, Cli.outcome_reported, failureOf?_mapError]
    constructor
    · exact said
    · rw [said]
      cases own with
      | none => rfl
      | some failure => exact marked failure
  case mark =>
    intro failure
    exact ⟨counts_mark_reported failure, is_mark_iff .reported failure,
      hints_mark .reported failure⟩

end DomainGen
