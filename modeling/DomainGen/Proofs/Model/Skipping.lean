import DomainGen.Proofs.Host.Logging
import DomainGen.Proofs.Model.Loading

/-!
# What loading a model tells

Where only warnings are logged, loading a model tells which model files below the root it has
passed over, and nothing else (`machine_run_load`).  Where the scan of the root ends early,
these are the files up to there.
-/

namespace DomainGen

/-- The entry about a model file that is passed over. -/
def skipping (file : String) (failure : Failure) : LogEntry where
  level := .warn
  message := "Skipping model file"
  fields := [("file", some (.text file)), ("error", some (.text failure.text))]

namespace Machine

variable {machine other : Machine}

/-- Parsing a file goes by the contents of the file. -/
theorem outcome_parseFile (tree : other.tree = machine.tree)
    (working : other.working = machine.working) (path : String) :
    (run (parseFile path) other).1 = (run (parseFile path) machine).1 := by
  unfold parseFile
  by_cases model : isModelFile path
  · rw [if_neg (by simp [model])]
    simp only [run_bind, run_adapt, run_readFile, tree, working]
    cases machine.tree.read machine.working path with
    | error refusal => rfl
    | ok bytes =>
        simp only [mapError_ok]
        cases parseContents path bytes with
        | ok defs => rfl
        | error diagnostic => rfl
  · rw [if_pos (by simp [model])]
    rfl

theorem machine_parseFile (path : String) (machine : Machine) :
    run (parseFile path) machine = ((run (parseFile path) machine).1, machine) := by
  obtain ⟨outcome, ran, -⟩ := run_parseFile path machine
  rw [ran]

/-- The entries about those of some files that cannot be read as models. -/
def skippedAmong (machine : Machine) (files : List String) : List LogEntry :=
  files.filterMap fun file =>
    match (run (parseFile file) machine).1 with
    | .ok _ => none
    | .error failure => some (skipping file failure)

theorem skippedAmong_eq (tree : other.tree = machine.tree)
    (working : other.working = machine.working) (files : List String) :
    other.skippedAmong files = machine.skippedAmong files := by
  refine List.filterMap_congr fun file _ => ?_
  rw [outcome_parseFile tree working]

/-- Each file that cannot be read is told of, in order. -/
theorem machine_parseAll (files : List String) (machine : Machine) :
    ((parseAll files : StateM Machine (List Document)) machine).2 =
      machine.logged (machine.skippedAmong files) := by
  induction files generalizing machine with
  | nil => rfl
  | cons file rest ih =>
      have ran : (parseFile file : ExceptT Failure (StateM Machine) Document).run machine = _ :=
        machine_parseFile file machine
      rw [Viewed.parseAll_cons, ran, skippedAmong, List.filterMap_cons]
      cases (run (parseFile file) machine).1 with
      | ok document => exact ih machine
      | error failure =>
          have noted := leaves_log (skipping file failure) machine
          simp only [logged_cons]
          rw [ih, ← skippedAmong]
          exact congrArg _ (skippedAmong_eq noted.tree noted.working rest)

/-- The model files below a root that a scan comes to, apart from the one at `path`. -/
def otherModels (machine : Machine) (path root : String) : List String :=
  ((run (otherModelFiles path root) machine).1.toOption.map (·.files)).getD []

/-- The entries about the model files below a root that cannot be read, apart from the one at
`path`. -/
def skippedBelow (machine : Machine) (path root : String) : List LogEntry :=
  if root = "" then [] else machine.skippedAmong (machine.otherModels path root)

/-- The entries about the model files that are passed over when a model is linked with those
below a root. -/
def skipped (machine : Machine) (path root : String) : List LogEntry :=
  match (run (parseFile path) machine).1 with
  | .error _ => []
  | .ok _ => machine.skippedBelow path root

/-- Which model files are passed over does not depend on the log. -/
theorem skipped_log (log : Option LogSink) (path root : String) :
    ({ machine with log } : Machine).skipped path root = machine.skipped path root := by
  have listed : ({ machine with log } : Machine).otherModels path root =
      machine.otherModels path root := by
    have found (own : Machine) : (run (otherModelFiles path root) own).1 = _ :=
      congrArg Prod.fst (Viewed.run_otherModelFiles own path root)
    rw [otherModels, otherModels, found, found]
    rfl
  have tree : ({ machine with log } : Machine).tree = machine.tree := rfl
  have parsed := outcome_parseFile tree rfl path
  have same := skippedAmong_eq tree rfl
  simp only [skipped, skippedBelow, parsed, same, listed]

/-- Every other model file below a root can be read; without a root there is nothing to read. -/
def Legible (machine : Machine) (path root : String) : Prop :=
  root ≠ "" → ∀ file ∈ machine.otherModels path root,
    (run (parseFile file) machine).1.toOption.isSome

theorem Legible.skipped_eq {path root : String} (legible : machine.Legible path root) :
    machine.skipped path root = [] := by
  unfold skipped skippedBelow skippedAmong
  split
  · rfl
  split
  · rfl
  next rooted =>
  refine List.filterMap_eq_nil_iff.mpr fun file member => ?_
  obtain ⟨document, read⟩ := exists_eq_ok_of_isSome (legible rooted file member)
  rw [read]

theorem machine_siblingDocuments (path root : String) (machine : Machine) :
    (run (siblingDocuments path root) machine).2 =
      machine.logged (machine.skippedBelow path root) := by
  unfold siblingDocuments skippedBelow
  by_cases alone : root = ""
  · rw [if_pos alone, if_pos alone]
    rfl
  · have unchanged : (run (otherModelFiles path root) machine).2 = machine :=
      congrArg Prod.snd (Viewed.run_otherModelFiles machine path root)
    rw [if_neg alone, if_neg alone, otherModels, run_bind, run_adapt]
    generalize run (otherModelFiles path root) machine = result at unchanged
    obtain ⟨outcome, after⟩ := result
    cases unchanged
    cases outcome with
    | error failure => rfl
    | ok listing =>
        have parsed := machine_parseAll listing.files after
        simp only [mapError_ok, Except.toOption, Option.map_some, Option.getD_some]
        rw [run_bind, run_lift]
        cases listing.failure with
        | none => exact parsed
        | some failure => exact parsed

theorem machine_noteFindings (warns : machine.Warns) (model : LoadedModel) :
    ((noteFindings model : StateM Machine Unit) machine).2 = machine := by
  have looped : ((forIn model.document.diagnostics PUnit.unit fun diagnostic _ => do
        note .debug "" "Diagnostic"
          [("file", .text diagnostic.file), ("line", .int diagnostic.line),
            ("severity", .text diagnostic.severity.word), ("message", .text diagnostic.message)]
        pure (ForInStep.yield PUnit.unit) : StateM Machine PUnit) machine).2 = machine := by
    refine forIn_preserves (· = machine) _ _ ?_ rfl
    rintro diagnostic between rfl
    exact warns.note (by decide) _ _ _
  unfold noteFindings
  rw [stateM_bind, looped]
  exact warns.note (by decide) _ _ _

/-- Loading tells which model files were passed over, and nothing else. -/
theorem machine_run_load (warns : machine.Warns) (path root : String) :
    (run (load path root) machine).2 = machine.logged (machine.skipped path root) := by
  unfold load skipped
  rw [run_bind, machine_parseFile]
  cases (run (parseFile path) machine).1 with
  | error failure => rfl
  | ok document =>
      have linked := machine_siblingDocuments path root machine
      simp only [run_bind]
      generalize run (siblingDocuments path root) machine = result at linked
      obtain ⟨outcome, between⟩ := result
      simp only at linked
      cases outcome with
      | error failure => exact linked
      | ok documents =>
          have still : between.Warns := linked ▸ warns.logged _
          simp only [run_lift, run_pure]
          rw [machine_noteFindings still, linked]

end Machine

end DomainGen
