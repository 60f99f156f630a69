import DomainGen.Cli.Generation
import DomainGen.Proofs.Generate.Runs
import DomainGen.Proofs.Model.Loading

/-!
# Generating from the command line

What is generated does not depend on where it goes and how much is said
(`exists_resolve_check`).  Generating loads the model and writes its output; the rest is
talk (`exists_of_run_generation`).
-/

namespace DomainGen

/-- A model in the textual form is read from a source text. -/
theorem isRead_of_documentOf? {path : String}
    (textual : Text.lowerCase (Path.extension path) = ".ddef") {bytes : Bytes}
    {document : Document} (found : documentOf? path bytes = some document) :
    document.IsRead := by
  unfold documentOf? at found
  split at found
  · rw [parseContents, if_pos textual] at found
    cases parsed : Ddef.parse (Text.ofBytes bytes) with
    | error fault =>
        rw [parsed] at found
        cases found
    | ok defs =>
        rw [parsed] at found
        cases found
        intro read same
        cases same
        exact ⟨_, defs, parsed, rfl⟩
  · contradiction

theorem Config.rootPackage_of_validate {config : Config} (validated : config.validate = .ok ()) :
    config.rootPackage = "" ∨ isPackageName config.rootPackage := by
  by_cases invalid : config.rootPackage ≠ "" && !isPackageName config.rootPackage
  · -- The last check is reached only if the others pass, and fails here.
    simp only [validate, if_pos invalid] at validated
    split at validated
    · cases validated
    split at validated
    · cases validated
    split at validated
    · cases validated
    · cases validated
  · simp only [ne_eq, decide_not, Bool.and_eq_true, Bool.not_eq_true', decide_eq_false_iff_not,
      not_and, Bool.not_eq_false] at invalid
    exact Decidable.or_iff_not_imp_left.mpr invalid

namespace Cli

/-! ## What is asked for -/

/-- What is to be generated for a target, by a configuration that holds what a command line
asks for. -/
def Generation.ofConfig (config : Config) (source : String) (target : Target) : Generation where
  source := source
  root := config.root
  quiet := config.quiet
  debounce := config.debounce
  target := target
  options := { source, destination := config.destination, rootPackage := config.rootPackage }

theorem resolve_eq_ok_iff {config : Config} {source : String} {overrides : Overrides}
    {generation : Generation} :
    resolve config source overrides = .ok generation ↔
      (overrides.apply config).validate = .ok () ∧
        ∃ target, Target.ofSelector? (overrides.apply config).target = some target ∧
          generation = .ofConfig (overrides.apply config) source target := by
  simp only [resolve]
  cases (overrides.apply config).validate with
  | error failure => simp [bind, Except.bind]
  | ok value =>
      cases Target.ofSelector? (overrides.apply config).target with
      | none => simp [bind, Except.bind]
      | some target => simp [bind, Except.bind, pure, Except.pure, Generation.ofConfig, eq_comm]

/-- A check with the same target, root and package asks for the same generation, up to where
it goes and how much is said. -/
theorem exists_resolve_check {config : Config} {source : String} {overrides : Overrides}
    {generation : Generation} (resolved : resolve config source overrides = .ok generation)
    (quiet : Bool) :
    ∃ checking, resolve config source { overrides with destination := "", quiet } = .ok checking ∧
      checking.source = generation.source ∧ checking.root = generation.root ∧
      checking.target = generation.target ∧
      checking.options = { generation.options with destination := config.destination } := by
  rcases resolve_eq_ok_iff.mp resolved with ⟨validated, target, selected, rfl⟩
  refine ⟨_, resolve_eq_ok_iff.mpr ⟨validated, target, selected, rfl⟩, rfl, rfl, rfl, ?_⟩
  rfl

/-- What is asked for with another root is the same up to the root. -/
theorem resolve_root {config : Config} {source : String} {overrides : Overrides}
    {generation : Generation} (resolved : resolve config source overrides = .ok generation)
    {root : String} (spelled : root ≠ "") :
    resolve config source { overrides with root } = .ok { generation with root } := by
  rcases resolve_eq_ok_iff.mp resolved with ⟨validated, target, selected, rfl⟩
  refine resolve_eq_ok_iff.mpr ⟨validated, target, selected, ?_⟩
  have asked : (({ overrides with root } : Overrides).apply config).root = root := if_neg spelled
  rw [Generation.ofConfig, Generation.ofConfig, asked]
  rfl

/-! ## Showing failures -/

/-- A failure is marked as shown, whether it is shown or not. -/
theorem run_reported {α : Type} (voice : Voice) (quiet : Bool)
    (action : ExceptT Failure (StateM Machine) α) (machine : Machine) :
    Machine.run (reported voice quiet action) machine =
      match Machine.run action machine with
      | (.ok value, after) => (.ok value, after)
      | (.error failure, after) =>
          (.error (.mark .reported failure),
            if quiet then after
            else { after with errors :=
              after.errors ++ Terminal.failure voice.styling failure }) := by
  unfold reported Machine.run
  simp only [ExceptT.run, ExceptT.mk, bind, StateT.bind]
  cases action machine with
  | mk outcome after =>
      cases outcome with
      | ok value => rfl
      | error failure =>
          cases quiet with
          | true => rfl
          | false => rfl

/-! ## What a run does -/

section Run

open Machine

variable {generation : Generation} {voice : Voice} {machine after : Machine}

/-- A computation that always succeeds, and prints or logs something. -/
def OnlySpeaks (action : ExceptT Failure (StateM Machine) Unit) : Prop :=
  ∀ machine, ∃ text after, Machine.run action machine = (.ok (), after) ∧
    Leaves machine machine.tree (machine.output ++ text) after

namespace OnlySpeaks

theorem silence : OnlySpeaks (pure ()) :=
  fun machine => ⟨"", machine, rfl, rfl, (String.append_empty).symm, rfl, rfl, rfl⟩

theorem print (text : String) : OnlySpeaks (liftM (Console.print text : StateM Machine Unit)) :=
  fun _ => ⟨text, _, rfl, rfl, rfl, rfl, rfl, rfl⟩

theorem note (level : LogLevel) (logger message : String) (fields : List (String × LogValue)) :
    OnlySpeaks (liftM (DomainGen.note level logger message fields : StateM Machine Unit)) := by
  intro machine
  refine ⟨"", _, run_lift _ machine, ?_⟩
  rw [String.append_empty]
  exact leaves_note level logger message fields machine

variable {action : ExceptT Failure (StateM Machine) Unit}

theorem andThen {next : Unit → ExceptT Failure (StateM Machine) Unit} (first : OnlySpeaks action)
    (second : OnlySpeaks (next ())) : OnlySpeaks (action >>= next) := by
  intro machine
  rcases first machine with ⟨text, between, ran, left⟩
  rcases second between with ⟨more, after, ranToo, leftToo⟩
  rw [left.tree, left.output, String.append_assoc] at leftToo
  exact ⟨text ++ more, after, by rw [run_bind_ok ran, ranToo], left.trans leftToo⟩

theorem atTime {next : Nat → ExceptT Failure (StateM Machine) Unit} (later : OnlySpeaks (next 0)) :
    OnlySpeaks (liftM (Process.milliseconds : StateM Machine Nat) >>= next) := later

theorem forIn {α : Type} (items : List α) {act : α → ExceptT Failure (StateM Machine) Unit}
    (step : ∀ item, OnlySpeaks (act item)) :
    OnlySpeaks (ForIn.forIn items PUnit.unit fun item _ => do
      act item
      pure (ForInStep.yield PUnit.unit)) := by
  induction items with
  | nil => exact silence
  | cons item items ih =>
      intro machine
      rcases step item machine with ⟨text, between, ran, left⟩
      rcases ih between with ⟨more, after, ranToo, leftToo⟩
      rw [left.tree, left.output, String.append_assoc] at leftToo
      refine ⟨text ++ more, after, ?_, left.trans leftToo⟩
      rw [List.forIn_cons, bind_assoc, run_bind_ok ran]
      exact ranToo

end OnlySpeaks

theorem leaves_printDiagnostics (voice : Voice) (diagnostics : List Diagnostic)
    (machine : Machine) :
    Leaves machine machine.tree machine.output
      ((printDiagnostics voice diagnostics : StateM Machine Unit) machine).2 := by
  unfold printDiagnostics
  split
  · refine forIn_preserves (Leaves machine machine.tree machine.output) diagnostics _ ?_
      (.refl machine)
    intro diagnostic between left
    exact ⟨left.tree, left.output, left.working, left.environment, left.temporary⟩
  · exact .refl machine

/-- What is done once everything is written. -/
def Generation.close (generation : Generation) (voice : Voice) (start : Nat)
    (result : RunResult) : ExceptT Failure (StateM Machine) Unit := do
  let finish ← (Process.milliseconds : StateM Machine Nat)
  (DomainGen.note .info "" "Generated"
    [("target", .text generation.target.language), ("source", .text generation.source),
      ("path", .text result.path), ("count", .int result.files.length),
      ("duration_ms", .int (finish - start : Nat))] : StateM Machine Unit)
  if !generation.quiet then
    if Verbosity.shows voice.verbosity (some .artifacts) then
      for file in result.files do
        (Console.print ("  wrote " ++ file ++ "\n") : StateM Machine Unit)
    if Verbosity.shows voice.verbosity (some .timing) then
      (announce voice .info ("Finished in " ++ toString (finish - start) ++ "ms") :
        StateM Machine Unit)
    (announce voice .success
      (result.label ++ " generated successfully in: " ++ result.path) : StateM Machine Unit)

theorem onlySpeaks_close (generation : Generation) (voice : Voice) (start : Nat)
    (result : RunResult) : OnlySpeaks (generation.close voice start result) := by
  have announced : ∀ label text, OnlySpeaks
      (liftM (announce voice label text : StateM Machine Unit)) := fun _ _ => .print _
  have ended : ∀ finish, OnlySpeaks (do
      if Verbosity.shows voice.verbosity (some .timing) then
        (announce voice .info ("Finished in " ++ toString (finish - start) ++ "ms") :
          StateM Machine Unit)
      (announce voice .success
        (result.label ++ " generated successfully in: " ++ result.path) :
          StateM Machine Unit)) := by
    intro finish
    dsimp only
    split
    · exact .andThen (announced _ _) (announced _ _)
    · exact announced _ _
  unfold Generation.close
  refine .atTime (.andThen (.note _ _ _ _) ?_)
  dsimp only
  split
  · split
    · exact .andThen (.forIn result.files fun file => .print _) (ended 0)
    · exact ended 0
  · exact .silence

/-- A run in its parts: load, show what was found out, generate, close. -/
theorem run_generation (generation : Generation) (voice : Voice) (machine : Machine) :
    Machine.run (generation.run voice) machine =
      Machine.run (load generation.source generation.root >>= fun model =>
        (if generation.quiet then pure ()
          else liftM (printDiagnostics voice model.document.diagnostics : StateM Machine Unit)) >>=
        fun _ => runGeneration (pure false) generation.target model generation.options >>=
          generation.close voice 0) machine := by
  unfold Generation.run Generation.close
  cases quiet : generation.quiet with
  | true => rfl
  | false => rfl

/-- The root only matters for what is loaded. -/
theorem run_generation_root {root : String}
    (same : Machine.run (load generation.source root) machine =
      Machine.run (load generation.source generation.root) machine) :
    Machine.run (({ generation with root } : Generation).run voice) machine =
      Machine.run (generation.run voice) machine := by
  rw [run_generation, run_generation, run_bind, run_bind, same]
  rfl

/-- A generation that succeeds has loaded a model and generated it. -/
theorem exists_of_run_generation
    (ran : Machine.run (generation.run voice) machine = (.ok (), after)) :
    ∃ model shown result wrote output,
      (Machine.run (load generation.source generation.root) machine).1 = .ok model ∧
      Leaves machine machine.tree machine.output shown ∧
      Machine.run (runGeneration (pure false) generation.target model generation.options) shown =
        (.ok result, wrote) ∧
      Leaves wrote wrote.tree output after := by
  rw [run_generation] at ran
  rcases exists_of_run_bind_eq_ok ran with ⟨model, between, loaded, ran⟩
  rcases exists_of_run_bind_eq_ok ran with ⟨_, shown, talked, ran⟩
  rcases exists_of_run_bind_eq_ok ran with ⟨result, wrote, generated, closed⟩
  have left := (toOption_run_load generation.source generation.root machine).2
  rw [loaded] at left
  have showed : Leaves between between.tree between.output shown := by
    split at talked
    · cases talked
      exact .refl _
    · rw [run_lift] at talked
      rw [← (Prod.mk.inj talked).2]
      exact leaves_printDiagnostics voice _ between
  rw [left.tree, left.output] at showed
  rcases onlySpeaks_close generation voice 0 result wrote with ⟨text, final, same, said⟩
  cases same.symm.trans closed
  exact ⟨model, shown, result, wrote, _, by rw [loaded], left.trans showed, generated, said⟩

/-- A quiet generation only logs what it does. -/
theorem run_generation_of_quiet (quiet : generation.quiet) {model : LoadedModel}
    {between wrote : Machine} {result : RunResult}
    (loaded : Machine.run (load generation.source generation.root) machine = (.ok model, between))
    (generated : Machine.run (runGeneration (pure false) generation.target model generation.options)
      between = (.ok result, wrote)) :
    ∃ after, Machine.run (generation.run voice) machine = (.ok (), after) ∧
      Leaves wrote wrote.tree wrote.output after := by
  rw [run_generation, run_bind_ok loaded, if_pos quiet, run_bind_ok (run_pure () between),
    run_bind_ok generated]
  have closed : Machine.run (generation.close voice 0 result) wrote =
      (.ok (), ((DomainGen.note .info "" "Generated"
        [("target", .text generation.target.language), ("source", .text generation.source),
          ("path", .text result.path), ("count", .int result.files.length),
          ("duration_ms", .int (0 : Nat))] : StateM Machine Unit) wrote).2) := by
    unfold Generation.close
    rw [quiet]
    rfl
  exact ⟨_, closed, leaves_note _ _ _ _ wrote⟩

end Run

end Cli

end DomainGen
