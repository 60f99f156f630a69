import DomainGen.Proofs.Cli.Sessions
import DomainGen.Proofs.Generate.Keeping
import DomainGen.Proofs.Model.Skipping

/-!
# Quiet runs

A run that generates and is asked to be quiet prints nothing, whether it succeeds or fails.
The log is not part of what it is quiet about: model files below the root that cannot be read
are told of on the error stream, and nothing else is (`run_quiet`).
-/

namespace DomainGen.Cli

open Machine

variable {start machine : Machine}

/-! ## Generating quietly -/

theorem keeps_unheard_runGeneration (warns : start.Warns) (target : Target) (model : LoadedModel)
    (options : GenerateOptions) :
    Keeps start.Unheard (runGeneration (pure false) target model options) :=
  keeps_runGeneration (Unheard.keeps_note warns (by decide)) Unheard.keeps_makeDirectories
    (keeps_lift fun _ unheard => unheard) fun path content _ => Unheard.keeps_writeFile _ _

theorem keeps_unheard_close (warns : start.Warns) {generation : Generation}
    (quiet : generation.quiet) (voice : Voice) (result : RunResult) :
    Keeps start.Unheard (generation.close voice 0 result) := by
  unfold Generation.close
  rw [quiet]
  refine keeps_bind (keeps_lift fun _ unheard => unheard) fun finish => ?_
  exact keeps_bind (Unheard.keeps_note warns (by decide) _ _ _) fun _ => keeps_pure ()

/-- A quiet generation tells which model files were passed over, and nothing else. -/
theorem unheard_run_generation (warns : machine.Warns) {generation : Generation}
    (quiet : generation.quiet) (voice : Voice) :
    (machine.logged (machine.skipped generation.source generation.root)).Unheard
      (Machine.run (generation.run voice) machine).2 := by
  have loaded := machine_run_load warns generation.source generation.root
  have still := warns.logged (machine.skipped generation.source generation.root)
  rw [run_generation, run_bind]
  generalize Machine.run (load generation.source generation.root) machine = result at loaded
  obtain ⟨outcome, between⟩ := result
  simp only at loaded
  subst loaded
  cases outcome with
  | error failure => exact .refl _
  | ok model =>
      simp only [quiet, if_true]
      have kept := keeps_bind (keeps_unheard_runGeneration still generation.target model
        generation.options) fun result => keeps_unheard_close still quiet voice result
      exact kept _ (.refl _)

/-! ## Preparing quietly -/

theorem machine_stylingOfRun (machine : Machine) :
    ((stylingOfRun : StateM Machine _) machine).2 = machine := by
  have unchanged : ∀ name, ((Process.environmentValue name : StateM Machine _) machine).2 =
      machine := fun _ => rfl
  unfold stylingOfRun
  rw [stateM_bind, unchanged]
  generalize ((Process.environmentValue "NO_COLOR" : StateM Machine _) machine).1 = value
  split
  · rfl
  · rfl
  · rfl

/-- Whether the log of a run is one for programs. -/
def logsJson (given : Given) (loaded : Except Failure Config) : Bool :=
  given.switch "log-json" || loaded.toOption.any Config.jsonLog

theorem started (json : Bool) (machine : Machine) :
    (Journal.start json .warn : StateM Machine Unit) machine = ((), machine.warning json) := rfl

/-- Where nothing is to be told in detail, only warnings are logged, and no files are named. -/
theorem calm {verbosity : Int} (low : verbosity ≤ 0) :
    Verbosity.level verbosity = .warn ∧ Verbosity.shows verbosity (some .config) = false := by
  refine ⟨if_pos low, ?_⟩
  rw [Verbosity.shows, decide_eq_false_iff_not, Output.threshold]
  omega

section Calm

variable {build : BuildInfo} {given : Given} (asked : given.count "verbose" ≤ 0)
  {loaded : Except Failure Config} {cache : Config.Cache}
  (configured : ∀ config, loaded = .ok config → config.verbosity ≤ 0)
  (read : (Config.load {} : StateM Machine _) machine = ((loaded, cache), machine))
include asked configured read

/-- Where nothing is to be told in detail, preparing opens a log for warnings and no more. -/
theorem exists_prepare (command : Command) :
    ∃ voice, (prepare build command given : StateM Machine Call) machine =
      ({ voice, given, cache, build }, machine.warning (logsJson given loaded)) := by
  have unnoted : ∀ json fields,
      ((note .debug "" "Starting" fields : StateM Machine Unit) (machine.warning json)).2 =
        machine.warning json :=
    fun json _ => (warns_warning machine json).note (by decide) _ _ _
  unfold prepare logsJson
  simp only [stateM_bind, machine_stylingOfRun, read]
  cases loaded with
  | error failure =>
      obtain ⟨least, hidden⟩ := calm asked
      simp only [least, hidden, started, unnoted, Bool.false_eq_true, if_false, stateM_pure]
      exact ⟨_, by rw [Except.toOption, Option.any_none, Bool.or_false]⟩
  | ok config =>
      obtain ⟨least, hidden⟩ := calm (max_le asked (configured config rfl))
      simp only [least, hidden, started, unnoted, Bool.false_eq_true, if_false, stateM_pure]
      exact ⟨_, rfl⟩

end Calm

/-! ## A whole run -/

/-- What a command line asks to generate. -/
def asks (given : Given) (loaded : Except Failure Config) : Except Failure Generation :=
  let call : Call := { (default : Call) with given }
  (loaded.mapError (.context "failed to load config")).bind fun config =>
    resolve config call.word call.overrides

theorem quiet_of_asks {given : Given} (quiet : given.switch "quiet")
    {loaded : Except Failure Config} {generation : Generation}
    (asked : asks given loaded = .ok generation) : generation.quiet := by
  cases loaded with
  | error failure => cases asked
  | ok config =>
      obtain ⟨-, target, -, rfl⟩ := resolve_eq_ok_iff.mp asked
      simp [Generation.ofConfig, Overrides.apply, Call.overrides, quiet]

theorem run_resolved {call : Call} (quiet : call.given.switch "quiet")
    {loaded : Except Failure Config}
    (read : ((Config.load call.cache : StateM Machine _) machine).1.1 = loaded) :
    Machine.run (resolved call) machine =
      (((asks call.given loaded).mapError (.mark .reported)), machine) := by
  have loading : (resolveGeneration call.cache call.word call.overrides : StateM Machine _)
      machine = ((asks call.given loaded,
        ((Config.load call.cache : StateM Machine _) machine).1.2), machine) := by
    simp only [resolveGeneration, loadConfig, stateM_bind, stateM_pure, read,
      machine.machine_load call.cache]
    rfl
  have silent : call.overrides.quiet = true := quiet
  unfold resolved
  rw [run_bind, run_lift, loading]
  simp only [run_reported, silent, if_true]
  cases asks call.given loaded with
  | error failure => rfl
  | ok generation => rfl

/-- The entries about the model files that a command line passes over. -/
def skippedBy (machine : Machine) (given : Given) (loaded : Except Failure Config) :
    List LogEntry :=
  match asks given loaded with
  | .ok generation => machine.skipped generation.source generation.root
  | .error _ => []

theorem skippedBy_log (log : Option LogSink) (given : Given) (loaded : Except Failure Config) :
    skippedBy { machine with log } given loaded = skippedBy machine given loaded := by
  unfold skippedBy
  cases asks given loaded with
  | error failure => rfl
  | ok generation => exact skipped_log log generation.source generation.root

theorem skippedBy_eq_nil {given : Given} {loaded : Except Failure Config}
    (legible : ∀ generation, asks given loaded = .ok generation →
      machine.Legible generation.source generation.root) :
    skippedBy machine given loaded = [] := by
  unfold skippedBy
  cases asked : asks given loaded with
  | error failure => rfl
  | ok generation => exact (legible generation asked).skipped_eq

/-- How a command can end that is not asked to watch. -/
def Settled (outcome : Except Failure (Option WatchSession)) : Prop :=
  outcome = .ok none ∨ ∃ cause, outcome = .error (.mark .reported cause)

/-- A generation that is asked for quietly tells which model files were passed over, and
nothing else.  If it fails, the failure counts as shown. -/
theorem exists_run_runGenerate (call : Call) {loaded : Except Failure Config}
    (warns : machine.Warns) (quiet : call.given.switch "quiet")
    (once : call.given.switch "watch" = false)
    (read : ((Config.load call.cache : StateM Machine _) machine).1.1 = loaded) :
    ∃ outcome after, Machine.run (runGenerate call) machine = (outcome, after) ∧
      Settled outcome ∧ (machine.logged (skippedBy machine call.given loaded)).Unheard after := by
  unfold runGenerate skippedBy
  rw [run_bind, run_resolved quiet read]
  cases asked : asks call.given loaded with
  | error failure => exact ⟨_, _, rfl, .inr ⟨failure, rfl⟩, .refl _⟩
  | ok generation =>
      have still := quiet_of_asks quiet asked
      have heard := unheard_run_generation warns still call.voice
      simp only [mapError_ok, once, Bool.false_eq_true, if_false]
      rw [run_bind, run_reported, still]
      generalize Machine.run (generation.run call.voice) machine = result at heard ⊢
      obtain ⟨outcome, after⟩ := result
      cases outcome with
      | error failure => exact ⟨_, _, rfl, .inr ⟨failure, rfl⟩, heard⟩
      | ok value => exact ⟨_, _, rfl, .inl rfl, heard⟩

theorem run_execute (build : BuildInfo) {line rest : List String} {given : Given}
    {loaded : Except Failure Config} {cache : Config.Cache}
    (read : (Config.load {} : StateM Machine _) machine = ((loaded, cache), machine))
    (named : lookup line = .ok (.generate, rest))
    (understood : readArguments Command.generate.knownFlags rest = .ok given)
    (single : given.words.length = 1) (plain : given.switch "help" = false)
    (asked : given.count "verbose" ≤ 0)
    (configured : ∀ config, loaded = .ok config → config.verbosity ≤ 0) :
    ∃ voice, Machine.run (execute build line) machine =
      Machine.run (runGenerate { voice, given, cache, build })
        (machine.warning (logsJson given loaded)) := by
  obtain ⟨voice, prepared⟩ : ∃ voice,
      (prepare build .generate given : StateM Machine Call) machine = _ :=
    exists_prepare asked configured read .generate
  refine ⟨voice, ?_⟩
  have fits : Command.generate.arity.check given.words.length = .ok () := by
    rw [Command.arity, Arity.check, if_pos single]
  have exclusive : checkExclusive Command.generate.exclusiveFlags given = .ok () := rfl
  have runnable : Command.generate.isRunnable := rfl
  unfold execute
  simp only [run_bind, run_mk_pure, run_lift, named, understood, mapError_ok, plain, runnable,
    Bool.not_true, Bool.or_false, Bool.false_eq_true, if_false, fits, prepared, exclusive]
  rfl

theorem counts_mark (which : Sentinel) (cause : Failure) :
    (Failure.mark which cause).counts which := by
  simp [Failure.counts, Failure.chain, Failure.identity, Failure.text]

/-- A failure that was shown is not shown again. -/
theorem exists_run_of_settled {build : BuildInfo} {line : List String}
    {outcome : Except Failure (Option WatchSession)} {after : Machine}
    (ran : Machine.run (execute build line) machine = (outcome, after))
    (settled : Settled outcome) :
    ∃ status, (run build line : StateM Machine Outcome) machine = (.finished status, after) := by
  have ran : (execute build line : ExceptT Failure (StateM Machine) _).run machine =
      (outcome, after) := ran
  unfold run
  rw [stateM_bind, ran]
  rcases settled with rfl | ⟨cause, rfl⟩
  · exact ⟨_, rfl⟩
  · simp only [counts_mark]
    exact ⟨_, rfl⟩

/-- A quiet run prints nothing, whether it succeeds or fails, and it ends.  All that it leaves
on the error stream are the log entries about model files below the root that it has passed
over, so that nothing is left there if all of them can be read. -/
theorem run_quiet (build : BuildInfo) {line rest : List String} {given : Given}
    {loaded : Except Failure Config} {cache : Config.Cache}
    (read : ((Config.load {} : StateM Machine _) machine).1 = (loaded, cache))
    (named : lookup line = .ok (.generate, rest))
    (understood : readArguments Command.generate.knownFlags rest = .ok given)
    (single : given.words.length = 1) (plain : given.switch "help" = false)
    (quiet : given.switch "quiet") (once : given.switch "watch" = false)
    (asked : given.count "verbose" ≤ 0)
    (configured : ∀ config, loaded = .ok config → config.verbosity ≤ 0) :
    ∃ status after,
      (run build line : StateM Machine Outcome) machine = (.finished status, after) ∧
      after.output = machine.output ∧
      after.errors = machine.errors ++
        LogSink.text { json := logsJson given loaded, least := .warn }
          (skippedBy machine given loaded) ∧
      ((∀ generation, asks given loaded = .ok generation →
          machine.Legible generation.source generation.root) →
        after.errors = machine.errors) := by
  have read : (Config.load {} : StateM Machine _) machine = ((loaded, cache), machine) :=
    Prod.ext read (machine.machine_load {})
  obtain ⟨voice, executed⟩ := run_execute build read named understood single plain
    asked configured
  have again : ((Config.load cache : StateM Machine _)
      (machine.warning (logsJson given loaded))).1.1 = loaded := by
    rw [Machine.warning, machine.load_log]
    cases loaded with
    | error failure =>
        have failed := machine.load_again (congrArg (·.1.1) read)
        rwa [read] at failed
    | ok config =>
        obtain ⟨kept, same, keeps⟩ := Config.exists_kept_of_load (congrArg (·.1.1) read)
        rw [read] at same
        cases same
        rw [machine.load_of_kept keeps]
  obtain ⟨outcome, after, ran, settled, heard⟩ := exists_run_runGenerate
    { voice, given, cache, build } (warns_warning machine _) quiet once again
  obtain ⟨status, finished⟩ := exists_run_of_settled (executed.trans ran) settled
  have output : after.output = machine.output := by
    rw [heard.output, (leaves_logged _).output]
    rfl
  have errors : after.errors = machine.errors ++
      LogSink.text { json := logsJson given loaded, least := .warn }
        (skippedBy machine given loaded) := by
    rw [heard.errors, errors_logged rfl, Machine.warning, skippedBy_log]
  refine ⟨status, after, finished, output, errors, fun legible => ?_⟩
  rw [errors, skippedBy_eq_nil legible, LogSink.text, String.append_empty]

/-- A machine with a model file, next to one that cannot be read. -/
def brokenSibling : Machine where
  tree := ⟨[(["work"], .directory), (["work", "m.ddef"], .file "entity A \x7b\x7d\n".toUTF8.toList),
    (["work", "other.ddef"], .file "entity \x7b".toUTF8.toList)]⟩
  working := "/work"

theorem run_quiet_brokenSibling :
    ∃ status after,
      (run default ["generate", "m.ddef", "-q", "-r", "."] : StateM Machine Outcome)
        brokenSibling = (.finished status, after) ∧
      after.output = "" ∧
      after.errors = LogSink.text {} [skipping "other.ddef"
        (.message "other.ddef:1:8: expected entity name (got \"\x7b\")")] := by
  have named : lookup ["generate", "m.ddef", "-q", "-r", "."] =
      .ok (.generate, ["m.ddef", "-q", "-r", "."]) := eq_ok_of_toOption (by decide +kernel)
  have understood : readArguments Command.generate.knownFlags ["m.ddef", "-q", "-r", "."] =
      .ok { values := [("quiet", "true"), ("root", ".")], words := ["m.ddef"] } :=
    eq_ok_of_toOption (by decide +kernel)
  have loaded : ((Config.load {} : StateM Machine _) brokenSibling).1.1 = .ok {} :=
    eq_ok_of_toOption (by decide +kernel)
  have skipped : skippedBy brokenSibling
      { values := [("quiet", "true"), ("root", ".")], words := ["m.ddef"] } (.ok {}) =
        [skipping "other.ddef"
          (.message "other.ddef:1:8: expected entity name (got \"\x7b\")")] := by
    decide +kernel
  obtain ⟨status, after, finished, output, errors, -⟩ := run_quiet default
    (Prod.ext loaded rfl) named understood rfl rfl rfl rfl (by decide)
    (fun config same => by cases same; decide)
  rw [skipped] at errors
  exact ⟨status, after, finished, output, errors.trans (String.empty_append)⟩

/-- A quiet run that succeeds, of the command alone and with the configuration that there is
without any file, is not silent. -/
theorem not_silent_brokenSibling :
    let line := ["generate", "m.ddef", "-q", "-r", "."]
    let after := ((run default line : StateM Machine Outcome) brokenSibling).2
    ((Config.load {} : StateM Machine _) brokenSibling).1.1.toOption = some {} ∧
      after.output = "" ∧ after.errors ≠ "" := by
  decide +kernel

end DomainGen.Cli
