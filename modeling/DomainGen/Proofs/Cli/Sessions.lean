import DomainGen.Cli.Program
import DomainGen.Proofs.Cli.Generating
import DomainGen.Proofs.Config.Loading

/-!
# Commands that share a configuration

The commands of one process share a configuration, which the first of them loads.  They go by
nothing else: whatever the commands before asked for, and whatever happens to files and
environment, each gives the answer that it would give if it came first (`session_answers`).
-/

namespace DomainGen

/-! ## The configuration that is kept -/

namespace Config

variable {cache : Cache} {config : Config} {machine : Machine}

/-- What was loaded is kept. -/
theorem exists_kept_of_load
    (loaded : ((load cache : StateM Machine _) machine).1.1 = .ok config) :
    ∃ after : Cache, ((load cache : StateM Machine _) machine).1 = (.ok config, after) ∧
      after.config = some config := by
  cases kept : cache.config with
  | some other =>
      rw [machine.load_of_kept kept] at loaded ⊢
      cases loaded
      exact ⟨cache, rfl, kept⟩
  | none =>
      rcases read : ((ensureFiles cache : StateM Machine _) machine).1 with ⟨result, other⟩
      rw [machine.load_of_free kept read] at loaded ⊢
      cases decoded : result.bind fun files => decode (machine.settingsOf files) with
      | error failure =>
          rw [decoded] at loaded
          cases loaded
      | ok other =>
          rw [decoded] at loaded
          cases loaded
          exact ⟨_, rfl, rfl⟩

end Config

namespace Cli

/-! ## What a command does with it -/

/-- What a command can do with the configuration of the process. -/
inductive Use where
  /-- Load it. -/
  | load
  /-- Find out what it and a command line ask to generate. -/
  | resolve (source : String) (overrides : Overrides)
  /-- Show it. -/
  | display (call : Call)
  deriving Repr, Inhabited

/-- What comes out of a use. -/
inductive Answer where
  | loaded (result : Except Failure Config)
  | resolved (result : Except Failure Generation)
  | displayed (result : Except Failure Unit)
  deriving Repr, Inhabited

namespace Use

/-- Make use of the configuration that is kept, or of a new one. -/
def run (cache : Config.Cache) : Use → StateM Machine (Answer × Config.Cache)
  | load => do
      let (result, cache) ← Config.load cache
      return (.loaded result, cache)
  | resolve source overrides => do
      let (result, cache) ← resolveGeneration cache source overrides
      return (.resolved result, cache)
  | display call => do
      let (result, cache) ← runConfigShow { call with cache }
      return (.displayed result, cache)

/-- How showing a configuration ends, without the mark that the failure was shown. -/
def shown (config : Config) (call : Call) : Except Failure Unit :=
  match configText? (call.given.text "format" "toml") config with
  | none => .error (.message ("unsupported format: " ++ call.given.text "format" "toml" ++
      " (supported: toml, json, yaml)"))
  | some _ => config.validate.mapError (.context "configuration validation failed")

/-- What comes out of a use of a configuration. -/
def answer (config : Config) : Use → Answer
  | load => .loaded (.ok config)
  | resolve source overrides => .resolved (Cli.resolve config source overrides)
  | display call => .displayed ((shown config call).mapError (.mark .reported))

end Use

section

variable {cache after : Config.Cache} {config : Config} {machine : Machine}

theorem outcome_reported {α : Type} (voice : Voice) (quiet : Bool)
    (action : ExceptT Failure (StateM Machine) α) (machine : Machine) :
    (Machine.run (reported voice quiet action) machine).1 =
      (Machine.run action machine).1.mapError (.mark .reported) := by
  rw [run_reported]
  generalize Machine.run action machine = outcome
  obtain ⟨result, after⟩ := outcome
  cases result with
  | ok value => rfl
  | error failure => rfl

/-- How showing a configuration ends depends on the format and on the configuration. -/
theorem outcome_showConfig (call : Call) (files : List String) (config : Config)
    (machine : Machine) :
    (Machine.run (showConfig call files config) machine).1 =
      (Use.shown config call).mapError (.mark .reported) := by
  simp only [showConfig, Use.shown]
  cases configText? (call.given.text "format" "toml") config with
  | none => simp only [outcome_reported, Machine.run_throw]
  | some text =>
      simp only [Machine.run_bind, Machine.run_lift, outcome_reported]
      rfl

/-- What comes out of a use is what the configuration gives that is loaded for it. -/
theorem Use.run_eq (use : Use)
    (loaded : ((Config.load cache : StateM Machine _) machine).1 = (.ok config, after)) :
    ((use.run cache : StateM Machine _) machine).1 = (use.answer config, after) := by
  cases use with
  | load =>
      simp only [run, Machine.stateM_bind, loaded]
      rfl
  | resolve source overrides =>
      simp only [run, resolveGeneration, loadConfig, Machine.stateM_bind, Machine.stateM_pure,
        loaded]
      rfl
  | display call =>
      have shown := outcome_showConfig { call with cache } after.loaded config
        ((Config.load cache : StateM Machine _) machine).2
      simp only [run, runConfigShow, loadConfig, Machine.stateM_bind, Machine.stateM_pure, loaded]
      exact congrArg (fun result => (Answer.displayed result, after)) shown

end

/-! ## A whole session -/

/-- What comes out of the uses that the commands of one process make of its configuration, each
on the machine that there is then, and what is kept after each. -/
def session (cache : Config.Cache) : List (Machine × Use) → List (Answer × Config.Cache)
  | [] => []
  | (machine, use) :: rest =>
      let outcome := ((use.run cache : StateM Machine _) machine).1
      outcome :: session outcome.2 rest

theorem session_cons (cache : Config.Cache) (machine : Machine) (use : Use)
    (rest : List (Machine × Use)) :
    session cache ((machine, use) :: rest) =
      ((use.run cache : StateM Machine _) machine).1 ::
        session ((use.run cache : StateM Machine _) machine).1.2 rest := by
  rw [session]

/-- Where a configuration is kept, every use is one of this configuration. -/
theorem session_of_kept {cache : Config.Cache} {config : Config}
    (kept : cache.config = some config) (uses : List (Machine × Use)) :
    session cache uses = uses.map fun use => (use.2.answer config, cache) := by
  induction uses with
  | nil => rfl
  | cons first rest ih =>
      obtain ⟨machine, use⟩ := first
      have ran := use.run_eq (congrArg Prod.fst (machine.load_of_kept kept))
      rw [session_cons, ran, List.map_cons, ih]

/-- Once a configuration is loaded, the process keeps it, and every use of it gives what it
gives for this configuration, as it would if it came first. -/
theorem session_answers {start : Machine} {config : Config}
    (loaded : ((Config.load {} : StateM Machine _) start).1.1 = .ok config) (first : Use)
    (further : List (Machine × Use)) :
    ∃ cache : Config.Cache, cache.config = some config ∧
      session {} ((start, first) :: further) =
        ((start, first) :: further).map (fun use => (use.2.answer config, cache)) ∧
      ∀ use : Use, ((use.run {} : StateM Machine _) start).1 = (use.answer config, cache) := by
  obtain ⟨cache, fresh, kept⟩ := Config.exists_kept_of_load loaded
  have alone := fun use : Use => use.run_eq fresh
  refine ⟨cache, kept, ?_, alone⟩
  rw [session_cons, alone first, List.map_cons, session_of_kept kept]

/-- The configuration that was loaded holds although the first command asks for a target that
there is not, the file is changed after it, and a variable is set. -/
theorem session_answers_changedFile :
    let host := fun (text : String) (environment : List (String × String)) =>
      ({ tree := ⟨[(["ddgen.toml"], .file text.toUTF8.toList)]⟩, environment } : Machine)
    let start := host "[generate]\ntarget = \"ts\"\n" []
    let changed := host "[generate]\ntarget = \"java\"\n" [("DDGEN_GENERATE_ROOT", "all")]
    let uses : List (Machine × Use) := [(start, .resolve "m.ddef" { target := "cobol" }),
      (changed, .resolve "m.ddef" { destination := "out" }), (changed, .load)]
    let generation : Generation :=
      { source := "m.ddef", root := "", quiet := false, debounce := 300000000,
        target := .typeScript, options := { source := "m.ddef", destination := "out" } }
    ∃ cache failure, cache.config = some { target := "ts" } ∧
      session {} uses =
        [(.resolved (.error failure), cache), (.resolved (.ok generation), cache),
          (.loaded (.ok { target := "ts" }), cache)] := by
  intro host start changed uses generation
  have loaded : ((Config.load {} : StateM Machine _) start).1.1 = .ok { target := "ts" } :=
    eq_ok_of_toOption (by decide +kernel)
  obtain ⟨cache, kept, answers, -⟩ := session_answers loaded
    (.resolve "m.ddef" { target := "cobol" })
    [(changed, .resolve "m.ddef" { destination := "out" }), (changed, .load)]
  have refused : (resolve { target := "ts" } "m.ddef" { target := "cobol" }).toOption = none := by
    decide +kernel
  cases failed : resolve { target := "ts" } "m.ddef" { target := "cobol" } with
  | ok generation =>
      rw [failed] at refused
      cases refused
  | error failure =>
      have resolved : resolve { target := "ts" } "m.ddef" { destination := "out" } =
          .ok generation := eq_ok_of_toOption (by decide +kernel)
      refine ⟨cache, failure, kept, answers.trans ?_⟩
      simp only [List.map_cons, List.map_nil, Use.answer, failed, resolved]

end Cli

end DomainGen
