import DomainGen.Proofs.Cli.Resolving
import DomainGen.Proofs.Cli.Sessions

/-!
# Showing a configuration and generating by it

Two commands ask whether a configuration makes sense: the one that shows it, and the one that
generates by it.  Both make the same checks (`Config.validate_eq_ok_iff`), but only generating
spells the target as it is selected before it checks it.  What can be shown can be generated by;
the converse fails exactly where the target of the configuration is another spelling of one that
there is (`shown_iff_resolved`), as `typescript` is (`not_shown_longName`).
-/

namespace DomainGen

open Config (targets)

/-! ## Configurations that make sense -/

namespace Config

/-- What a configuration has besides its target makes sense. -/
structure Sensible (config : Config) : Prop where
  debounce : 0 ≤ config.debounceMs
  verbosity : 0 ≤ config.verbosity
  rootPackage : config.rootPackage = "" ∨ isPackageName config.rootPackage

/-- The configuration with its target as it is selected. -/
def spelledOut (config : Config) : Config :=
  { config with target := Target.normalize config.target }

theorem sensible_of_validate {config : Config} (validated : config.validate = .ok ()) :
    config.Sensible := by
  have package := rootPackage_of_validate validated
  have listed := mem_targets_of_validate validated
  simp only [validate, if_neg (not_not_intro listed)] at validated
  constructor
  · by_contra negative
    rw [if_pos (lt_of_not_ge negative)] at validated
    cases validated
  · by_contra negative
    rw [if_pos (lt_of_not_ge negative)] at validated
    split at validated
    · cases validated
    · cases validated
  · exact package

theorem validate_of_sensible {config : Config} (listed : config.target ∈ targets)
    (sensible : config.Sensible) : config.validate = .ok () := by
  have package : ¬ (decide (config.rootPackage ≠ "") && !isPackageName config.rootPackage) := by
    rcases sensible.rootPackage with empty | named
    · simp [empty]
    · simp [named]
  simp only [validate]
  rw [if_neg (not_not_intro listed), if_neg (not_lt_of_ge sensible.debounce),
    if_neg (not_lt_of_ge sensible.verbosity), if_neg package]
  rfl

/-- A configuration passes the checks if it has a target that there is and the rest of it makes
sense. -/
theorem validate_eq_ok_iff {config : Config} :
    config.validate = .ok () ↔ config.target ∈ targets ∧ config.Sensible := by
  constructor
  · intro validated
    exact ⟨mem_targets_of_validate validated, sensible_of_validate validated⟩
  · rintro ⟨listed, sensible⟩
    exact validate_of_sensible listed sensible

theorem sensible_spelledOut {config : Config} : config.spelledOut.Sensible ↔ config.Sensible := by
  constructor
  · intro sensible
    exact ⟨sensible.debounce, sensible.verbosity, sensible.rootPackage⟩
  · intro sensible
    exact ⟨sensible.debounce, sensible.verbosity, sensible.rootPackage⟩

/-- The targets that there are stand in the spelling in which they are selected. -/
theorem normalize_of_mem_targets {selector : String} (listed : selector ∈ targets) :
    Target.normalize selector = selector := by
  have each : ∀ selector ∈ targets, Target.normalize selector = selector := by decide +kernel
  exact each selector listed

end Config

namespace Cli

/-! ## The two commands -/

/-- A command line that asks for nothing only has the target spelled out. -/
theorem apply_nothing (config : Config) :
    ({} : Overrides).apply config = config.spelledOut := by
  simp only [Overrides.apply, Text.orElse, if_pos, Bool.or_false, Config.spelledOut]

theorem exists_resolve_iff (config : Config) (source : String) :
    (∃ generation, resolve config source {} = .ok generation) ↔
      config.spelledOut.validate = .ok () := by
  rw [← apply_nothing]
  constructor
  · rintro ⟨generation, resolved⟩
    exact (resolve_eq_ok_iff.mp resolved).1
  · intro validated
    rcases @exists_resolve_of_validate _ source _ validated with ⟨target, -, resolved⟩
    exact ⟨_, resolved⟩

/-- With a target that is spelled out, resolving ends as the checks do. -/
theorem resolve_of_spelled {config : Config}
    (spelled : Target.normalize config.target = config.target) (source : String) :
    (resolve config source {}).map (fun _ => ()) = config.validate := by
  have plain : ({} : Overrides).apply config = config := by
    rw [apply_nothing, Config.spelledOut, spelled]
  cases checked : config.validate with
  | error failure =>
      rw [resolve_of_validate_error (plain ▸ checked)]
      rfl
  | ok value =>
      have validated : (({} : Overrides).apply config).validate = .ok () := by
        rw [plain, checked]
      rcases @exists_resolve_of_validate _ source _ validated with ⟨target, -, same⟩
      rw [same]
      rfl

/-- What becomes of a failed check when a configuration is shown. -/
def complaint (failure : Failure) : Failure :=
  .mark .reported (.context "configuration validation failed" failure)

theorem configText?_isSome {format : String} (supported : format ∈ ["toml", "json", "yaml"])
    (config : Config) : (configText? format config).isSome := by
  simp only [List.mem_cons, List.not_mem_nil, or_false] at supported
  rcases supported with rfl | rfl | rfl
  · rfl
  · rfl
  · rfl

section

variable {cache after : Config.Cache} {config : Config} {machine : Machine}

/-- In a format that there is, showing a configuration ends as the checks do. -/
theorem outcome_runConfigShow
    (loaded : ((Config.load cache : StateM Machine _) machine).1 = (.ok config, after))
    (call : Call) (supported : call.given.text "format" "toml" ∈ ["toml", "json", "yaml"]) :
    ((runConfigShow { call with cache } : StateM Machine _) machine).1.1 =
      config.validate.mapError complaint := by
  have displayed : Answer.displayed ((runConfigShow { call with cache } : StateM Machine _)
      machine).1.1 = (Use.display call).answer config :=
    congrArg Prod.fst ((Use.display call).run_eq loaded)
  rcases Option.isSome_iff_exists.mp (configText?_isSome supported config) with ⟨text, written⟩
  rw [Answer.displayed.inj displayed, Use.shown, written]
  cases config.validate with
  | ok value => rfl
  | error failure => rfl

theorem outcome_resolveGeneration
    (loaded : ((Config.load cache : StateM Machine _) machine).1 = (.ok config, after))
    (source : String) (overrides : Overrides) :
    ((resolveGeneration cache source overrides : StateM Machine _) machine).1.1 =
      resolve config source overrides := by
  have resolved : Answer.resolved ((resolveGeneration cache source overrides :
      StateM Machine _) machine).1.1 = (Use.resolve source overrides).answer config :=
    congrArg Prod.fst ((Use.resolve source overrides).run_eq loaded)
  exact Answer.resolved.inj resolved

/-- A configuration can be shown without complaint if it has a target that there is and the rest
of it makes sense, and it can be generated by if that holds once its target is spelled out.  With
a target that is spelled out both come to the same, and they part only where the target is another
spelling of one that there is. -/
theorem shown_iff_resolved
    (loaded : ((Config.load cache : StateM Machine _) machine).1 = (.ok config, after))
    (call : Call) (supported : call.given.text "format" "toml" ∈ ["toml", "json", "yaml"])
    (source : String) :
    let shown := ((runConfigShow { call with cache } : StateM Machine _) machine).1.1
    let resolved := ((resolveGeneration cache source {} : StateM Machine _) machine).1.1
    (shown = .ok () ↔ config.target ∈ targets ∧ config.Sensible) ∧
    ((∃ generation, resolved = .ok generation) ↔
      Target.normalize config.target ∈ targets ∧ config.Sensible) ∧
    (shown = .ok () → ∃ generation, resolved = .ok generation) ∧
    (Target.normalize config.target = config.target →
      shown = (resolved.map fun _ => ()).mapError complaint) ∧
    ((shown = .ok () ↔ ∃ generation, resolved = .ok generation) ↔
      ¬ (config.target ∉ targets ∧ Target.normalize config.target ∈ targets ∧
        config.Sensible)) := by
  intro shown resolved
  have showing : shown = .ok () ↔ config.target ∈ targets ∧ config.Sensible := by
    rw [← Config.validate_eq_ok_iff]
    simp only [shown, outcome_runConfigShow loaded call supported]
    cases config.validate with
    | ok value => simp
    | error failure => simp
  have resolving : (∃ generation, resolved = .ok generation) ↔
      Target.normalize config.target ∈ targets ∧ config.Sensible := by
    simp only [resolved, outcome_resolveGeneration loaded source {}]
    rw [exists_resolve_iff, Config.validate_eq_ok_iff, Config.sensible_spelledOut]
    exact Iff.rfl
  have selected : config.target ∈ targets → Target.normalize config.target ∈ targets := by
    intro listed
    rw [Config.normalize_of_mem_targets listed]
    exact listed
  have forward : shown = .ok () → ∃ generation, resolved = .ok generation := by
    rw [showing, resolving]
    exact And.imp_left selected
  refine ⟨showing, resolving, forward, ?same, ?apart⟩
  case same =>
    intro spelled
    simp only [shown, resolved, outcome_runConfigShow loaded call supported,
      outcome_resolveGeneration loaded source {}, resolve_of_spelled spelled]
  case apart =>
    rw [showing, resolving]
    constructor
    · rintro agree ⟨unlisted, other, sensible⟩
      exact unlisted (agree.mpr ⟨other, sensible⟩).1
    · intro none
      constructor
      · exact And.imp_left selected
      · rintro ⟨other, sensible⟩
        by_contra unlisted
        apply none
        exact ⟨fun listed => unlisted ⟨listed, sensible⟩, other, sensible⟩

end

/-- A machine with a configuration file that holds one line. -/
def configuredHost (line : String) : Machine where
  tree := ⟨[(["ddgen.toml"], .file (line ++ "\n").toUTF8.toList)]⟩

/-- A call that shows the configuration in a format. -/
def callFor (format : String) : Call where
  voice := { styling := .plain, verbosity := 0 }
  given := { values := [("format", format)] }
  cache := {}
  build := {}

/-- A configuration that selects a target by its own name. -/
theorem shown_iff_resolved_configuredHost :
    ((runConfigShow { callFor "json" with cache := {} } : StateM Machine _)
      (configuredHost "generate.target = \"ts\"")).1.1 = .ok () ∧
    ∃ generation, ((resolveGeneration {} "m.ddef" {} : StateM Machine _)
      (configuredHost "generate.target = \"ts\"")).1.1 = .ok generation := by
  have loaded : ((Config.load {} : StateM Machine _)
      (configuredHost "generate.target = \"ts\"")).1.1 = .ok { target := "ts" } :=
    eq_ok_of_toOption (by decide +kernel)
  rcases read : ((Config.load {} : StateM Machine _)
      (configuredHost "generate.target = \"ts\"")).1 with ⟨result, after⟩
  rw [read] at loaded
  cases loaded
  rcases shown_iff_resolved read (callFor "json") (by decide +kernel) "m.ddef"
    with ⟨showing, -, forward, -, -⟩
  have shown := showing.mpr ⟨by decide +kernel, by decide, by decide, .inl rfl⟩
  exact ⟨shown, forward shown⟩

/-- The long name of a target is enough to generate by, but not to be shown. -/
theorem not_shown_longName :
    ((Config.load {} : StateM Machine _)
      (configuredHost "generate.target = \"typescript\"")).1.1.toOption =
        some { target := "typescript" } ∧
    ((runConfigShow { callFor "toml" with cache := {} } : StateM Machine _)
      (configuredHost "generate.target = \"typescript\"")).1.1.toOption = none ∧
    ((resolveGeneration {} "m.ddef" {} : StateM Machine _)
      (configuredHost "generate.target = \"typescript\"")).1.1.toOption.isSome := by
  decide +kernel

end Cli

end DomainGen
