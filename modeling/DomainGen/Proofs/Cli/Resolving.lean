import DomainGen.Proofs.Cli.Generating
import DomainGen.Proofs.Config.Loading

/-!
# Resolving what to generate

What a run generates is what the command line asks for, key by key, and else what the layers of
the configuration have: variables, the file of the project, the file of the user, the defaults.
A new process merges each of the files once, as far as two paths from the root can lead to the
same file (`resolved_key_by_key`).  A home that is not a path from the root can lead to the
file of the project by another path, and the file is merged twice
(`merged_twice_relativeHome`).
-/

namespace DomainGen

open Config (Layers IsNearest merged pathIn)

/-! ## Targets that can be selected -/

theorem Target.exists_of_mem_targets {selector : String} (listed : selector ∈ Config.targets) :
    ∃ target : Target, target.language = selector ∧ ofSelector? selector = some target := by
  have each : ∀ target ∈ all, ofSelector? target.language = some target := by
    decide +kernel
  obtain ⟨target, member, rfl⟩ := List.mem_map.mp listed
  exact ⟨target, rfl, each target member⟩

theorem Config.mem_targets_of_validate {config : Config} (validated : config.validate = .ok ()) :
    config.target ∈ targets := by
  by_contra unknown
  simp only [validate, if_pos unknown] at validated
  cases validated

namespace Cli

/-! ## The command line over the layers -/

/-- The configuration that a command line and some layers ask for: what the command line says,
unless that is empty, and else what the layers have. -/
def Overrides.over (overrides : Overrides) (layers : Layers) : Config where
  target := Target.normalize (Text.orElse overrides.target (layers.text "generate.target"))
  destination := Text.orElse overrides.destination (layers.text "generate.destination")
  root := Text.orElse overrides.root (layers.text "generate.root")
  quiet := layers.boolean "generate.quiet" || overrides.quiet
  rootPackage := Text.orElse overrides.rootPackage (layers.text "java.root_package")
  jsonLog := layers.boolean "log.json"
  verbosity := layers.integer "log.verbosity"
  debounceMs := layers.integer "watch.debounce_ms"

theorem Overrides.apply_config (overrides : Overrides) (layers : Layers) :
    overrides.apply layers.config = overrides.over layers := rfl

theorem resolve_of_validate_error {config : Config} {source : String} {overrides : Overrides}
    {failure : Failure} (failed : (overrides.apply config).validate = .error failure) :
    resolve config source overrides = .error failure := by
  simp only [resolve, failed]
  rfl

theorem exists_resolve_of_validate {config : Config} {source : String} {overrides : Overrides}
    (validated : (overrides.apply config).validate = .ok ()) :
    ∃ target : Target, target.language = (overrides.apply config).target ∧
      resolve config source overrides =
        .ok (.ofConfig (overrides.apply config) source target) := by
  obtain ⟨target, named, selected⟩ :=
    Target.exists_of_mem_targets (Config.mem_targets_of_validate validated)
  exact ⟨target, named, resolve_eq_ok_iff.mpr ⟨validated, target, selected, rfl⟩⟩

/-! ## Resolving in a new process -/

/-- A new process generates what the command line asks for over its layers, of which each
setting is looked up by itself.  The files that it has merged are those of the user and of the
project, the nearest one at or above the working directory.  None has two paths, if the
home is a path from the root. -/
theorem resolved_key_by_key {machine : Machine} (absolute : Path.isAbsolute machine.working)
    (readable : ∀ path ∈ [machine.userFile, machine.projectFile], machine.Readable path)
    (typed : machine.layers.WellTyped) (source : String) (overrides : Overrides) :
    ∃ result cache,
      (resolveGeneration {} source overrides : StateM Machine _) machine =
        ((result, cache), machine) ∧
      (∀ failure, (overrides.over machine.layers).validate = .error failure →
        result = .error failure) ∧
      ((overrides.over machine.layers).validate = .ok () →
        ∃ target : Target, target.language = (overrides.over machine.layers).target ∧
          result = .ok (.ofConfig (overrides.over machine.layers) source target)) ∧
      (∀ key other, Layers.AgreeOn key machine.layers other →
        machine.layers.setting key = other.setting key) ∧
      cache.loaded = [machine.userFile, machine.projectFile].eraseDups.filter machine.occupied ∧
      cache.files = some (merged (cache.loaded.map machine.settingsAt)) ∧
      cache.loaded.Nodup ∧
      ((machine.assigned? "HOME").all Path.isAbsolute →
        (cache.loaded.map (Path.way machine.working)).Nodup) ∧
      (Path.clean machine.working = machine.working →
        ∃ found, machine.projectFile = (Option.map pathIn found).getD "" ∧
          IsNearest (fun above => machine.hasFile (pathIn above)) (Path.parts machine.working)
            found) := by
  have loaded : (resolveGeneration {} source overrides : StateM Machine _) machine =
      ((resolve machine.layers.config source overrides,
        { config := some machine.layers.config,
          files := some (merged (machine.configFiles.map machine.settingsAt)),
          loaded := machine.configFiles }), machine) := by
    unfold resolveGeneration loadConfig
    rw [Machine.stateM_bind, Machine.stateM_bind, Machine.load_layers readable typed]
    simp only [Machine.stateM_pure, mapError_ok, Except.bind]
  rw [← overrides.apply_config]
  refine ⟨_, _, loaded, fun _ failed => resolve_of_validate_error failed,
    exists_resolve_of_validate, fun _ _ agree => agree.setting_eq, ?_, ?_, ?_, ?_,
    Machine.exists_nearest_projectFile absolute⟩
  · simp only [Machine.configFiles]
  · simp only
  · simpa only using machine.nodup_configFiles
  · simpa only using Machine.nodup_ways absolute

/-- A machine with files of a user and of a project, and some variables. -/
def layeredHost : Machine where
  tree := ⟨[(["home"], .directory), (["home", ".ddgen"], .directory),
    (["home", ".ddgen", "ddgen.toml"],
      .file "generate.target = \"java\"\ngenerate.quiet = true\n".toUTF8.toList),
    (["home", "work"], .directory), (["home", "work", "deep"], .directory),
    (["home", "work", "ddgen.toml"], .file "generate.target = \"ts\"\n".toUTF8.toList)]⟩
  working := "/home/work/deep"
  environment := [("HOME", "/home"), ("DDGEN_GENERATE_DESTINATION", ""),
    ("DDGEN_GENERATE_ROOT", "all"), ("DDGEN_WATCH_DEBOUNCE_MS", "70")]

theorem resolved_key_by_key_layeredHost :
    ∃ cache, (resolveGeneration {} "m.ddef" { root := "models" } : StateM Machine _) layeredHost =
        ((.ok { source := "m.ddef", root := "models", quiet := true, debounce := 70000000,
                target := .typeScript, options := { source := "m.ddef" } }, cache),
          layeredHost) ∧
      cache.loaded = ["/home/.ddgen/ddgen.toml", "/home/work/ddgen.toml"] := by
  have computed : (∀ path ∈ [layeredHost.userFile, layeredHost.projectFile],
        layeredHost.Readable path) ∧
      layeredHost.layers.WellTyped ∧
      ({ root := "models" } : Overrides).over layeredHost.layers =
        { target := "ts", root := "models", quiet := true, debounceMs := 70 } ∧
      [layeredHost.userFile, layeredHost.projectFile].eraseDups.filter layeredHost.occupied =
        ["/home/.ddgen/ddgen.toml", "/home/work/ddgen.toml"] := by
    decide +kernel
  obtain ⟨readable, typed, config, files⟩ := computed
  obtain ⟨result, cache, ran, -, succeeds, -, loaded, -⟩ :=
    resolved_key_by_key (by decide) readable typed "m.ddef" { root := "models" }
  rw [config] at succeeds
  obtain ⟨target, named, same⟩ := succeeds (by decide +kernel)
  rw [same] at ran
  have selected : target = .typeScript := by
    cases target with
    | java => exact absurd named (by decide)
    | typeScript => rfl
  subst selected
  exact ⟨cache, ran, loaded.trans files⟩

/-- A machine whose working directory is that of the file of the user, with a home that is a
path from there. -/
def relativeHome : Machine where
  tree := ⟨[(["home"], .directory), (["home", ".ddgen"], .directory),
    (["home", ".ddgen", "ddgen.toml"], .file "[log]\njson = true\n".toUTF8.toList)]⟩
  working := "/home/.ddgen"
  environment := [("HOME", "..")]

/-- Both searches find the same file, by two paths, and it is merged twice. -/
theorem merged_twice_relativeHome :
    relativeHome.layers.WellTyped ∧
      (∀ path ∈ [relativeHome.userFile, relativeHome.projectFile],
        relativeHome.Readable path) ∧
      ∃ result cache,
        (resolveGeneration {} "m.ddef" {} : StateM Machine _) relativeHome =
          ((.ok result, cache), relativeHome) ∧
        cache.loaded = ["../.ddgen/ddgen.toml", "/home/.ddgen/ddgen.toml"] ∧
        cache.loaded.map (Path.way relativeHome.working) =
          [["home", ".ddgen", "ddgen.toml"], ["home", ".ddgen", "ddgen.toml"]] := by
  have computed : relativeHome.layers.WellTyped ∧
      (∀ path ∈ [relativeHome.userFile, relativeHome.projectFile],
        relativeHome.Readable path) ∧
      let outcome := (resolveGeneration {} "m.ddef" {} : StateM Machine _) relativeHome
      outcome.1.1.toOption.isSome ∧ outcome.2 = relativeHome ∧
        outcome.1.2.loaded = ["../.ddgen/ddgen.toml", "/home/.ddgen/ddgen.toml"] := by
    decide +kernel
  generalize (resolveGeneration {} "m.ddef" {} : StateM Machine _) relativeHome = outcome
    at computed ⊢
  obtain ⟨⟨result, cache⟩, after⟩ := outcome
  obtain ⟨typed, readable, succeeded, same, loaded⟩ := computed
  simp only at succeeded same loaded
  obtain ⟨generation, resolved⟩ := Option.isSome_iff_exists.mp succeeded
  refine ⟨typed, readable, generation, cache, ?_, loaded, ?_⟩
  · rw [eq_ok_of_toOption resolved, same]
  · rw [loaded]
    decide +kernel

end Cli

end DomainGen
