import DomainGen.Proofs.Generate.SourceTree

/-!
# Generation runs

A generation run writes the output for its model below the destination, and what it
does besides is to log (`run_runGeneration`).  The output for a model that was read
from a source text can be written piece by piece, whatever the target
(`orderly_artifacts`).
-/

namespace DomainGen

/-- The options of a run: without a source, the file that was loaded counts. -/
def GenerateOptions.sourced (options : GenerateOptions) (path : String) : GenerateOptions :=
  if options.source = "" then { options with source := path } else options

@[simp] theorem GenerateOptions.rootPackage_sourced (options : GenerateOptions) (path : String) :
    (options.sourced path).rootPackage = options.rootPackage := by
  unfold sourced
  split
  · rfl
  · rfl

theorem GenerateOptions.sourced_of_ne {options : GenerateOptions} (given : options.source ≠ "")
    (path : String) : options.sourced path = options := if_neg given

namespace LoadedModel

/-- The output for a loaded model. -/
def artifacts (model : LoadedModel) (target : Target) (options : GenerateOptions) :
    List Artifact :=
  target.generate model.scope 0 (analyze model.scope 0 model.definitions) model.definitions options

/-- The output does not depend on where it goes. -/
theorem artifacts_destination (model : LoadedModel) (target : Target) (options : GenerateOptions)
    (destination : String) :
    model.artifacts target { options with destination } = model.artifacts target options := by
  cases target with
  | java => rfl
  | typeScript => rfl

/-- Linking with others leaves a model its declarations. -/
theorem definitions_linked (model : LoadedModel) :
    model.linked.definitions = definitionsAt (linkAll model.documents) 0 := by
  have placed := definitions_link (List.range model.documents.length) model.documents
    List.nodup_range 0
  rw [linked, linkAll]
  cases docs : link (List.range model.documents.length) model.documents with
  | nil =>
      rw [docs] at placed
      simp [documents] at placed
  | cons document siblings =>
      have kept : document.check.definitions = document.definitions :=
        Document.definitions_foldl_report _ _ document
      simp only [definitions, kept]
      rfl

theorem segmented_linked {model : LoadedModel} (read : model.document.IsRead) :
    Java.Segmented model.linked.definitions.visits := by
  rw [definitions_linked, linkAll]
  refine segmented_link List.nodup_range ?_
  intro doc found
  cases found
  exact read

end LoadedModel

/-! ## What a run does -/

namespace Machine

variable {target : Target} {model : LoadedModel} {options : GenerateOptions} {machine : Machine}

/-- A run succeeds if its output can be written, and leaves what writing leaves. -/
theorem run_runGeneration (target : Target) (model : LoadedModel) (options : GenerateOptions)
    (machine : Machine) :
    let options' := options.sourced model.document.path
    ∃ start, Leaves machine machine.tree machine.output start ∧
      match run (writeArtifacts (pure false) options'.resolvedDestination
          (model.artifacts target options')) start with
      | (.ok _, wrote) =>
          ∃ result after, run (runGeneration (pure false) target model options) machine =
            (.ok result, after) ∧ Leaves wrote wrote.tree wrote.output after
      | (.error failure, wrote) =>
          run (runGeneration (pure false) target model options) machine =
            (.error failure, wrote) := by
  intro options'
  let analysis := analyze model.scope 0 model.definitions
  have noted := leaves_note .debug "typegen" "Analyzed model"
    [("implementing_types", .int analysis.unionsOf.length),
      ("aliased_unions", .int analysis.aliasesOf.length)] machine
  refine ⟨_, noted, ?_⟩
  have begun : run (runGeneration (pure false) target model options) machine =
      run (writeArtifacts (pure false) options'.resolvedDestination
        (model.artifacts target options') >>= fun _ => _)
        ((note .debug "typegen" "Analyzed model"
          [("implementing_types", .int analysis.unionsOf.length),
            ("aliased_unions", .int analysis.aliasesOf.length)] : StateM Machine Unit)
              machine).2 := rfl
  rw [begun, run_bind]
  split
  · next wrote written =>
    rw [written]
    exact ⟨_, _, rfl, leaves_note _ _ _ _ wrote⟩
  · next failure wrote written => rw [written]

theorem Sound.of_leaves {after : Machine} {output : String} (sound : machine.Sound)
    (left : Leaves machine machine.tree output after) : after.Sound :=
  sound.of_directories sound.tree (fun _ found => found) left

theorem Prepared.of_leaves {start prepared : Machine} {destination : String}
    (left : Leaves machine machine.tree machine.output start)
    (ready : Prepared start destination prepared) : Prepared machine destination prepared := by
  refine ⟨ready.sound, ?_, ?_, ready.spelled, ready.there⟩
  · have leaves := ready.leaves
    rw [left.output] at leaves
    exact left.trans leaves
  · have grown := ready.grown
    rwa [left.tree] at grown

/-- After a run that succeeded, the output lies at the destination. -/
theorem laid_of_run_runGeneration {result : RunResult} {after : Machine} (sound : machine.Sound)
    (plain : ∀ artifact ∈ model.artifacts target (options.sourced model.document.path),
      ∀ name ∈ artifact.names, Path.IsPlain name)
    (ran : run (runGeneration (pure false) target model options) machine = (.ok result, after)) :
    let destination := (options.sourced model.document.path).resolvedDestination
    let artifacts := model.artifacts target (options.sourced model.document.path)
    ∃ prepared, Prepared machine destination prepared ∧
      (∀ artifact ∈ artifacts, FileTree.Fits (Path.under destination artifact.path)) ∧
      Leaves machine after.tree machine.output after ∧
      Laid (Path.way machine.working destination) artifacts prepared.tree after.tree := by
  intro destination artifacts
  rcases run_runGeneration target model options machine with ⟨start, noted, described⟩
  split at described
  · next wrote written =>
    rcases described with ⟨other, final, same, left⟩
    cases same.symm.trans ran
    rcases laid_of_run_writeArtifacts (sound.of_leaves noted) plain written with
      ⟨prepared, ready, fits, wroteLeft, laid⟩
    rw [noted.output] at wroteLeft
    rw [noted.working] at laid
    refine ⟨prepared, ready.of_leaves noted, fits, ?_, ?_⟩
    · rw [left.tree]
      have whole := (noted.trans wroteLeft).trans left
      rwa [wroteLeft.output] at whole
    · rwa [left.tree]
  · rw [described] at ran
    cases ran

/-- Into an empty directory that is there, output can be written if it comes in order and
no path is too long. -/
theorem exists_run_runGeneration
    (orderly : Orderly (model.artifacts target (options.sourced model.document.path)))
    (sound : machine.Sound)
    (there : machine.tree.node machine.working
      (options.sourced model.document.path).resolvedDestination = .ok .directory) :
    let destination := (options.sourced model.document.path).resolvedDestination
    let artifacts := model.artifacts target (options.sourced model.document.path)
    (∀ names, names ≠ [] →
      machine.tree.find? (Path.way machine.working destination ++ names) = none) →
    (∀ artifact ∈ artifacts, FileTree.Fits (Path.under destination artifact.path)) →
    ∃ result after, run (runGeneration (pure false) target model options) machine =
        (.ok result, after) ∧
      Leaves machine after.tree machine.output after ∧
      Laid (Path.way machine.working destination) artifacts machine.tree after.tree := by
  intro destination artifacts empty fits
  rcases run_runGeneration target model options machine with ⟨start, noted, described⟩
  rw [← noted.tree, ← noted.working] at there empty
  rcases exists_run_writeArtifacts orderly (sound.of_leaves noted)
    (run_makeDirectories_of_node there) empty fits with ⟨wrote, written, wroteLeft, laid⟩
  rw [written] at described
  rcases described with ⟨result, after, ran, left⟩
  rw [noted.output] at wroteLeft
  rw [noted.tree, noted.working] at laid
  refine ⟨result, after, ran, ?_, ?_⟩
  · rw [left.tree]
    have whole := (noted.trans wroteLeft).trans left
    rwa [wroteLeft.output] at whole
  · rwa [left.tree]

end Machine

/-! ## Output that can be written -/

theorem TypeScript.slashFree_moduleName {options : GenerateOptions}
    (named : Path.extension options.source ≠ "") :
    '/' ∉ (TypeScript.moduleName options).toList := by
  have base : '/' ∉ (Path.base options.source).toList := by
    have dotted : '.' ∈ options.source.toList.reverse := by
      simp only [Path.extension] at named
      split at named
      · next dotted =>
        exact (List.takeWhile_sublist _).subset (by simpa using dotted)
      · contradiction
    have trimmed : ¬ (options.source.toList.reverse.dropWhile (· = '/')).isEmpty := by
      intro empty
      rw [List.isEmpty_iff, List.dropWhile_eq_nil_iff] at empty
      exact absurd (empty '.' dotted) (by decide)
    unfold Path.base
    split
    · decide
    · rw [if_neg trimmed, String.toList_ofList, List.mem_reverse]
      intro member
      simpa using List.mem_takeWhile_imp member
  simp only [moduleName]
  split
  · decide
  · rw [outputName, String.toList_ofList]
    exact fun member => base (List.mem_of_mem_take member)

theorem TypeScript.segments_moduleName {options : GenerateOptions}
    (named : Path.extension options.source ≠ "") :
    Text.segments '/' (moduleName options ++ ".ts") = [moduleName options ++ ".ts"] ∧
      Path.IsPlain (moduleName options ++ ".ts") := by
  have slashFree : '/' ∉ (moduleName options ++ ".ts").toList := by
    rw [String.toList_append, List.mem_append, not_or]
    exact ⟨slashFree_moduleName named, by decide⟩
  have longer : ∀ text : String, text.length < 3 → moduleName options ++ ".ts" ≠ text := by
    rintro text short rfl
    have length : ".ts".length = 3 := by decide
    rw [String.length_append, length] at short
    omega
  refine ⟨?_, longer _ (by decide), longer _ (by decide), longer _ (by decide), slashFree⟩
  exact Path.segments_of_slashFree slashFree

theorem TypeScript.orderly_generate {options : GenerateOptions}
    (named : Path.extension options.source ≠ "") (scope : Scope) (document : Nat)
    (defs : Definitions) : Orderly (generate scope document defs options) := by
  rcases segments_moduleName named with ⟨segments, plain⟩
  constructor
  · intro artifact member name inside
    rw [List.mem_singleton.mp member, Artifact.names, Artifact.path, segments] at inside
    rwa [List.mem_singleton.mp inside]
  · intro front path content back parts
    have member : .file path content ∈ generate scope document defs options := by simp [parts]
    rw [generate, List.mem_singleton, Artifact.file.injEq] at member
    rw [member.1, segments]
    exact .inl rfl
  · intro path content _
    simp [generate, Artifact.makes]

/-- The output for a model that was read from a source text can be written piece by
piece. -/
theorem LoadedModel.orderly_artifacts {model : LoadedModel} (read : model.document.IsRead)
    {options : GenerateOptions}
    (valid : options.rootPackage = "" ∨ Config.isPackageName options.rootPackage)
    (named : Path.extension options.source ≠ "") (target : Target) :
    Orderly (model.linked.artifacts target options) := by
  cases target with
  | java =>
      exact Java.orderly_generate (Java.isSegment_of_mem_rootPath valid) (segmented_linked read)
  | typeScript => exact TypeScript.orderly_generate named _ _ _

/-! ## Output files by their extensions -/

namespace LoadedModel

variable {model : LoadedModel} {target : Target} {options : GenerateOptions}
  {path content : String} (member : .file path content ∈ model.artifacts target options)
include member

/-- Every output file has the extension of its language. -/
theorem exists_stem_of_file : ∃ stem, path = stem ++ ".java" ∨ path = stem ++ ".ts" := by
  cases target with
  | java =>
      have listed : (path, content) ∈ (model.artifacts .java options).filterMap Artifact.file? :=
        List.mem_filterMap.mpr ⟨_, member, rfl⟩
      rw [artifacts, Target.generate, Java.files_generate, List.mem_filterMap] at listed
      rcases listed with ⟨⟨⟨package, decl⟩, index⟩, -, source⟩
      simp only [Java.sourceFile?, Option.map_eq_some_iff, Prod.mk.injEq] at source
      rcases source with ⟨body, -, rfl, -⟩
      rw [Java.sourceNames]
      by_cases top : Java.rootPath options ++ package = []
      · rw [top, List.nil_append, Text.join, String.intercalate_singleton]
        exact ⟨decl.name, .inl rfl⟩
      · rw [Path.join_concat top, ← String.append_assoc]
        exact ⟨_, .inl rfl⟩
  | typeScript =>
      rw [artifacts, Target.generate, TypeScript.generate, List.mem_singleton,
        Artifact.file.injEq] at member
      exact ⟨_, .inr member.1⟩

theorem extension_of_file : Path.extension path = ".java" ∨ Path.extension path = ".ts" := by
  rcases exists_stem_of_file member with ⟨stem, rfl | rfl⟩
  · exact .inl (@Path.extension_append stem ['j', 'a', 'v', 'a'] (by decide) (by decide))
  · exact .inr (@Path.extension_append stem ['t', 's'] (by decide) (by decide))

theorem not_isModelFile_of_file : ¬ isModelFile path := by
  rw [isModelFile]
  rcases extension_of_file member with extension | extension
  · rw [extension]
    decide +kernel
  · rw [extension]
    decide +kernel

theorem ne_missing_of_file (text : String) : path ≠ text ++ " (missing)" := by
  intro same
  have last := congrArg (fun text => text.toList.getLast?) same
  rcases exists_stem_of_file member with ⟨stem, rfl | rfl⟩
  · simp [String.toList_append] at last
  · simp [String.toList_append] at last

end LoadedModel

end DomainGen
