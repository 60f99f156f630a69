import DomainGen.Proofs.Generate.Runs

/-!
# Which declaration of a name is written

A name can be declared more than once.  References mean the first declaration, but
every declaration with a source is written to the file of that name, one after the
other: what remains is the source of the last one (`source_of_lastDeclaration`).  The
two differ already when an entity is declared twice
(`source_ne_firstDeclaration_repeatedModel`).
-/

namespace DomainGen

namespace Java

/-- The contents that remain in a file are those of the last located type with that
file. -/
theorem contentAt?_generate (scope : Scope) (document : Nat) (analysis : Analysis)
    (defs : Definitions) (options : GenerateOptions) (names : List String) :
    contentAt? (generate scope document analysis defs options) names =
      defs.locatedTypes.zipIdx.reverse.findSome? fun located =>
        (sourceFile? scope analysis document (rootPath options) located).bind fun file =>
          if Text.segments '/' file.1 = names then some file.2 else none := by
  have byFile : ∀ artifact : Artifact, artifact.contentAt? names =
      artifact.file?.bind fun file =>
        if Text.segments '/' file.1 = names then some file.2 else none := by
    intro artifact
    cases artifact with
    | directory path => rfl
    | file path content => rfl
  have files := congrArg List.reverse (files_generate scope document analysis defs options)
  rw [← List.filterMap_reverse, ← List.filterMap_reverse] at files
  rw [contentAt?, funext byFile, ← List.head?_filterMap, ← List.filterMap_filterMap, files,
    List.filterMap_filterMap, List.head?_filterMap]

/-- A located type that is the last one with a source at its path. -/
structure IsLastSource (defs : Definitions) (path : List String) (name : String) (index : Nat)
    (decl : TypeDecl) : Prop where
  located : defs.locatedTypes[index]? = some (path, decl)
  name_eq : decl.name = name
  source : hasSource decl
  last : ∀ later other, index < later → defs.locatedTypes[later]? = some (path, other) →
    other.name = name → ¬ hasSource other

variable {scope : Scope} {document : Nat} {analysis : Analysis} {defs : Definitions}
  {options : GenerateOptions} (root : ∀ segment ∈ rootPath options, IsSegment segment)
  (segmented : Segmented defs.visits)
include root segmented

/-- A type has the file of a name if it stands in the same package and has that name. -/
theorem segments_sourcePath_eq_iff {path other : List String} {decl different : TypeDecl}
    (one : (path, decl) ∈ defs.locatedTypes) (two : (other, different) ∈ defs.locatedTypes) :
    Text.segments '/' (Text.join "/" (sourceNames (rootPath options ++ other) different.name)) =
        sourceNames (rootPath options ++ path) decl.name ↔
      other = path ∧ different.name = decl.name := by
  rcases exists_visit_of_mem_locatedTypes two with ⟨visit, visited, element, rfl⟩
  rw [(segments_sourceNames root segmented visited element).2]
  constructor
  · intro same
    exact eq_of_sourcePath_eq root segmented two one (congrArg (Text.join "/") same)
  · rintro ⟨rfl, same⟩
    rw [same]

/-- Of the types with a source at the same path, the last one is written last. -/
theorem exists_isLastSource {index : Nat} {path : List String} {decl : TypeDecl}
    (located : defs.locatedTypes[index]? = some (path, decl)) (source : hasSource decl) :
    ∃ last other body, index ≤ last ∧ IsLastSource defs path decl.name last other ∧
      renderType? scope analysis ⟨document, last⟩ other = some body ∧
      contentAt? (generate scope document analysis defs options)
          (sourceNames (rootPath options ++ path) decl.name) =
        some (renderFile (rootPath options ++ path) body) := by
  let written := fun located : (List String × TypeDecl) × Nat =>
    (sourceFile? scope analysis document (rootPath options) located).bind fun file =>
      if Text.segments '/' file.1 = sourceNames (rootPath options ++ path) decl.name
        then some file.2 else none
  -- A located type is written to this file if it has a source and the same qualified name.
  have writes : ∀ number around other, defs.locatedTypes[number]? = some (around, other) →
      ∀ content, written ((around, other), number) = some content ↔
        (around = path ∧ other.name = decl.name) ∧
          ∃ body, renderType? scope analysis ⟨document, number⟩ other = some body ∧
            renderFile (rootPath options ++ around) body = content := by
    intro number around other found content
    have same := segments_sourcePath_eq_iff root segmented (List.mem_of_getElem? located)
      (List.mem_of_getElem? found)
    simp only [written, sourceFile?]
    cases renderType? scope analysis ⟨document, number⟩ other with
    | none => simp
    | some body => simp [same]
  have listed : ∀ entry : (List String × TypeDecl) × Nat,
      entry ∈ defs.locatedTypes.zipIdx.reverse ↔
        defs.locatedTypes[entry.2]? = some entry.1 := by
    intro entry
    rw [List.mem_reverse, List.mem_zipIdx_iff_getElem?]
  have rendered : ∀ number other, hasSource other →
      ∃ body, renderType? scope analysis ⟨document, number⟩ other = some body := by
    intro number other source
    rw [← isSome_renderType? scope analysis ⟨document, number⟩] at source
    exact Option.isSome_iff_exists.mp source
  rw [contentAt?_generate]
  change ∃ last other body, _ ∧ _ ∧ _ ∧ defs.locatedTypes.zipIdx.reverse.findSome? written = _
  cases found : defs.locatedTypes.zipIdx.reverse.findSome? written with
  | none =>
      rcases rendered index decl source with ⟨body, rendered⟩
      have missing := List.findSome?_eq_none_iff.mp found ((path, decl), index)
        ((listed _).mpr located)
      rw [(writes index path decl located _).mpr ⟨⟨rfl, rfl⟩, body, rendered, rfl⟩] at missing
      contradiction
  | some content =>
      rcases List.findSome?_eq_some_iff.mp found with ⟨after, ⟨⟨around, other⟩, last⟩, before,
        parts, found, none⟩
      have placed := (listed ((around, other), last)).mp (by simp [parts])
      rcases (writes last around other placed content).mp found with
        ⟨⟨rfl, named⟩, body, renderedLast, rfl⟩
      -- What comes later in the model comes earlier in the reversed list.
      have ordered : ∀ number entry, defs.locatedTypes[number]? = some entry →
          last < number → (entry, number) ∈ after := by
        intro number entry found less
        have member := (listed (entry, number)).mpr found
        have sorted : (defs.locatedTypes.zipIdx.map Prod.snd).Pairwise (· < ·) := by
          rw [List.zipIdx_map_snd]
          exact List.pairwise_lt_range'
        rw [List.pairwise_map, ← List.pairwise_reverse, parts, List.pairwise_append,
          List.pairwise_cons] at sorted
        rw [parts, List.mem_append, List.mem_cons] at member
        rcases member with earlier | same | later
        · exact earlier
        · cases same
          exact absurd less (Nat.lt_irrefl _)
        · exact absurd (sorted.2.1.1 _ later) (Nat.not_lt.mpr (Nat.le_of_lt less))
      have lastSource : ∀ later different, last < later →
          defs.locatedTypes[later]? = some (around, different) → different.name = decl.name →
          ¬ hasSource different := by
        intro later different less found same source
        rcases rendered later different source with ⟨text, rendered⟩
        have missing := none _ (ordered later _ found less)
        rw [(writes later around different found _).mpr ⟨⟨rfl, same⟩, text, rendered, rfl⟩]
          at missing
        contradiction
      refine ⟨last, other, body, ?_, ⟨placed, named, ?_, lastSource⟩, renderedLast, rfl⟩
      · exact Nat.not_lt.mp fun less => lastSource index decl less located rfl source
      · rw [← isSome_renderType? scope analysis ⟨document, last⟩, renderedLast]
        rfl

end Java

open Machine

/-- After a run, the file of a type holds the source of the last declaration of its
qualified name that has one. -/
theorem source_of_lastDeclaration (model : LoadedModel) (read : model.document.IsRead)
    (options : GenerateOptions)
    (valid : options.rootPackage = "" ∨ Config.isPackageName options.rootPackage)
    (machine after : Machine) (sound : machine.Sound) (result : RunResult)
    (ran : run (runGeneration (pure false) .java model.linked options) machine =
      (.ok result, after))
    (index : Nat) (path : List String) (decl : TypeDecl)
    (located : model.linked.definitions.locatedTypes[index]? = some (path, decl))
    (source : Java.hasSource decl) :
    let scope := model.linked.scope
    let analysis := analyze scope 0 model.linked.definitions
    let root := if options.rootPackage = "" then [] else Text.segments '.' options.rootPackage
    let destination := (options.sourced model.linked.document.path).resolvedDestination
    ∃ last other body, index ≤ last ∧
      Java.IsLastSource model.linked.definitions path decl.name last other ∧
      Java.renderType? scope analysis ⟨0, last⟩ other = some body ∧
      after.tree.find? (Path.way machine.working destination ++
          Java.sourceNames (root ++ path) decl.name) =
        some (.file (Java.renderFile (root ++ path) body).toUTF8.toList) := by
  intro scope analysis root destination
  have same : Java.rootPath (options.sourced model.linked.document.path) = root := by
    rw [Java.rootPath, GenerateOptions.rootPackage_sourced]
    exact Java.rootPath_eq valid
  have segments : ∀ segment ∈ Java.rootPath (options.sourced model.linked.document.path),
      Java.IsSegment segment := by
    refine Java.isSegment_of_mem_rootPath ?_
    rwa [GenerateOptions.rootPackage_sourced]
  have segmented := LoadedModel.segmented_linked read
  have orderly : Orderly
      (model.linked.artifacts .java (options.sourced model.linked.document.path)) :=
    Java.orderly_generate segments segmented
  rcases laid_of_run_runGeneration sound orderly.plain ran with ⟨prepared, -, -, -, laid⟩
  rcases Java.exists_isLastSource segments segmented located source with
    ⟨last, other, body, later, isLast, rendered, content⟩
  rw [same] at content
  exact ⟨last, other, body, later, isLast, rendered, laid.file _ _ content⟩

/-- An entity that is declared twice and refers to itself. -/
def repeatedModel : LoadedModel where
  document := .ofSource "entity A \x7b x: A \x7d entity A \x7b y: A \x7d"

/-- Options that ask for the directory that is empty. -/
def emptyOptions : GenerateOptions where
  source := "m.ddef"
  destination := "out"

theorem exists_run_repeatedModel :
    ∃ result after,
      run (runGeneration (pure false) .java repeatedModel.linked emptyOptions) emptyOutput =
        (.ok result, after) ∧
      Laid ["out"] (repeatedModel.linked.artifacts .java emptyOptions) emptyOutput.tree
        after.tree := by
  have orderly : Orderly (repeatedModel.linked.artifacts .java emptyOptions) :=
    LoadedModel.orderly_artifacts (Document.isRead_ofSource _) (.inl rfl) (by decide) .java
  have way : Path.way emptyOutput.working emptyOptions.resolvedDestination = ["out"] := by decide
  have there : emptyOutput.tree.node emptyOutput.working emptyOptions.resolvedDestination =
      .ok .directory := rfl
  have empty : ∀ names, names ≠ [] → emptyOutput.tree.find?
      (Path.way emptyOutput.working emptyOptions.resolvedDestination ++ names) = none := by
    intro names proper
    rw [way]
    simp [FileTree.find?, emptyOutput, proper]
  have fits : ∀ artifact ∈ repeatedModel.linked.artifacts .java emptyOptions,
      FileTree.Fits (Path.under emptyOptions.resolvedDestination artifact.path) := by
    decide +kernel
  have sourced := emptyOptions.sourced_of_ne (by decide) repeatedModel.linked.document.path
  rw [← sourced] at orderly there empty fits
  rcases exists_run_runGeneration orderly sound_emptyOutput there empty fits with
    ⟨result, after, ran, -, laid⟩
  rw [sourced, way] at laid
  exact ⟨result, after, ran, laid⟩

theorem source_of_lastDeclaration_repeatedModel :
    ∃ result after last other body,
      run (runGeneration (pure false) .java repeatedModel.linked emptyOptions) emptyOutput =
        (.ok result, after) ∧
      Java.IsLastSource repeatedModel.linked.definitions [] "A" last other ∧
      after.tree.find? ["out", "A.java"] =
        some (.file (Java.renderFile [] body).toUTF8.toList) := by
  rcases exists_run_repeatedModel with ⟨result, after, ran, -⟩
  have declared : ∃ decl, repeatedModel.linked.definitions.locatedTypes[0]? = some ([], decl) ∧
      decl.name = "A" ∧ Java.hasSource decl := by
    have computed : (repeatedModel.linked.definitions.locatedTypes[0]?).any fun located =>
        located.1 = [] && located.2.name = "A" && Java.hasSource located.2 := by
      decide +kernel
    rw [Option.any_eq_true] at computed
    rcases computed with ⟨⟨path, decl⟩, located, computed⟩
    simp only [Bool.and_eq_true, decide_eq_true_eq] at computed
    exact ⟨decl, by rw [located, computed.1.1], computed.1.2, computed.2⟩
  rcases declared with ⟨decl, located, named, source⟩
  rcases source_of_lastDeclaration repeatedModel (Document.isRead_ofSource _) emptyOptions
    (.inl rfl) emptyOutput after sound_emptyOutput result ran 0 [] decl located source with
    ⟨last, other, body, -, isLast, -, file⟩
  rw [named] at isLast file
  exact ⟨result, after, last, other, body, ran, isLast, file⟩

/-- The type that a reference means need not be the one that is written: here the first
declaration is the target of a reference, but the file holds something else. -/
theorem source_ne_firstDeclaration_repeatedModel :
    ∃ result after decl body,
      run (runGeneration (pure false) .java repeatedModel.linked emptyOptions) emptyOutput =
        (.ok result, after) ∧
      (∃ located ∈ repeatedModel.linked.document.locatedRefs,
        located.2.2.target = some ⟨0, 0⟩) ∧
      repeatedModel.linked.definitions.locatedTypes[0]? = some ([], decl) ∧ decl.name = "A" ∧
      Java.renderType? repeatedModel.linked.scope (analyze repeatedModel.linked.scope 0
        repeatedModel.linked.definitions) ⟨0, 0⟩ decl = some body ∧
      after.tree.find? ["out", "A.java"] ≠
        some (.file (Java.renderFile [] body).toUTF8.toList) := by
  rcases exists_run_repeatedModel with ⟨result, after, ran, laid⟩
  have target : ∃ located ∈ repeatedModel.linked.document.locatedRefs,
      located.2.2.target = some ⟨0, 0⟩ := by
    decide +kernel
  have computed : (repeatedModel.linked.definitions.locatedTypes[0]?).any fun located =>
      located.1 = [] && located.2.name = "A" &&
        (Java.renderType? repeatedModel.linked.scope (analyze repeatedModel.linked.scope 0
          repeatedModel.linked.definitions) ⟨0, 0⟩ located.2).any fun body =>
            (contentAt? (repeatedModel.linked.artifacts .java emptyOptions) ["A.java"]).any
              fun content => content.toUTF8.toList ≠ (Java.renderFile [] body).toUTF8.toList := by
    decide +kernel
  simp only [Option.any_eq_true, Bool.and_eq_true, decide_eq_true_eq] at computed
  rcases computed with ⟨⟨path, decl⟩, located, ⟨rfl, named⟩, body, rendered, content, written,
    apart⟩
  refine ⟨result, after, decl, body, ran, target, located, named, rendered, ?_⟩
  have file : after.tree.find? ["out", "A.java"] = _ := laid.file ["A.java"] content written
  rw [file]
  simpa using apart

end DomainGen
