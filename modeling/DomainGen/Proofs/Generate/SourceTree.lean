import DomainGen.Proofs.Generate.Conversion
import DomainGen.Proofs.Generate.SourceFiles
import DomainGen.Proofs.Link.Findings
import Mathlib.Data.List.Nodup

/-!
# Java output is a source tree

A model that was read from a source text, linked with others, gives one file for
each of its types that have a source, in the directory of the type's package, with
the package line in front.  If no qualified name is declared twice, no two files
have the same path, and writing the output into an empty directory leaves these
files there with these contents, and no others (`sourceTree_of_link`).
-/

namespace DomainGen

/-! ## Models that were read and linked -/

namespace Java

theorem Segmented.mapRefs {visits : List Visit} (segmented : Segmented visits)
    (change : List String → RefUse → Ref → Ref) :
    Segmented (visits.map (·.mapRefs change)) := by
  have inner : ∀ visit : Visit, (visit.mapRefs change).inner = visit.inner := by
    rintro ⟨path, element⟩
    cases element with
    | package name pos elements => rw [Visit.mapRefs, Element.mapRefs]; rfl
    | type decl => rw [Visit.mapRefs, Element.mapRefs]; rfl
    | foreign name => rw [Visit.mapRefs, Element.mapRefs]
  have isPackage : ∀ visit : Visit, (visit.mapRefs change).isPackage = visit.isPackage := by
    rintro ⟨path, element⟩
    cases element with
    | package name pos elements => rw [Visit.mapRefs, Element.mapRefs]; rfl
    | type decl => rw [Visit.mapRefs, Element.mapRefs]; rfl
    | foreign name => rw [Visit.mapRefs, Element.mapRefs]
  constructor
  · intro changed member
    rcases List.mem_map.mp member with ⟨visit, visited, rfl⟩
    rw [inner]
    exact segmented.inner visit visited
  · intro changed member
    rcases List.mem_map.mp member with ⟨visit, visited, rfl⟩
    rw [inner, isPackage]
    exact segmented.opens visit visited
  · intro changed member decl declared
    rcases List.mem_map.mp member with ⟨visit, visited, rfl⟩
    rw [Visit.mapRefs, Element.decl?_mapRefs, Option.map_eq_some_iff] at declared
    rcases declared with ⟨before, declared, rfl⟩
    rw [TypeDecl.name_mapRefs]
    exact segmented.name visit visited before declared

theorem segmented_of_isRead {doc : Document} (read : doc.IsRead) {defs : Definitions}
    (found : doc.definitions = some defs) : Segmented defs.visits := by
  rcases read defs found with ⟨source, parsed, succeeded, same⟩
  have visits : defs.visits = parsed.visits := by
    simp only [Definitions.visits, same]
  rw [visits]
  constructor
  · intro visit visited segment member
    exact isSegment_of_isName ((Ddef.namedVisit_of_parse succeeded visited).inner segment member)
  · intro visit visited
    exact (Ddef.namedVisit_of_parse succeeded visited).opens
  · intro visit visited decl declared
    refine isSegment_of_isName ((Ddef.wellNamed succeeded).name visit.path decl ?_)
    simp only [Definitions.locatedTypes, List.mem_filterMap]
    exact ⟨visit, visited, by simp [declared]⟩

end Java

/-- The model of the document at a position of a workspace. -/
def definitionsAt (docs : List Document) (position : Nat) : Definitions :=
  ((docs[position]?).bind (·.definitions)).getD {}

/-- The relations of the model of the document at a position of a workspace. -/
def analysisAt (docs : List Document) (position : Nat) : Analysis :=
  analyze (Scope.ofDocuments docs) position (definitionsAt docs position)

theorem artifactsAt_java (options : GenerateOptions) (docs : List Document) (position : Nat) :
    artifactsAt .java options docs position =
      Java.generate (Scope.ofDocuments docs) position (analysisAt docs position)
        (definitionsAt docs position) options := rfl

theorem Scope.type?_definitionsAt (docs : List Document) (id : TypeId) :
    (ofDocuments docs).type? id = (definitionsAt docs id.document).types[id.index]? := by
  have none : ({} : Definitions).types[id.index]? = none := rfl
  simp only [type?, ofDocuments, definitionsAt, List.getElem?_toArray, List.getElem?_map]
  cases docs[id.document]? with
  | none => exact none.symm
  | some doc =>
      simp only [Option.map_some, Option.bind_some, List.getElem?_toArray, Document.types]
      cases doc.definitions with
      | none => exact none.symm
      | some defs => rfl

/-- A type of a model has a position in the scope. -/
theorem Scope.exists_type?_of_mem {docs : List Document} {position : Nat} {decl : TypeDecl}
    (member : decl ∈ (definitionsAt docs position).types) :
    ∃ index, (ofDocuments docs).type? ⟨position, index⟩ = some decl := by
  obtain ⟨index, found⟩ := List.mem_iff_getElem?.mp member
  exact ⟨index, (type?_definitionsAt docs ⟨position, index⟩).trans found⟩

/-- The datatypes of a model are marked as in its document. -/
theorem primitive_of_mem_types {docs : List Document} (tagged : ∀ doc ∈ docs, doc.IsTagged)
    {position : Nat} {type : DataType}
    (member : .dataType type ∈ (definitionsAt docs position).types) :
    type.primitive = Primitive.classify type.name := by
  obtain ⟨⟨path, _⟩, located, rfl⟩ := List.mem_map.mp member
  unfold definitionsAt at located
  cases found : docs[position]? with
  | none => simp [found, Definitions.locatedTypes, Definitions.visits, visitsIn] at located
  | some doc =>
      cases model : doc.definitions with
      | none =>
          simp [found, model, Definitions.locatedTypes, Definitions.visits, visitsIn] at located
      | some defs =>
          rw [found, Option.bind_some, model, Option.getD_some] at located
          refine tagged doc (List.mem_of_getElem? found) path type ?_
          rw [Document.locatedTypes, model]
          exact located

theorem definitionsAt_link {group : List Nat} (docs : List Document) (distinct : group.Nodup)
    (position : Nat) :
    definitionsAt (link group docs) position =
      if position ∈ group then
        (definitionsAt docs position).mapRefs (declareGroup group docs).1.resolve
      else definitionsAt docs position := by
  have byDefinitions : ∀ docs : List Document,
      definitionsAt docs position = (docs[position]?.map (·.definitions)).join.getD {} := by
    intro docs
    rw [definitionsAt]
    cases docs[position]? with
    | none => rfl
    | some doc => rfl
  rw [byDefinitions, definitions_link group docs distinct, byDefinitions]
  by_cases listed : position ∈ group
  · cases docs[position]? with
    | none => simp [listed]; rfl
    | some doc =>
        cases model : doc.definitions with
        | none => simp [listed, model]; rfl
        | some defs => simp [listed, model]
  · cases docs[position]? with
    | none => simp [listed]
    | some doc => simp [listed]

theorem segmented_link {group : List Nat} {docs : List Document} (distinct : group.Nodup)
    {position : Nat} (read : ∀ doc, docs[position]? = some doc → doc.IsRead) :
    Java.Segmented (definitionsAt (link group docs) position).visits := by
  have before : Java.Segmented (definitionsAt docs position).visits := by
    have empty : Java.Segmented ({} : Definitions).visits := ⟨nofun, nofun, nofun⟩
    rw [definitionsAt]
    cases found : docs[position]? with
    | none => exact empty
    | some doc =>
        cases model : doc.definitions with
        | none =>
            rw [Option.bind_some, model]
            exact empty
        | some defs =>
            rw [Option.bind_some, model]
            exact Java.segmented_of_isRead (read doc found) model
  rw [definitionsAt_link docs distinct]
  split
  · rw [Definitions.visits, Definitions.mapRefs, visitsIn_mapRefsIn]
    exact before.mapRefs _
  · exact before

/-! ## Source trees -/

namespace Java

/-- The source file of a located type: its path below the root package, and how its
contents start. -/
def IsSourceOf (root : List String) (located : List String × TypeDecl)
    (file : String × String) : Prop :=
  file.1 = Text.join "/" (root ++ located.1 ++ [located.2.name ++ ".java"]) ∧
    ∃ body, file.2 = "package " ++ Text.join "." (root ++ located.1) ++ ";" ++ body

/-- Output that is a source tree for some types. -/
structure IsSourceTree (root : List String) (types : List (List String × TypeDecl))
    (artifacts : List Artifact) : Prop where
  /-- There is one file for each type, in order. -/
  files : List.Forall₂ (IsSourceOf root) types (artifacts.filterMap Artifact.file?)
  /-- The directory of a type's package comes before its file. -/
  directories : ∀ path decl, (path, decl) ∈ types → root ++ path ≠ [] →
    ∀ front content back,
      artifacts = front ++
        .file (Text.join "/" (root ++ path ++ [decl.name ++ ".java"])) content :: back →
      .directory (Text.join "/" (root ++ path)) ∈ front
  /-- No two files have the same path. -/
  distinct : ((artifacts.filterMap Artifact.file?).map Prod.fst).Nodup
  /-- No file is a directory, or stands on the way to one. -/
  apart : ∀ file content directory, .file file content ∈ artifacts →
    .directory directory ∈ artifacts →
    ¬ Text.segments '/' file <+: Text.segments '/' directory

/-- If the source file of each type is related to the type, then the source files are
related to the types that have one, in order. -/
theorem forall₂_sourceFile? {scope : Scope} {analysis : Analysis} {document : Nat}
    {root : List String} {related : List String × TypeDecl → String × String → Prop}
    (each : ∀ located index file,
      sourceFile? scope analysis document root (located, index) = some file →
        related located file)
    (index : Nat) (located : List (List String × TypeDecl)) :
    List.Forall₂ related (located.filter (hasSource ·.2))
      ((located.zipIdx index).filterMap (sourceFile? scope analysis document root)) := by
  induction located generalizing index with
  | nil => exact .nil
  | cons first located ih =>
      have some : (sourceFile? scope analysis document root (first, index)).isSome =
          hasSource first.2 := by
        rw [sourceFile?, Option.isSome_map, isSome_renderType?]
      rw [List.zipIdx_cons, List.filterMap_cons]
      cases found : sourceFile? scope analysis document root (first, index) with
      | none =>
          rw [found] at some
          rw [List.filter_cons_of_neg (by simp [← some])]
          exact ih (index + 1)
      | some file =>
          rw [found] at some
          rw [List.filter_cons_of_pos (by simp [← some])]
          exact .cons (each first index file found) (ih (index + 1))

theorem isSourceOf_of_sourceFile? {scope : Scope} {analysis : Analysis} {document : Nat}
    {root : List String} (located : List String × TypeDecl) (index : Nat)
    (file : String × String)
    (found : sourceFile? scope analysis document root (located, index) = some file) :
    IsSourceOf root located file := by
  rw [sourceFile?, Option.map_eq_some_iff] at found
  obtain ⟨body, -, rfl⟩ := found
  refine ⟨rfl, "\n\n" ++ body, ?_⟩
  have semicolon : ";\n\n" = ";" ++ "\n\n" := by decide
  simp only [renderFile, semicolon, String.append_assoc]

theorem files_generate (scope : Scope) (document : Nat) (analysis : Analysis)
    (defs : Definitions) (options : GenerateOptions) :
    (generate scope document analysis defs options).filterMap Artifact.file? =
      defs.locatedTypes.zipIdx.filterMap
        (sourceFile? scope analysis document (rootPath options)) := by
  have directory : (if (rootPath options).isEmpty then [] else
      [Artifact.directory (root options)]).filterMap Artifact.file? = [] := by
    split
    · rfl
    · rfl
  rw [generate, List.filterMap_append, directory, List.nil_append, files_artifactsFrom]
  rfl

/-- The output has the file of every type that has a source. -/
theorem file_mem_artifactsAt {options : GenerateOptions} {docs : List Document}
    {position index : Nat} {path : List String} {decl : TypeDecl} {content : String}
    (located : (definitionsAt docs position).locatedTypes[index]? = some (path, decl))
    (rendered : renderType? (Scope.ofDocuments docs) (analysisAt docs position) ⟨position, index⟩
      decl = some content) :
    .file (Text.join "/" (sourceNames (rootPath options ++ path) decl.name))
      (renderFile (rootPath options ++ path) content) ∈
        artifactsAt .java options docs position := by
  have listed : (Text.join "/" (sourceNames (rootPath options ++ path) decl.name),
      renderFile (rootPath options ++ path) content) ∈
        (artifactsAt .java options docs position).filterMap Artifact.file? := by
    rw [artifactsAt_java, files_generate, List.mem_filterMap]
    refine ⟨((path, decl), index), List.mem_zipIdx_iff_getElem?.mpr located, ?_⟩
    rw [sourceFile?, rendered, Option.map_some]
  obtain ⟨artifact, member, file⟩ := List.mem_filterMap.mp listed
  cases artifact with
  | directory path => cases file
  | file path content =>
      cases file
      exact member

theorem exists_visit_of_mem_locatedTypes {defs : Definitions} {path : List String}
    {decl : TypeDecl} (member : (path, decl) ∈ defs.locatedTypes) :
    ∃ visit ∈ defs.visits, visit.element = .type decl ∧ visit.path = path := by
  simp only [Definitions.locatedTypes, List.mem_filterMap, Option.map_eq_some_iff,
    Prod.mk.injEq] at member
  rcases member with ⟨visit, visited, _, declared, rfl, rfl⟩
  refine ⟨visit, visited, ?_, rfl⟩
  cases element : visit.element with
  | package name pos elements =>
      rw [element] at declared
      contradiction
  | foreign name =>
      rw [element] at declared
      contradiction
  | type decl =>
      rw [element] at declared
      cases declared
      rfl

section Generate

variable {scope : Scope} {document : Nat} {analysis : Analysis} {defs : Definitions}
  {options : GenerateOptions} (root : ∀ segment ∈ rootPath options, IsSegment segment)
  (segmented : Segmented defs.visits)
include root segmented

/-- The path of a source file determines the type it is for. -/
theorem eq_of_sourcePath_eq {path other : List String} {decl different : TypeDecl}
    (one : (path, decl) ∈ defs.locatedTypes) (two : (other, different) ∈ defs.locatedTypes)
    (same : Text.join "/" (sourceNames (rootPath options ++ path) decl.name) =
      Text.join "/" (sourceNames (rootPath options ++ other) different.name)) :
    path = other ∧ decl.name = different.name := by
  rcases exists_visit_of_mem_locatedTypes one with ⟨visit, visited, element, rfl⟩
  rcases exists_visit_of_mem_locatedTypes two with ⟨second, found, declared, rfl⟩
  have same := congrArg (Text.segments '/') same
  rw [(segments_sourceNames root segmented visited element).2,
    (segments_sourceNames root segmented found declared).2] at same
  rcases List.append_inj' same rfl with ⟨packages, files⟩
  refine ⟨List.append_cancel_left packages, ?_⟩
  have files := congrArg String.toList (List.singleton_inj.mp files)
  rw [String.toList_append, String.toList_append] at files
  exact String.toList_injective (List.append_cancel_right files)

/-- The output for a model that declares every qualified name once is a source tree. -/
theorem isSourceTree_generate (once : (defs.locatedTypes.map locatedKey).Nodup) :
    IsSourceTree (rootPath options) (defs.locatedTypes.filter (hasSource ·.2))
      (generate scope document analysis defs options) := by
  have files : List.Forall₂ (IsSourceOf (rootPath options))
      (defs.locatedTypes.filter (hasSource ·.2))
      ((generate scope document analysis defs options).filterMap Artifact.file?) := by
    rw [files_generate]
    exact forall₂_sourceFile? isSourceOf_of_sourceFile? 0 defs.locatedTypes
  constructor
  · exact files
  · intro path decl member some front content back parts
    rcases directory_before_file parts with ⟨visit, visited, other, element, same, before⟩
    have located : (visit.path, other) ∈ defs.locatedTypes := by
      simp only [Definitions.locatedTypes, List.mem_filterMap]
      exact ⟨visit, visited, by rw [element]; rfl⟩
    rcases eq_of_sourcePath_eq root segmented (List.mem_filter.mp member).1 located same with
      ⟨rfl, -⟩
    exact before.resolve_left some
  · have paths : ((generate scope document analysis defs options).filterMap
        Artifact.file?).map Prod.fst = (defs.locatedTypes.filter (hasSource ·.2)).map
          fun located => Text.join "/" (sourceNames (rootPath options ++ located.1)
            located.2.name) := by
      rw [← List.forall₂_eq_eq_eq, List.forall₂_map_left_iff, List.forall₂_map_right_iff]
      exact (files.imp fun _ _ source => source.1).flip
    rw [paths, List.Nodup, List.pairwise_map]
    rw [List.Nodup, List.pairwise_map] at once
    refine (once.filter _).imp_of_mem ?_
    intro one two oneMember twoMember apart same
    rcases eq_of_sourcePath_eq root segmented (List.mem_filter.mp oneMember).1
      (List.mem_filter.mp twoMember).1 same with ⟨packages, names⟩
    exact apart (by rw [locatedKey, locatedKey, packages, names])
  · intro file content directory
    exact not_prefix_directory root segmented

end Generate

end Java

/-! ## Writing a source tree -/

/-- If no two files have the same path, every file that is written stays as it was
written. -/
theorem contentAt?_eq_some_iff {artifacts : List Artifact}
    (distinct : ((artifacts.filterMap Artifact.file?).map Prod.fst).Nodup) (names : List String)
    (content : String) :
    contentAt? artifacts names = some content ↔
      ∃ path, .file path content ∈ artifacts ∧ Text.segments '/' path = names := by
  constructor
  · exact exists_of_contentAt?
  · rintro ⟨path, member, rfl⟩
    have listed : ∀ text, .file path text ∈ artifacts →
        (path, text) ∈ artifacts.filterMap Artifact.file? :=
      fun text member => List.mem_filterMap.mpr ⟨_, member, rfl⟩
    rcases exists_contentAt?_of_mem member with ⟨text, found⟩
    rcases exists_of_contentAt? found with ⟨other, written, same⟩
    have same : other = path := by
      rw [← Path.join_segments_slash other, same, Path.join_segments_slash]
    subst same
    have same := List.inj_on_of_nodup_map distinct (listed _ member) (listed _ written) rfl
    rw [found, (Prod.mk.inj same).2]

open Machine in
/-- The Java output for a model that was read from a source text and linked, without a
report of a name that is taken, is a source tree.  Writing it into an empty directory
leaves exactly its files with exactly their contents. -/
theorem sourceTree_of_link (group : List Nat) (docs : List Document) (distinct : group.Nodup)
    (position : Nat) (listed : position ∈ group) (doc linked : Document)
    (found : docs[position]? = some doc) (read : doc.IsRead)
    (placed : (link group docs)[position]? = some linked)
    (unreported : ∀ reported ∈ linked.diagnostics,
      ¬ Text.startsWith "Duplicate type name" reported.message)
    (options : GenerateOptions)
    (valid : options.rootPackage = "" ∨ Config.isPackageName options.rootPackage) :
    let root := if options.rootPackage = "" then [] else Text.segments '.' options.rootPackage
    let artifacts := artifactsAt .java options (link group docs) position
    Java.IsSourceTree root (linked.locatedTypes.filter (Java.hasSource ·.2)) artifacts ∧
      ∀ (machine prepared : Machine) (destination : String), machine.Sound →
        run (Disk.makeDirectories destination.toList) machine = (.ok (), prepared) →
        let base := Path.way machine.working destination
        (∀ names, names ≠ [] → prepared.tree.find? (base ++ names) = none) →
        (∀ artifact ∈ artifacts, FileTree.Fits (Path.under destination artifact.path)) →
        ∃ after, run (writeArtifacts (pure false) destination artifacts) machine = (.ok (), after) ∧
          (∀ names, ¬ base <+: names → after.tree.find? names = prepared.tree.find? names) ∧
          ∀ names bytes, after.tree.find? (base ++ names) = some (.file bytes) ↔
            ∃ path content, .file path content ∈ artifacts ∧
              Text.segments '/' path = names ∧ content.toUTF8.toList = bytes := by
  intro root artifacts
  have rootSegments := Java.isSegment_of_mem_rootPath valid
  have segmented : Java.Segmented (definitionsAt (link group docs) position).visits := by
    refine segmented_link distinct ?_
    intro other same
    rwa [Option.some.inj (same.symm.trans found)]
  have types : linked.locatedTypes = (definitionsAt (link group docs) position).locatedTypes := by
    rw [definitionsAt, placed, Option.bind_some, Document.locatedTypes]
    cases linked.definitions with
    | none => rfl
    | some defs => rfl
  have once : (linked.locatedTypes.map locatedKey).Nodup := by
    rcases exists_linked distinct listed found with ⟨other, same, resolved⟩
    cases placed.symm.trans same
    have keys : linked.locatedTypes.map locatedKey = doc.locatedTypes.map locatedKey := by
      simp [resolved, locatedKey]
    rw [keys]
    refine nodup_keys_of_unreported distinct listed found ?_
    rwa [diagnosticsAt, placed]
  have tree : Java.IsSourceTree root (linked.locatedTypes.filter (Java.hasSource ·.2))
      artifacts := by
    have same : Java.rootPath options = root := Java.rootPath_eq valid
    rw [← same, types]
    exact Java.isSourceTree_generate rootSegments segmented (types ▸ once)
  refine ⟨tree, ?_⟩
  intro machine prepared destination sound created base empty fits
  have orderly : Orderly artifacts := Java.orderly_generate rootSegments segmented
  rcases exists_run_writeArtifacts orderly sound created empty fits with ⟨after, ran, -, laid⟩
  refine ⟨after, ran, laid.outside, ?_⟩
  intro names bytes
  rw [laid.find?_eq_file_iff]
  simp only [contentAt?_eq_some_iff tree.distinct]
  constructor
  · rintro (⟨content, ⟨path, member, named⟩, same⟩ | ⟨-, file⟩)
    · exact ⟨path, content, member, named, same⟩
    · -- Only the directory itself was there before.
      by_cases top : names = []
      · have ready := sound.prepared created
        rw [top, List.append_nil, ← ready.leaves.working, ready.there] at file
        cases file
      · rw [empty names top] at file
        cases file
  · rintro ⟨path, content, member, named, same⟩
    exact .inl ⟨content, ⟨path, member, named⟩, same⟩

/-- A document with the model that a source text holds, if it can be read. -/
def Document.ofSource (source : String) : Document :=
  { definitions := (Ddef.parse source.toList).toOption }

theorem Document.isRead_ofSource (source : String) : (ofSource source).IsRead := by
  intro defs parsed
  refine ⟨source.toList, defs, ?_, rfl⟩
  rw [ofSource] at parsed
  cases result : Ddef.parse source.toList with
  | error error => simp [result, Except.toOption] at parsed
  | ok read =>
      rw [result] at parsed
      rw [Option.some.inj parsed]

theorem Document.isRead_of_mem_map_ofSource {sources : List String} {doc : Document}
    (member : doc ∈ sources.map ofSource) : doc.IsRead := by
  obtain ⟨source, -, rfl⟩ := List.mem_map.mp member
  exact isRead_ofSource source

/-- Types at several depths of nested and dotted packages. -/
def nestedDocs : List Document :=
  [.ofSource ("package a.b \x7b entity A \x7b \x7d package c \x7b enum B \x7b \x7d \x7d \x7d " ++
      "datatype C"),
    .ofSource "entity A \x7b \x7d"]

/-- A machine with an empty directory. -/
def emptyOutput : Machine := { tree := ⟨[(["out"], .directory)]⟩ }

theorem sound_emptyOutput : emptyOutput.Sound := by decide +kernel

open Machine in
theorem sourceTree_of_link_nestedDocs :
    ∃ linked after, (link [0, 1] nestedDocs)[0]? = some linked ∧
      (linked.locatedTypes.filter (Java.hasSource ·.2)).length = 3 ∧
      let artifacts := artifactsAt .java { rootPackage := "r" } (link [0, 1] nestedDocs) 0
      Java.IsSourceTree ["r"] (linked.locatedTypes.filter (Java.hasSource ·.2)) artifacts ∧
      run (writeArtifacts (pure false) "out" artifacts) emptyOutput = (.ok (), after) ∧
      ∃ bytes, after.tree.find? ["out", "r", "a", "b", "c", "B.java"] = some (.file bytes) := by
  have computed : ((link [0, 1] nestedDocs)[0]?).any fun linked =>
      (linked.locatedTypes.filter (Java.hasSource ·.2)).length = 3 &&
        linked.diagnostics.all (! Text.startsWith "Duplicate type name" ·.message) := by
    decide +kernel
  rw [Option.any_eq_true] at computed
  rcases computed with ⟨linked, placed, computed⟩
  rw [Bool.and_eq_true, decide_eq_true_eq, List.all_eq_true] at computed
  rcases sourceTree_of_link [0, 1] nestedDocs (by decide) 0 (by decide) _ linked rfl
    (Document.isRead_ofSource _) placed
    (fun reported member => by simpa using computed.2 reported member)
    { rootPackage := "r" } (.inr (by decide +kernel)) with ⟨tree, write⟩
  have created : run (Disk.makeDirectories "out".toList) emptyOutput = (.ok (), emptyOutput) := by
    rw [run_makeDirectories]
    rfl
  have way : Path.way emptyOutput.working "out" = ["out"] := by decide
  have empty : ∀ names, names ≠ [] →
      emptyOutput.tree.find? (Path.way emptyOutput.working "out" ++ names) = none := by
    intro names proper
    rw [way]
    simp [FileTree.find?, emptyOutput, proper]
  rcases write emptyOutput emptyOutput "out" sound_emptyOutput created empty
    (by decide +kernel) with ⟨after, ran, -, files⟩
  obtain ⟨content, member⟩ : ∃ content, .file "r/a/b/c/B.java" content ∈
      artifactsAt .java { rootPackage := "r" } (link [0, 1] nestedDocs) 0 := by
    have listed : (artifactsAt .java { rootPackage := "r" } (link [0, 1] nestedDocs) 0).any
        fun artifact => artifact.filePath? = some "r/a/b/c/B.java" := by
      decide +kernel
    rcases List.any_eq_true.mp listed with ⟨artifact, member, named⟩
    cases artifact with
    | directory path => simp [Artifact.filePath?] at named
    | file path content =>
        simp only [Artifact.filePath?, Option.some.injEq, decide_eq_true_eq] at named
        exact ⟨content, named ▸ member⟩
  refine ⟨linked, after, placed, computed.1, tree, ran, content.toUTF8.toList, ?_⟩
  rw [way] at files
  exact (files ["r", "a", "b", "c", "B.java"] _).mpr ⟨_, content, member, by decide, rfl⟩

end DomainGen
