import DomainGen.Config.Basic
import DomainGen.Proofs.Ddef.Names
import DomainGen.Proofs.Generate.Writing
import DomainGen.Proofs.Link.Scoping

/-!
# The files and directories of Java output

The source files are those of the types that have one, in visiting order
(`files_artifactsFrom`), and the directories are those of the packages.  A package
is visited before its types, so the directory of a file comes before the file.  As
names have no dots and file names do, no file stands on the way to a directory.
Java output can therefore be written piece by piece (`orderly_generate`).
-/

namespace DomainGen

/-- The path and the contents of a file. -/
def Artifact.file? : Artifact → Option (String × String)
  | .directory _ => none
  | .file path content => some (path, content)

namespace Java

/-! ## Source files -/

/-- Whether a type has a source file: an entity, an enum or a datatype that is not
built in. -/
def hasSource : TypeDecl → Bool
  | .dataType type => !type.isBuiltin
  | .entity _ => true
  | .enum _ => true
  | .foreign _ => false

/-- The names from the destination to the source file of a type. -/
def sourceNames (package : List String) (name : String) : List String :=
  package ++ [name ++ ".java"]

/-- The source file of a located type at a position, by path and contents. -/
def sourceFile? (scope : Scope) (analysis : Analysis) (document : Nat) (root : List String)
    (located : (List String × TypeDecl) × Nat) : Option (String × String) :=
  let package := root ++ located.1.1
  (renderType? scope analysis ⟨document, located.2⟩ located.1.2).map fun body =>
    (Text.join "/" (sourceNames package located.1.2.name), renderFile package body)

theorem isSome_renderType? (scope : Scope) (analysis : Analysis) (id : TypeId) (decl : TypeDecl) :
    (renderType? scope analysis id decl).isSome = hasSource decl := by
  cases decl with
  | dataType type => cases builtin : type.isBuiltin <;> simp [renderType?, hasSource, builtin]
  | entity type => rfl
  | enum type => rfl
  | foreign name => rfl

section Visits

variable (scope : Scope) (document : Nat) (analysis : Analysis) (root : List String)

/-- The files are the source files of the types in visiting order. -/
theorem files_artifactsFrom (index : Nat) (visits : List Visit) :
    (artifactsFrom scope document analysis root index visits).filterMap Artifact.file? =
      ((visits.filterMap fun visit => visit.element.decl?.map (visit.path, ·)).zipIdx
        index).filterMap (sourceFile? scope analysis document root) := by
  induction visits generalizing index with
  | nil => rfl
  | cons visit visits ih =>
      rw [artifactsFrom, List.filterMap_append, ih]
      rcases visit with ⟨path, element⟩
      cases element with
      | package name pos elements => simp [artifactOf?, Artifact.file?, Element.decl?]
      | foreign name => simp [artifactOf?, Element.decl?]
      | type decl =>
          simp only [artifactOf?, Element.decl?, Option.isSome_some, if_true, Option.map_some,
            List.zipIdx_cons, List.filterMap_cons, sourceFile?]
          cases renderType? scope analysis ⟨document, index⟩ decl with
          | none => rfl
          | some body => rfl

/-- The directories are those of the packages. -/
theorem directory_mem_artifactsFrom {index : Nat} {visits : List Visit} {path : String} :
    .directory path ∈ artifactsFrom scope document analysis root index visits ↔
      ∃ visit ∈ visits, visit.isPackage ∧ path = Text.join "/" (root ++ visit.inner) := by
  induction visits generalizing index with
  | nil => simp [artifactsFrom]
  | cons visit visits ih =>
      rw [artifactsFrom, List.mem_append, ih, List.exists_mem_cons_iff]
      refine or_congr_left ?_
      rcases visit with ⟨around, element⟩
      cases element with
      | package name pos elements =>
          simp [artifactOf?, Visit.isPackage, Visit.inner, packagePath_append]
      | foreign name => simp [artifactOf?, Visit.isPackage]
      | type decl =>
          simp only [artifactOf?, Visit.isPackage]
          cases renderType? scope analysis ⟨document, index⟩ decl with
          | none => simp
          | some body => simp

/-- The pieces before a piece are those of the visits before its visit. -/
theorem exists_visit_of_artifactsFrom {index : Nat} {visits : List Visit}
    {front back : List Artifact} {artifact : Artifact}
    (parts : artifactsFrom scope document analysis root index visits =
      front ++ artifact :: back) :
    ∃ before visit after place, visits = before ++ visit :: after ∧
      front = artifactsFrom scope document analysis root index before ∧
      artifactOf? scope document analysis root visit place = some artifact := by
  induction visits generalizing index front with
  | nil => simp [artifactsFrom] at parts
  | cons visit visits ih =>
      rw [artifactsFrom] at parts
      cases found : artifactOf? scope document analysis root visit index with
      | none =>
          rw [found, Option.toList_none, List.nil_append] at parts
          rcases ih parts with ⟨before, other, after, place, rfl, rfl, output⟩
          exact ⟨visit :: before, other, after, place, rfl, by simp [artifactsFrom, found], output⟩
      | some first =>
          rw [found, Option.toList_some, List.singleton_append] at parts
          cases front with
          | nil =>
              rw [List.nil_append, List.cons.injEq] at parts
              exact ⟨[], visit, visits, index, rfl, rfl, parts.1 ▸ found⟩
          | cons same front =>
              rw [List.cons_append, List.cons.injEq] at parts
              rcases ih parts.2 with ⟨before, other, after, place, rfl, rfl, output⟩
              exact ⟨visit :: before, other, after, place, rfl,
                by simp [artifactsFrom, found, parts.1], output⟩

end Visits

/-! ## Names -/

/-- A part of a package path: a text without slashes and dots that is not empty. -/
structure IsSegment (text : String) : Prop where
  ne_empty : text ≠ ""
  slashFree : '/' ∉ text.toList
  dotFree : Text.DotFree text

namespace IsSegment

variable {text : String} (segment : IsSegment text)
include segment

theorem plain : Path.IsPlain text := by
  refine ⟨segment.ne_empty, ?_, ?_, segment.slashFree⟩
  · rintro rfl
    exact segment.dotFree (by decide)
  · rintro rfl
    exact segment.dotFree (by decide)

/-- The file that is named for a segment. -/
theorem plain_file : Path.IsPlain (text ++ ".java") := by
  have long : ∀ other : String, other.length < 5 → text ++ ".java" ≠ other := by
    rintro other short rfl
    rw [String.length_append] at short
    have : ".java".length = 5 := rfl
    omega
  refine ⟨long "" (by decide), long "." (by decide), long ".." (by decide), ?_⟩
  rw [String.toList_append, List.mem_append, not_or]
  exact ⟨segment.slashFree, by decide⟩

end IsSegment

theorem isSegment_of_isName {text : String} (name : Ddef.IsName text) : IsSegment text := by
  refine ⟨name.ne_empty, ?_, name.dotFree⟩
  rcases name with ⟨first, rest, spelled, starts, continues⟩
  intro member
  have part : Ddef.isNamePart '/' := by
    rw [spelled, List.mem_cons] at member
    rcases member with rfl | member
    · simp [Ddef.isNamePart, starts]
    · exact List.all_eq_true.mp continues _ member
  exact absurd part (by decide)

theorem isSegment_of_isIdentifier {text : String} (identifier : Config.isIdentifier text) :
    IsSegment text := by
  unfold Config.isIdentifier at identifier
  split at identifier
  · contradiction
  next first rest spelled =>
  rw [Bool.and_eq_true] at identifier
  have character : ∀ c ∈ text.toList,
      Config.isIdentifierChar true c ∨ Config.isIdentifierChar false c := by
    intro c member
    rw [spelled, List.mem_cons] at member
    rcases member with rfl | member
    · exact .inl identifier.1
    · exact .inr (List.all_eq_true.mp identifier.2 c member)
  refine ⟨?_, ?_, ?_⟩
  · rintro rfl
    simp at spelled
  · intro member
    exact absurd (character '/' member) (by decide +kernel)
  · intro member
    exact absurd (character '.' member) (by decide +kernel)

/-- The path of the root package is the list of its segments. -/
theorem rootPath_eq {options : GenerateOptions}
    (valid : options.rootPackage = "" ∨ Config.isPackageName options.rootPackage) :
    rootPath options =
      if options.rootPackage = "" then [] else Text.segments '.' options.rootPackage := by
  unfold rootPath packagePath
  rw [List.nil_append]
  split
  · next empty => rw [empty]; rfl
  · next some =>
    rw [List.filter_eq_self]
    intro segment member
    have identifier := List.all_eq_true.mp (valid.resolve_left some) segment member
    simpa using (isSegment_of_isIdentifier identifier).ne_empty

theorem isSegment_of_mem_rootPath {options : GenerateOptions}
    (valid : options.rootPackage = "" ∨ Config.isPackageName options.rootPackage) :
    ∀ segment ∈ rootPath options, IsSegment segment := by
  rw [rootPath_eq valid]
  intro segment member
  split at member
  · contradiction
  · next some =>
    exact isSegment_of_isIdentifier (List.all_eq_true.mp (valid.resolve_left some) segment member)

/-- How the names of the packages and types of a model are built. -/
structure Segmented (visits : List Visit) : Prop where
  inner : ∀ visit ∈ visits, ∀ segment ∈ visit.inner, IsSegment segment
  opens : ∀ visit ∈ visits, visit.isPackage → visit.inner ≠ []
  name : ∀ visit ∈ visits, ∀ decl, visit.element.decl? = some decl → IsSegment decl.name

/-! ## Writing in order -/

theorem exists_of_artifactOf?_eq_file {scope : Scope} {document : Nat} {analysis : Analysis}
    {root : List String} {visit : Visit} {index : Nat} {path content : String}
    (output : artifactOf? scope document analysis root visit index = some (.file path content)) :
    ∃ decl, visit.element = .type decl ∧
      path = Text.join "/" (sourceNames (root ++ visit.path) decl.name) := by
  rcases visit with ⟨around, element⟩
  cases element with
  | package name pos elements => cases output
  | foreign name => cases output
  | type decl =>
      simp only [artifactOf?, Option.map_eq_some_iff] at output
      rcases output with ⟨body, -, same⟩
      cases same
      exact ⟨decl, rfl, rfl⟩

section Generate

variable {scope : Scope} {document : Nat} {analysis : Analysis} {defs : Definitions}
  {options : GenerateOptions}

/-- The directory of a source file comes before it. -/
theorem directory_before_file {front back : List Artifact} {path content : String}
    (parts : generate scope document analysis defs options = front ++ .file path content :: back) :
    ∃ visit ∈ defs.visits, ∃ decl, visit.element = .type decl ∧
      path = Text.join "/" (sourceNames (rootPath options ++ visit.path) decl.name) ∧
      (rootPath options ++ visit.path = [] ∨
        .directory (Text.join "/" (rootPath options ++ visit.path)) ∈ front) := by
  obtain ⟨later, whole, rest⟩ : ∃ later,
      front = (if (rootPath options).isEmpty then [] else [.directory (root options)]) ++ later ∧
      artifactsFrom scope document analysis (rootPath options) 0 defs.visits =
        later ++ .file path content :: back := by
    rcases List.append_eq_append_iff.mp parts with ⟨later, whole, rest⟩ | ⟨middle, whole, rest⟩
    · exact ⟨later, whole, rest⟩
    · cases middle with
      | nil => exact ⟨[], by simpa using whole.symm, rest.symm⟩
      | cons artifact middle =>
          -- The only piece before those of the visits is a directory.
          cases rest
          have member : .file path content ∈ front ++ .file path content :: middle := by simp
          rw [← whole] at member
          split at member
          · contradiction
          · simp at member
  rcases exists_visit_of_artifactsFrom scope document analysis _ rest with
    ⟨before, visit, after, place, visits, rfl, output⟩
  rcases exists_of_artifactOf?_eq_file output with ⟨decl, element, same⟩
  refine ⟨visit, by simp [visits], decl, element, same, ?_⟩
  rcases exists_package_before defs.elements [] visits with top | ⟨opened, member, isPackage, opens⟩
  · rw [top, List.append_nil]
    cases named : rootPath options with
    | nil => exact .inl rfl
    | cons segment segments =>
        refine .inr ?_
        rw [whole, named]
        simp [root, named]
  · refine .inr ?_
    rw [whole, List.mem_append, directory_mem_artifactsFrom]
    exact .inr ⟨opened, member, isPackage, by rw [opens]⟩

variable (root : ∀ segment ∈ rootPath options, IsSegment segment)
  (segmented : Segmented defs.visits)
include root segmented

theorem exists_of_directory_mem_generate {path : String}
    (member : .directory path ∈ generate scope document analysis defs options) :
    ∃ names, names ≠ [] ∧ (∀ name ∈ names, IsSegment name) ∧ path = Text.join "/" names := by
  rw [generate, List.mem_append, directory_mem_artifactsFrom] at member
  rcases member with member | ⟨visit, visited, isPackage, rfl⟩
  · split at member
    · contradiction
    · next some =>
      cases List.mem_singleton.mp member
      exact ⟨rootPath options, by simpa using some, root, rfl⟩
  · refine ⟨rootPath options ++ visit.inner, ?_, ?_, rfl⟩
    · simp [segmented.opens visit visited isPackage]
    · intro name member
      rcases List.mem_append.mp member with member | member
      · exact root name member
      · exact segmented.inner visit visited name member

theorem isSegment_of_mem_package {visit : Visit} (visited : visit ∈ defs.visits) :
    ∀ segment ∈ rootPath options ++ visit.path, IsSegment segment := by
  intro segment member
  rcases List.mem_append.mp member with member | member
  · exact root segment member
  · exact segmented.inner visit visited segment (visit.path_subset_inner member)

/-- The path of a source file leads along the package to the file. -/
theorem segments_sourceNames {visit : Visit} (visited : visit ∈ defs.visits) {decl : TypeDecl}
    (element : visit.element = .type decl) :
    (∀ name ∈ sourceNames (rootPath options ++ visit.path) decl.name, Path.IsPlain name) ∧
      Text.segments '/' (Text.join "/" (sourceNames (rootPath options ++ visit.path) decl.name)) =
        sourceNames (rootPath options ++ visit.path) decl.name := by
  have plain : ∀ name ∈ sourceNames (rootPath options ++ visit.path) decl.name,
      Path.IsPlain name := by
    intro name member
    rcases List.mem_append.mp member with member | member
    · exact (isSegment_of_mem_package root segmented visited name member).plain
    · rw [List.mem_singleton.mp member]
      exact (segmented.name visit visited decl (by rw [element]; rfl)).plain_file
  exact ⟨plain, Path.segments_join_plain (by simp [sourceNames]) plain⟩

/-- No source file stands on the way to a directory: its name has a dot. -/
theorem not_prefix_directory {path content directory : String}
    (file : .file path content ∈ generate scope document analysis defs options)
    (member : .directory directory ∈ generate scope document analysis defs options) :
    ¬ Text.segments '/' path <+: Text.segments '/' directory := by
  rcases List.append_of_mem file with ⟨front, back, parts⟩
  rcases directory_before_file parts with ⟨visit, visited, decl, element, rfl, -⟩
  rcases exists_of_directory_mem_generate root segmented member with ⟨names, some, segments, rfl⟩
  rw [(segments_sourceNames root segmented visited element).2,
    Path.segments_join_plain some fun name member => (segments name member).plain]
  intro above
  have last : decl.name ++ ".java" ∈ names := above.subset (by simp [sourceNames])
  refine (segments _ last).dotFree ?_
  rw [String.toList_append, List.mem_append]
  exact .inr (by decide)

/-- The sources of a model can be written piece by piece. -/
theorem orderly_generate : Orderly (generate scope document analysis defs options) := by
  constructor
  · intro artifact member
    cases artifact with
    | directory path =>
        rcases exists_of_directory_mem_generate root segmented member with
          ⟨names, some, segments, rfl⟩
        have plain : ∀ name ∈ names, Path.IsPlain name :=
          fun name member => (segments name member).plain
        rwa [Artifact.names, Artifact.path, Path.segments_join_plain some plain]
    | file path content =>
        rcases List.append_of_mem member with ⟨front, back, parts⟩
        rcases directory_before_file parts with ⟨visit, visited, decl, element, rfl, -⟩
        have names := segments_sourceNames root segmented visited element
        rw [Artifact.names, Artifact.path, names.2]
        exact names.1
  · intro front path content back parts
    rcases directory_before_file parts with ⟨visit, visited, decl, element, rfl, before⟩
    rw [(segments_sourceNames root segmented visited element).2, sourceNames, List.dropLast_concat]
    rcases before with top | before
    · exact .inl top
    · refine .inr (List.any_eq_true.mpr ⟨_, before, ?_⟩)
      by_cases some : rootPath options ++ visit.path = []
      · rw [some]
        simp [Artifact.makes]
      · have plain : ∀ name ∈ rootPath options ++ visit.path, Path.IsPlain name :=
          fun name member => (isSegment_of_mem_package root segmented visited name member).plain
        simp [Artifact.makes, Path.segments_join_plain some plain]
  · intro path content member made
    rcases List.any_eq_true.mp made with ⟨artifact, listed, makes⟩
    cases artifact with
    | directory directory =>
        refine not_prefix_directory root segmented member listed ?_
        simpa [Artifact.makes] using makes
    | file other text => contradiction

end Generate

end Java

end DomainGen
