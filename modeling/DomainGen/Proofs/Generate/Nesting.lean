import DomainGen.Proofs.Generate.Conversion
import DomainGen.Proofs.Link.Nesting

/-!
# Code for dotted and nested packages

How packages are nested leaves no trace in generated files.  They are made from the
types and their paths, which are the same whether a package has a dotted name or is
written as a package in a package.  Only among the directories of Java output there is
one more, for the outer package (`Nests.hasExtra_artifactsIn`).
-/

namespace DomainGen

/-- The second output is the first one with one piece more. -/
def HasExtra (piece : Artifact) (output more : List Artifact) : Prop :=
  ∃ front back, output = front ++ back ∧ more = front ++ piece :: back

namespace HasExtra

variable {piece : Artifact} {output more : List Artifact}

theorem here (piece : Artifact) (output : List Artifact) :
    HasExtra piece output (piece :: output) :=
  ⟨[], output, rfl, rfl⟩

theorem append_left (extra : HasExtra piece output more) (front : List Artifact) :
    HasExtra piece (front ++ output) (front ++ more) := by
  obtain ⟨before, after, rfl, rfl⟩ := extra
  exact ⟨front ++ before, after, by simp, by simp⟩

theorem append_right (extra : HasExtra piece output more) (back : List Artifact) :
    HasExtra piece (output ++ back) (more ++ back) := by
  obtain ⟨before, after, rfl, rfl⟩ := extra
  exact ⟨before, after ++ back, by simp, by simp⟩

end HasExtra

/-! ## Java sources -/

namespace Java

variable (scope : Scope) (document : Nat) (analysis : Analysis) (root : List String)

theorem artifactsFrom_append (index : Nat) (visits further : List Visit) :
    artifactsFrom scope document analysis root index (visits ++ further) =
      artifactsFrom scope document analysis root index visits ++
        artifactsFrom scope document analysis root
          (index + visits.countP (·.element.decl?.isSome)) further := by
  induction visits generalizing index with
  | nil => rfl
  | cons visit visits ih =>
      rw [List.cons_append, artifactsFrom, artifactsFrom, ih, List.append_assoc, List.countP_cons]
      by_cases declares : visit.element.decl?.isSome
      · simp only [if_pos declares, Nat.add_assoc, Nat.add_comm 1]
      · simp only [if_neg declares, Nat.add_zero]

/-- The output for the elements of the package at a path, when `index` types have been
visited before. -/
def artifactsIn (index : Nat) (path : List String) (elements : List Element) : List Artifact :=
  artifactsFrom scope document analysis root index (visitsIn path elements)

theorem countP_visitsIn (path : List String) (elements : List Element) :
    (visitsIn path elements).countP (·.element.decl?.isSome) =
      (locatedIn path elements).length := by
  rw [locatedIn, List.length_filterMap_eq_countP]
  simp only [Option.isSome_map]

theorem artifactsIn_append (index : Nat) (path : List String) (elements others : List Element) :
    artifactsIn scope document analysis root index path (elements ++ others) =
      artifactsIn scope document analysis root index path elements ++
        artifactsIn scope document analysis root (index + (locatedIn path elements).length) path
          others := by
  simp only [artifactsIn, ← countP_visitsIn, ← artifactsFrom_append]
  simp only [visitsIn_eq_flatMap, List.flatMap_append]

theorem artifactsIn_package_cons (index : Nat) (path : List String) (name : String)
    (pos : Position) (elements back : List Element) :
    artifactsIn scope document analysis root index path (.package name pos elements :: back) =
      .directory (Text.join "/" (root ++ packagePath path name)) ::
        artifactsIn scope document analysis root index (packagePath path name) elements ++
        artifactsIn scope document analysis root
          (index + (locatedIn (packagePath path name) elements).length) path back := by
  rw [← List.singleton_append, artifactsIn_append, locatedIn_package]
  congr 1
  simp [artifactsIn, visitsIn, Element.visits, artifactsFrom, artifactOf?, Element.decl?,
    packagePath_append]

/-- The two forms of a package have the same output but for the directory of the outer
package. -/
theorem hasExtra_artifactsIn {path added : List String} {dotted nested : List Element}
    (nests : Nests path added dotted nested) (index : Nat) :
    HasExtra (.directory (Text.join "/" (root ++ added)))
      (artifactsIn scope document analysis root index path dotted)
      (artifactsIn scope document analysis root index path nested) := by
  induction nests generalizing index with
  | here path front back outer inner pos outerPos innerPos elements =>
      -- The types after the package have the same numbers in both forms.
      have inside : locatedIn (packagePath path outer) [.package inner innerPos elements] =
          locatedIn (packagePath path (outer ++ "." ++ inner)) elements := by
        rw [locatedIn_package, packagePath_dotted]
      rw [artifactsIn_append, artifactsIn_append, artifactsIn_package_cons,
        artifactsIn_package_cons, inside, artifactsIn_package_cons, packagePath_dotted]
      apply HasExtra.append_left
      apply HasExtra.append_right
      simpa [artifactsIn, visitsIn, artifactsFrom] using HasExtra.here _ _
  | inside path front back name pos nests ih =>
      rw [artifactsIn_append, artifactsIn_append, artifactsIn_package_cons,
        artifactsIn_package_cons, nests.locatedIn_eq]
      exact ((((ih _).append_left [_]).append_right _).append_left _)

theorem hasExtra_generate {added : List String} {defs other : Definitions}
    (nests : Nests [] added defs.elements other.elements) (options : GenerateOptions) :
    HasExtra (.directory (Text.join "/" (rootPath options ++ added)))
      (generate scope document analysis defs options)
      (generate scope document analysis other options) :=
  (hasExtra_artifactsIn scope document analysis (rootPath options) nests 0).append_left _

end Java

/-! ## Workspaces -/

/-- Only the types of a model count for its relations. -/
theorem analyze_congr {defs other : Definitions} (types : other.types = defs.types)
    (scope : Scope) (document : Nat) :
    analyze scope document other = analyze scope document defs := by
  rw [analyze, types, analyze]

/-- Packages leave no trace in TypeScript definitions. -/
theorem TypeScript.generate_congr {defs other : Definitions} (types : other.types = defs.types)
    (scope : Scope) (document : Nat) (options : GenerateOptions) :
    generate scope document other options = generate scope document defs options := by
  simp only [generate, renderModule, declarations, subtypes, types]

namespace NestedAt

variable {position : Nat} {added : List String} {docs others : List Document}
  (nests : NestedAt position added docs others)
include nests

theorem ofDocuments_eq : Scope.ofDocuments others = Scope.ofDocuments docs := by
  have types : others.map (·.types) = docs.map (·.types) := by
    apply List.ext_getElem?
    intro place
    rw [List.getElem?_map, List.getElem?_map]
    by_cases same : place = position
    · obtain ⟨dotted, nested, found, otherFound, nests⟩ := nests.there
      rw [same, found, otherFound, Option.map_some, Option.map_some,
        Document.types_eq_map_locatedTypes, nests.locatedTypes_eq,
        ← Document.types_eq_map_locatedTypes]
    · rw [nests.elsewhere place same]
  have byTypes : ∀ docs, Scope.ofDocuments docs =
      ⟨((docs.map (·.types)).map (·.toArray)).toArray⟩ := by
    intro docs
    rw [List.map_map]
    rfl
  rw [byTypes, types, byTypes]

/-- The output for other documents does not change. -/
theorem artifactsAt_elsewhere (target : Target) (options : GenerateOptions) {place : Nat}
    (apart : place ≠ position) :
    artifactsAt target options others place = artifactsAt target options docs place := by
  simp only [artifactsAt, nests.ofDocuments_eq, nests.elsewhere place apart]

theorem exists_artifactsAt : ∃ analysis defs other,
    Nests [] added defs.elements other.elements ∧ other.types = defs.types ∧
      (∀ target options, artifactsAt target options docs position =
        target.generate (Scope.ofDocuments docs) position analysis defs options) ∧
      ∀ target options, artifactsAt target options others position =
        target.generate (Scope.ofDocuments docs) position analysis other options := by
  obtain ⟨dotted, nested, found, otherFound, nested'⟩ := nests.there
  obtain ⟨defs, other, model, otherModel, -, elements⟩ := nested'.definitions
  have types : other.types = defs.types := congrArg (List.map Prod.snd) elements.locatedIn_eq
  refine ⟨analyze (Scope.ofDocuments docs) position defs, defs, other, elements, types, ?_, ?_⟩
  · intro target options
    simp only [artifactsAt, found, Option.bind_some, model, Option.getD_some]
  · intro target options
    simp only [artifactsAt, nests.ofDocuments_eq, otherFound, Option.bind_some, otherModel,
      Option.getD_some, analyze_congr types]

end NestedAt

theorem typesAt_unplaced (docs : List Document) (position : Nat) :
    typesAt (docs.map (·.unplaced)) position =
      (typesAt docs position).map fun (path, decl) => (path, decl.unplaced) := by
  rw [typesAt, typesAt, List.getElem?_map]
  cases docs[position]? with
  | none => rfl
  | some doc => exact doc.locatedTypes_unplaced

theorem findingsAt_eq_map_diagnosticsAt (docs : List Document) (position : Nat) :
    findingsAt docs position = (diagnosticsAt docs position).map (·.unplaced) := by
  rw [findingsAt, diagnosticsAt]
  cases docs[position]? with
  | none => rfl
  | some doc => rfl

/-- Whether a package has a dotted name or is written as a package in a package makes no
difference but for a directory.  Two workspaces that differ in this, and in places, are
linked with the same targets and the same findings, and the same code is generated for
them.  In Java output there is a directory more for the outer package. -/
theorem nested_artifacts_findings (docs others dottedForm nestedForm : List Document)
    (position : Nat) (added : List String)
    (dottedAlike : docs.map (·.unplaced) = dottedForm.map (·.unplaced))
    (nestedAlike : others.map (·.unplaced) = nestedForm.map (·.unplaced))
    (nests : NestedAt position added dottedForm nestedForm) (group : List Nat) :
    let linked := link group docs
    let relinked := link group others
    (∀ place, typesAt (relinked.map (·.unplaced)) place =
      typesAt (linked.map (·.unplaced)) place) ∧
    (∀ place, findingsAt relinked place = findingsAt linked place) ∧
    (∀ target options place, target = .typeScript ∨ place ≠ position →
      artifactsAt target options relinked place = artifactsAt target options linked place) ∧
    ∀ options, HasExtra (.directory (Text.join "/" (Java.rootPath options ++ added)))
      (artifactsAt .java options linked position)
      (artifactsAt .java options relinked position) := by
  intro linked relinked
  have nests : NestedAt position added (link group dottedForm) (link group nestedForm) :=
    nests.link group
  have alike : linked.map (·.unplaced) = (link group dottedForm).map (·.unplaced) :=
    link_congr dottedAlike group
  have realike : relinked.map (·.unplaced) = (link group nestedForm).map (·.unplaced) :=
    link_congr nestedAlike group
  obtain ⟨analysis, defs, other, elements, types, output, reoutput⟩ := nests.exists_artifactsAt
  refine ⟨?_, ?_, ?_, ?_⟩
  · intro place
    rw [alike, realike, typesAt_unplaced, typesAt_unplaced, nests.typesAt_eq]
  · intro place
    rw [findingsAt_congr alike, findingsAt_congr realike, findingsAt_eq_map_diagnosticsAt,
      findingsAt_eq_map_diagnosticsAt, nests.diagnosticsAt_eq]
  · intro target options place elsewhere
    rw [artifactsAt_congr alike, artifactsAt_congr realike]
    by_cases same : place = position
    · have typeScript : target = .typeScript := by simpa [same] using elsewhere
      rw [same, output, reoutput, typeScript]
      exact TypeScript.generate_congr types _ _ _
    · exact nests.artifactsAt_elsewhere target options same
  · intro options
    rw [artifactsAt_congr alike, artifactsAt_congr realike, output, reoutput]
    exact Java.hasExtra_generate _ _ analysis elements options

/-- A workspace in which the elements that are given for a type lie in a package `p`.  The
type refers to a type in `p`, to one in a package `p.a` and to nothing. -/
def enclosingDocs (pos : Position) (elements : TypeDecl → List Element) : List Document :=
  let enclosed := .entity ⟨"B", some { text := "A" }, [⟨"c", { text := "C" }, false, false, {}⟩,
    ⟨"d", { text := "D", pos }, false, false, {}⟩], pos⟩
  let around := .package "p" {} (.type (.entity { name := "A" }) :: elements enclosed)
  [{ definitions := some { elements := [around] } },
    { definitions := some { elements := [.package "p.a" {} [.type (.enum { name := "C" })]] } }]

/-- A package with a dotted name. -/
def dottedPackage (decl : TypeDecl) : List Element := [.package "a.b" {} [.type decl]]

/-- The same package as a package in a package. -/
def nestedPackage (decl : TypeDecl) : List Element :=
  [.package "a" {} [.package "b" {} [.type decl]]]

theorem nested_artifacts_findings_enclosingDocs :
    let linked := link [0, 1] (enclosingDocs ⟨2, 1⟩ dottedPackage)
    let relinked := link [0, 1] (enclosingDocs ⟨3, 5⟩ nestedPackage)
    typesAt (relinked.map (·.unplaced)) 0 = typesAt (linked.map (·.unplaced)) 0 ∧
    (linked[0]?).map (fun doc => doc.locatedRefs.map (·.2.2.target)) =
      some [some ⟨0, 0⟩, some ⟨1, 0⟩, none] ∧
    findingsAt relinked 0 = findingsAt linked 0 ∧ (findingsAt linked 0).length = 1 ∧
    artifactsAt .typeScript {} relinked 0 = artifactsAt .typeScript {} linked 0 ∧
    HasExtra (.directory "p/a") (artifactsAt .java {} linked 0) (artifactsAt .java {} relinked 0) ∧
    (artifactsAt .java {} linked 0).map (·.path) =
      ["p", "p/A.java", "p/a/b", "p/a/b/B.java"] := by
  intro linked relinked
  have nests : NestedAt 0 (packagePath (packagePath [] "p") "a")
      (enclosingDocs {} dottedPackage) (enclosingDocs {} nestedPackage) := by
    constructor
    · intro place apart
      cases place with
      | zero => contradiction
      | succ place => rfl
    · refine ⟨_, _, rfl, rfl, rfl, ⟨_, _, rfl, rfl, rfl, ?_⟩, rfl⟩
      apply Nests.inside [] [] []
      exact .here _ [_] [] "a" "b" {} {} {} _
  have directory : Text.join "/" (Java.rootPath {} ++ packagePath (packagePath [] "p") "a") =
      "p/a" := by
    decide +kernel
  obtain ⟨types, findings, output, extra⟩ := nested_artifacts_findings
    (enclosingDocs ⟨2, 1⟩ dottedPackage) (enclosingDocs ⟨3, 5⟩ nestedPackage)
    (enclosingDocs {} dottedPackage) (enclosingDocs {} nestedPackage) 0 _ rfl rfl nests [0, 1]
  have extra := extra {}
  rw [directory] at extra
  exact ⟨types 0, by decide +kernel, findings 0, by decide +kernel, output _ _ 0 (.inl rfl), extra,
    by decide +kernel⟩

end DomainGen
