import DomainGen.Proofs.Generate.Nesting
import DomainGen.Proofs.Generate.SourceTree

/-!
# The root package is a package

Generation options can name a root package.  It stands around the whole model: the
output is that for a model whose only element is a package of this name
(`generate_rootPackage`).  The prefix of each path then comes from visiting the
package, and not from the options.
-/

namespace DomainGen

/-- The model in a package around all of its elements.  Its types keep their positions,
and with them its references keep their targets. -/
def Definitions.enclosed (defs : Definitions) (name : String) (pos : Position) : Definitions :=
  { defs with elements := [.package name pos defs.elements] }

/-- The document with its model in a package. -/
def Document.enclosed (doc : Document) (name : String) (pos : Position) : Document :=
  { doc with definitions := doc.definitions.map (·.enclosed name pos) }

theorem Definitions.types_enclosed (defs : Definitions) (name : String) (pos : Position) :
    (defs.enclosed name pos).types = defs.types := by
  have located : (defs.enclosed name pos).locatedTypes =
      locatedIn (packagePath [] name ++ []) defs.elements := by
    rw [List.append_nil, ← locatedIn_package [] name pos]
    rfl
  rw [types, located, locatedIn_append_path, List.map_map]
  rfl

theorem Document.types_enclosed (doc : Document) (name : String) (pos : Position) :
    (doc.enclosed name pos).types = doc.types := by
  rw [types, enclosed, types]
  cases doc.definitions with
  | none => rfl
  | some defs => exact defs.types_enclosed name pos

/-- A package around one of the models leaves every type of a workspace at its position. -/
theorem Scope.ofDocuments_enclosed {docs : List Document} {position : Nat} {doc : Document}
    (found : docs[position]? = some doc) (name : String) (pos : Position) :
    ofDocuments (docs.set position (doc.enclosed name pos)) = ofDocuments docs := by
  have same : (docs.set position (doc.enclosed name pos)).map (·.types.toArray) =
      docs.map (·.types.toArray) := by
    rw [List.map_set, Document.types_enclosed]
    apply List.ext_getElem?
    intro place
    rw [List.getElem?_set, List.getElem?_map]
    split
    · next here =>
      rw [← here, found]
      simp [(List.getElem?_eq_some_iff.mp found).1]
    · rfl
  rw [ofDocuments, same, ofDocuments]

namespace Java

variable {scope : Scope} {document : Nat} {analysis : Analysis} {root : List String}

/-! ## Two ways to the same output -/

/-- A prefix of all paths can as well be a part of the path of each visit. -/
theorem artifactOf?_inside (visit : Visit) (index : Nat) :
    artifactOf? scope document analysis [] (visit.inside root) index =
      artifactOf? scope document analysis root visit index := by
  cases visit with
  | mk path element =>
      cases element with
      | package name pos elements => rfl
      | type decl => rfl
      | foreign name => rfl

theorem artifactsFrom_inside (index : Nat) (visits : List Visit) :
    artifactsFrom scope document analysis [] index (visits.map (·.inside root)) =
      artifactsFrom scope document analysis root index visits := by
  induction visits generalizing index with
  | nil => rfl
  | cons visit visits ih =>
      rw [List.map_cons, artifactsFrom, artifactsFrom, artifactOf?_inside, ih]
      rfl

theorem generate_enclosed (defs : Definitions) (pos : Position) {options : GenerateOptions}
    (named : rootPath options ≠ []) :
    generate scope document analysis (defs.enclosed options.rootPackage pos)
        { options with rootPackage := "" } =
      generate scope document analysis defs options := by
  have visits : (defs.enclosed options.rootPackage pos).visits =
      ⟨[], .package options.rootPackage pos defs.elements⟩ ::
        defs.visits.map (·.inside (rootPath options)) := by
    rw [Definitions.visits, Definitions.visits, ← visitsIn_append_path, List.append_nil]
    exact List.append_nil _
  have unnamed : rootPath { options with rootPackage := "" } = [] := rfl
  have first : artifactsFrom scope document analysis [] 0
      (defs.enclosed options.rootPackage pos).visits = .directory (root options) ::
        artifactsFrom scope document analysis (rootPath options) 0 defs.visits := by
    rw [visits, artifactsFrom, artifactsFrom_inside]
    rfl
  rw [generate, generate, unnamed, first]
  simp [named]

/-! ## Below the root package -/

/-- What is produced for a visited element lies below the root. -/
theorem exists_names_of_artifactOf? {visit : Visit} {index : Nat} {artifact : Artifact}
    (filled : ∀ segment ∈ visit.inner, segment ≠ "")
    (output : artifactOf? scope document analysis root visit index = some artifact) :
    ∃ names, artifact.path = Text.join "/" (root ++ names) ∧ ∀ name ∈ names, name ≠ "" := by
  cases visit with
  | mk path element =>
      cases element with
      | package name pos elements =>
          cases output
          refine ⟨packagePath path name, ?_, filled⟩
          rw [← packagePath_append]
          rfl
      | foreign name => cases output
      | type decl =>
          simp only [artifactOf?, Option.map_eq_some_iff] at output
          obtain ⟨body, -, rfl⟩ := output
          refine ⟨path ++ [decl.name ++ ".java"], ?_, ?_⟩
          · rw [← List.append_assoc]
            rfl
          · intro name member
            rw [List.mem_append, List.mem_singleton] at member
            cases member with
            | inl member => exact filled name member
            | inr same =>
                rw [same]
                intro empty
                have length := congrArg String.length empty
                rw [String.length_append] at length
                contradiction

theorem exists_artifactOf?_of_mem {index : Nat} {visits : List Visit} {artifact : Artifact}
    (member : artifact ∈ artifactsFrom scope document analysis root index visits) :
    ∃ visit ∈ visits, ∃ place, artifactOf? scope document analysis root visit place =
      some artifact := by
  obtain ⟨front, back, parts⟩ := List.append_of_mem member
  obtain ⟨before, visit, after, place, rfl, -, output⟩ :=
    exists_visit_of_artifactsFrom scope document analysis root parts
  exact ⟨visit, by simp, place, output⟩

/-- Every path of the output is that of the root package, or continues it after a slash. -/
theorem path_generate {defs : Definitions} {options : GenerateOptions}
    (named : rootPath options ≠ []) {artifact : Artifact}
    (member : artifact ∈ generate scope document analysis defs options) :
    artifact.path = Java.root options ∨
      ∃ below, below ≠ "" ∧ artifact.path = Java.root options ++ "/" ++ below := by
  rw [generate, if_neg (by simpa using named), List.mem_append, List.mem_singleton] at member
  cases member with
  | inl same =>
      left
      rw [same]
      rfl
  | inr member =>
      obtain ⟨visit, visited, place, output⟩ := exists_artifactOf?_of_mem member
      have filled : ∀ segment ∈ visit.inner, segment ≠ "" := by
        intro segment inside
        cases mem_inner [] defs.elements visited inside with
        | inl top => contradiction
        | inr named =>
            obtain ⟨name, part⟩ := named
            simpa using (List.mem_filter.mp part).2
      obtain ⟨names, path, filled⟩ := exists_names_of_artifactOf? filled output
      by_cases top : names = []
      · left
        rw [path, top, List.append_nil]
        rfl
      · right
        refine ⟨Text.join "/" names, ?_, ?_⟩
        · exact Text.join_ne_empty top filled
        · rw [path, Text.join, String.intercalate_append_of_ne_nil named top]
          rfl

end Java

/-- A root package is the same as a package around the whole model.  Where some part of the
root package is not empty, the output is that for the model in a package of this name,
without a root package.  The types of the workspace and their relations are the same.
Every path of the output is that of the root package or lies below it. -/
theorem generate_rootPackage (docs : List Document) (position : Nat) (doc : Document)
    (defs : Definitions) (found : docs[position]? = some doc)
    (model : doc.definitions = some defs) (analysis : Analysis) (options : GenerateOptions)
    (named : ∃ segment ∈ Text.segments '.' options.rootPackage, segment ≠ "")
    (pos : Position) :
    let enclosed := defs.enclosed options.rootPackage pos
    let scope := Scope.ofDocuments docs
    let enclosedScope :=
      Scope.ofDocuments (docs.set position { doc with definitions := some enclosed })
    let output := Java.generate scope position analysis defs options
    enclosedScope = scope ∧
      analyze enclosedScope position enclosed = analyze scope position defs ∧
      Java.generate enclosedScope position analysis enclosed { options with rootPackage := "" } =
        output ∧
      ∀ artifact ∈ output, artifact.path = Java.root options ∨
        ∃ below, below ≠ "" ∧ artifact.path = Java.root options ++ "/" ++ below := by
  intro enclosed scope enclosedScope output
  have path : Java.rootPath options ≠ [] := by
    obtain ⟨segment, member, some⟩ := named
    apply List.ne_nil_of_mem (a := segment)
    rw [Java.rootPath, packagePath, List.nil_append, List.mem_filter]
    exact ⟨member, by simpa using some⟩
  have document : { doc with definitions := some enclosed } =
      doc.enclosed options.rootPackage pos := by
    rw [Document.enclosed, model]
    rfl
  have same : enclosedScope = scope := by
    have types := Scope.ofDocuments_enclosed found options.rootPackage pos
    rwa [← document] at types
  constructor
  · exact same
  constructor
  · rw [same]
    exact analyze_congr (defs.types_enclosed options.rootPackage pos) scope position
  constructor
  · rw [same]
    exact Java.generate_enclosed defs pos path
  · intro artifact member
    exact Java.path_generate path member

/-- Types inside and outside of a package that repeats a part of a root package. -/
def acmeDocs : List Document :=
  link [0, 1]
    [.ofSource "package acme.a \x7b entity B extends C \x7b \x7d \x7d datatype D = acme.a.B",
      .ofSource "entity C \x7b \x7d"]

theorem generate_rootPackage_acmeDocs :
    ∃ doc defs, acmeDocs[0]? = some doc ∧ doc.definitions = some defs ∧
      let scope := Scope.ofDocuments acmeDocs
      let analysis := analyze scope 0 defs
      let options : GenerateOptions := { rootPackage := "org..acme" }
      let output := Java.generate scope 0 analysis defs options
      Java.generate scope 0 analysis (defs.enclosed "org..acme" {}) {} = output ∧
      output.map (·.path) = ["org/acme", "org/acme/acme/a", "org/acme/acme/a/B.java",
        "org/acme/D.java"] ∧
      ∀ artifact ∈ output, artifact.path = "org/acme" ∨
        ∃ below, below ≠ "" ∧ artifact.path = "org/acme" ++ "/" ++ below := by
  have computed : (acmeDocs[0]?).any fun doc => doc.definitions.any fun defs =>
      let scope := Scope.ofDocuments acmeDocs
      (Java.generate scope 0 (analyze scope 0 defs) defs { rootPackage := "org..acme" }).map
        (·.path) = ["org/acme", "org/acme/acme/a", "org/acme/acme/a/B.java",
          "org/acme/D.java"] := by
    decide +kernel
  simp only [Option.any_eq_true, decide_eq_true_eq] at computed
  obtain ⟨doc, found, defs, model, paths⟩ := computed
  obtain ⟨same, -, output, below⟩ := generate_rootPackage acmeDocs 0 doc defs found model
    (analyze (Scope.ofDocuments acmeDocs) 0 defs) { rootPackage := "org..acme" } (by decide) {}
  rw [same] at output
  have root : Java.root { rootPackage := "org..acme" } = "org/acme" := by decide +kernel
  rw [root] at below
  exact ⟨doc, defs, found, model, output, paths, below⟩

end DomainGen
