import DomainGen.Proofs.Link.Effect
import DomainGen.Proofs.Text.Dotted

/-!
# Dotted and nested packages

A package with a dotted name means the same as a package that holds nothing but a
package with the rest of the name.  Only the paths of packages count for linking,
and a dotted name leads where its parts lead, so the types lie at the same paths in
the same order.  Linking therefore finds the same targets, reports the same findings
and leaves two workspaces that again differ in this one package (`NestedAt.link`).
-/

namespace DomainGen

/-- Elements of the package at a path in two forms: where one has a package with a
dotted name, at any depth, the other has a package in a package.  The outer of the two
has the path `added`. -/
inductive Nests : (path added : List String) → (dotted nested : List Element) → Prop where
  | here (path : List String) (front back : List Element) (outer inner : String)
      (pos outerPos innerPos : Position) (elements : List Element) :
      Nests path (packagePath path outer)
        (front ++ .package (outer ++ "." ++ inner) pos elements :: back)
        (front ++ .package outer outerPos [.package inner innerPos elements] :: back)
  | inside (path front back) (name : String) (pos : Position) {added dotted nested} :
      Nests (packagePath path name) added dotted nested →
      Nests path added (front ++ .package name pos dotted :: back)
        (front ++ .package name pos nested :: back)

namespace Nests

variable {path added : List String} {dotted nested : List Element}
  (nests : Nests path added dotted nested)
include nests

/-- Both forms have the same types at the same paths. -/
theorem locatedIn_eq : locatedIn path nested = locatedIn path dotted := by
  induction nests with
  | here path front back outer inner pos outerPos innerPos elements =>
      simp only [locatedIn_append, locatedIn_cons path (.package ..) back, locatedIn_package,
        packagePath_dotted]
  | inside path front back name pos nests ih =>
      simp only [locatedIn_append, locatedIn_cons path (.package ..) back, locatedIn_package, ih]

/-- A change of references changes both forms alike. -/
theorem mapRefsIn (change : List String → RefUse → Ref → Ref) :
    Nests path added (mapRefsIn change path dotted)
      (DomainGen.mapRefsIn change path nested) := by
  induction nests with
  | here path front back outer inner pos outerPos innerPos elements =>
      simp only [mapRefsIn_append, DomainGen.mapRefsIn, Element.mapRefs, packagePath_dotted]
      exact .here path _ _ outer inner pos outerPos innerPos _
  | inside path front back name pos nests ih =>
      simp only [mapRefsIn_append, DomainGen.mapRefsIn, Element.mapRefs]
      exact .inside path _ _ name pos ih

end Nests

/-- A document in two forms that differ in the nesting of one package. -/
structure Document.Nests (added : List String) (dotted nested : Document) : Prop where
  path : nested.path = dotted.path
  definitions : ∃ defs other, dotted.definitions = some defs ∧ nested.definitions = some other ∧
    other.source = defs.source ∧ DomainGen.Nests [] added defs.elements other.elements
  diagnostics : nested.diagnostics = dotted.diagnostics

namespace Document.Nests

variable {added : List String} {dotted nested : Document} (nests : dotted.Nests added nested)
include nests

theorem locatedTypes_eq : nested.locatedTypes = dotted.locatedTypes := by
  obtain ⟨defs, other, found, otherFound, -, nests⟩ := nests.definitions
  rw [locatedTypes, locatedTypes, found, otherFound]
  exact nests.locatedIn_eq

theorem resolved (index : Index) : (dotted.resolved index).Nests added (nested.resolved index) := by
  obtain ⟨defs, other, found, otherFound, source, elements⟩ := nests.definitions
  refine ⟨nests.path, ⟨defs.mapRefs index.resolve, other.mapRefs index.resolve, ?_, ?_, source,
    elements.mapRefsIn index.resolve⟩, nests.diagnostics⟩
  · rw [Document.resolved, found, Option.map_some]
  · rw [Document.resolved, otherFound, Option.map_some]

theorem reportAll (findings : List Diagnostic) :
    (dotted.reportAll findings).Nests added (nested.reportAll findings) := by
  refine ⟨nests.path, nests.definitions, ?_⟩
  rw [diagnostics_reportAll, diagnostics_reportAll, nests.path, nests.diagnostics]

theorem unresolvedWarnings_eq (index : Index) :
    nested.unresolvedWarnings index = dotted.unresolvedWarnings index := by
  simp only [unresolvedWarnings, locatedRefs, nests.locatedTypes_eq]

end Document.Nests

/-- Two workspaces that differ in the nesting of one package of the document at a
position. -/
structure NestedAt (position : Nat) (added : List String) (docs others : List Document) :
    Prop where
  elsewhere : ∀ place : Nat, place ≠ position → others[place]? = docs[place]?
  there : ∃ dotted nested, docs[position]? = some dotted ∧ others[position]? = some nested ∧
    dotted.Nests added nested

namespace NestedAt

variable {position : Nat} {added : List String} {docs others : List Document}
  (nests : NestedAt position added docs others)
include nests

theorem typesAt_eq : typesAt others = typesAt docs := by
  funext place
  unfold typesAt
  by_cases same : place = position
  · obtain ⟨dotted, nested, found, otherFound, nests⟩ := nests.there
    rw [same, found, otherFound]
    exact nests.locatedTypes_eq
  · rw [nests.elsewhere place same]

theorem diagnosticsAt_eq : diagnosticsAt others = diagnosticsAt docs := by
  funext place
  unfold diagnosticsAt
  by_cases same : place = position
  · obtain ⟨dotted, nested, found, otherFound, nests⟩ := nests.there
    rw [same, found, otherFound]
    exact nests.diagnostics
  · rw [nests.elsewhere place same]

/-- Nesting makes no difference to where names lead. -/
theorem resolve_declareGroup (group : List Nat) :
    (declareGroup group others).1.resolve = (declareGroup group docs).1.resolve := by
  apply Index.resolve_congr
  apply find?_declareGroup_congr
  intro place
  rw [nests.typesAt_eq]

theorem linkFindings_eq (group : List Nat) (place : Nat) :
    linkFindings group others place = linkFindings group docs place := by
  have sameIndex := nests.resolve_declareGroup group
  have leftOpen : (others[place]?).elim [] (·.unresolvedWarnings (declareGroup group others).1) =
      (docs[place]?).elim [] (·.unresolvedWarnings (declareGroup group docs).1) := by
    simp only [Document.unresolvedWarnings_congr sameIndex]
    by_cases same : place = position
    · obtain ⟨dotted, nested, found, otherFound, nests⟩ := nests.there
      rw [same, found, otherFound]
      exact nests.unresolvedWarnings_eq _
    · rw [nests.elsewhere place same]
  rw [linkFindings, linkFindings, nests.typesAt_eq, leftOpen]

/-- Linking keeps workspaces alike that differ in the nesting of a package. -/
theorem link (group : List Nat) :
    NestedAt position added (link group docs) (DomainGen.link group others) := by
  have sameIndex := nests.resolve_declareGroup group
  constructor
  · intro place apart
    rw [getElem?_link_eq, getElem?_link_eq, nests.elsewhere place apart, nests.linkFindings_eq]
    simp only [Document.resolved_congr sameIndex]
  · obtain ⟨dotted, nested, found, otherFound, related⟩ := nests.there
    rw [getElem?_link_eq, getElem?_link_eq, found, otherFound, nests.linkFindings_eq]
    refine ⟨_, _, rfl, rfl, ?_⟩
    simp only [Document.resolved_congr sameIndex]
    apply Document.Nests.reportAll
    split
    · exact related.resolved _
    · exact related

end NestedAt

end DomainGen
