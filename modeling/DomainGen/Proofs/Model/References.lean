import DomainGen.Model.Document
import DomainGen.Proofs.Model.Packages

/-!
# Changing the references of a model

A change of references keeps the shape of a model.  The elements are visited in
the same order and at the same paths, each of them changed by itself, and the
references of a declaration are changed one by one.
-/

namespace DomainGen

variable (change : List String → RefUse → Ref → Ref)

/-! ## Declarations -/

namespace TypeDecl

variable (change : RefUse → Ref → Ref) (decl : TypeDecl)

@[simp] theorem name_mapRefs : (decl.mapRefs change).name = decl.name := by
  cases decl <;> rfl

@[simp] theorem isEntity_mapRefs : (decl.mapRefs change).isEntity = decl.isEntity := by
  cases decl <;> rfl

@[simp] theorem pos_mapRefs : (decl.mapRefs change).pos = decl.pos := by
  cases decl <;> rfl

theorem refs_mapRefs :
    (decl.mapRefs change).refs = decl.refs.map fun (use, ref) => (use, change use ref) := by
  cases decl with
  | dataType type => simp [mapRefs, refs]
  | entity type =>
      cases super : type.super with
      | none => simp [mapRefs, refs, super]
      | some ref => simp [mapRefs, refs, super]
  | enum type => rfl
  | foreign name => rfl

/-- Two changes, one after the other, change each reference twice. -/
theorem mapRefs_mapRefs (further : RefUse → Ref → Ref) :
    (decl.mapRefs change).mapRefs further =
      decl.mapRefs fun use ref => further use (change use ref) := by
  cases decl with
  | dataType type => simp [mapRefs]
  | entity type =>
      cases super : type.super with
      | none => simp [mapRefs, super]
      | some ref => simp [mapRefs, super]
  | enum type => rfl
  | foreign name => rfl

theorem mapRefs_self : decl.mapRefs (fun _ ref => ref) = decl := by
  cases decl with
  | dataType type => simp [mapRefs]
  | entity type => simp [mapRefs]
  | enum type => rfl
  | foreign name => rfl

/-- Only what becomes of the references that a declaration has counts. -/
theorem mapRefs_congr {change other : RefUse → Ref → Ref} {decl : TypeDecl}
    (same : ∀ use ref, (use, ref) ∈ decl.refs → change use ref = other use ref) :
    decl.mapRefs change = decl.mapRefs other := by
  cases decl with
  | dataType type =>
      have members : type.members.map (change .anyType) = type.members.map (other .anyType) := by
        apply List.map_congr_left
        intro ref member
        exact same .anyType ref (by simpa [refs] using member)
      simp only [mapRefs, members]
  | entity type =>
      have super : type.super.map (change .supertype) = type.super.map (other .supertype) := by
        cases found : type.super with
        | none => rfl
        | some ref =>
            have changed := same .supertype ref (by simp [refs, found])
            rw [Option.map_some, Option.map_some, changed]
      have features : ∀ feature ∈ type.features,
          change .anyType feature.type = other .anyType feature.type := by
        intro feature member
        apply same
        simp only [refs, List.mem_append, List.mem_map]
        exact .inr ⟨feature, member, rfl⟩
      simp only [mapRefs, super]
      congr 2
      apply List.map_congr_left
      intro feature member
      rw [features feature member]
  | enum type => rfl
  | foreign name => rfl

end TypeDecl

/-! ## Models -/

/-- One visit after a change of references. -/
def Visit.mapRefs (visit : Visit) : Visit := ⟨visit.path, visit.element.mapRefs change visit.path⟩

mutual

theorem Element.visits_mapRefs (path : List String) (element : Element) :
    (element.mapRefs change path).visits path =
      (element.visits path).map (·.mapRefs change) := by
  cases element with
  | package name pos elements =>
      rw [Element.mapRefs, Element.visits, Element.visits, visitsIn_mapRefsIn, List.map_cons,
        Visit.mapRefs, Element.mapRefs]
  | type decl => simp [Element.mapRefs, Element.visits, Visit.mapRefs]
  | foreign name => simp [Element.mapRefs, Element.visits, Visit.mapRefs]

theorem visitsIn_mapRefsIn (path : List String) (elements : List Element) :
    visitsIn path (mapRefsIn change path elements) =
      (visitsIn path elements).map (·.mapRefs change) := by
  cases elements with
  | nil => rfl
  | cons element elements =>
      rw [mapRefsIn, visitsIn, visitsIn, List.map_append, Element.visits_mapRefs,
        visitsIn_mapRefsIn]

end

theorem Element.decl?_mapRefs (path : List String) (element : Element) :
    (element.mapRefs change path).decl? = element.decl?.map (·.mapRefs (change path)) := by
  cases element with
  | package name pos elements => rw [Element.mapRefs]; rfl
  | type decl => rw [Element.mapRefs]; rfl
  | foreign name => rw [Element.mapRefs]; rfl

theorem Definitions.locatedTypes_mapRefs (defs : Definitions) :
    (defs.mapRefs change).locatedTypes =
      defs.locatedTypes.map fun (path, decl) => (path, decl.mapRefs (change path)) := by
  simp only [Definitions.locatedTypes, Definitions.visits, Definitions.mapRefs,
    visitsIn_mapRefsIn, List.filterMap_map, List.map_filterMap]
  congr 1
  funext visit
  simp [Visit.mapRefs, Element.decl?_mapRefs, Function.comp_def]

mutual

theorem Element.mapRefs_mapRefs (further : List String → RefUse → Ref → Ref)
    (path : List String) (element : Element) :
    (element.mapRefs change path).mapRefs further path =
      element.mapRefs (fun path use ref => further path use (change path use ref)) path := by
  cases element with
  | package name pos elements => simp only [Element.mapRefs, mapRefsIn_mapRefsIn]
  | type decl => simp only [Element.mapRefs, TypeDecl.mapRefs_mapRefs]
  | foreign name => simp only [Element.mapRefs]

theorem mapRefsIn_mapRefsIn (further : List String → RefUse → Ref → Ref)
    (path : List String) (elements : List Element) :
    mapRefsIn further path (mapRefsIn change path elements) =
      mapRefsIn (fun path use ref => further path use (change path use ref)) path elements := by
  cases elements with
  | nil => rfl
  | cons element elements =>
      simp only [mapRefsIn]
      rw [Element.mapRefs_mapRefs, mapRefsIn_mapRefsIn]

end

mutual

theorem Element.mapRefs_self (path : List String) (element : Element) :
    element.mapRefs (fun _ _ ref => ref) path = element := by
  cases element with
  | package name pos elements => rw [Element.mapRefs, mapRefsIn_self]
  | type decl => rw [Element.mapRefs, TypeDecl.mapRefs_self]
  | foreign name => rw [Element.mapRefs]

theorem mapRefsIn_self (path : List String) (elements : List Element) :
    mapRefsIn (fun _ _ ref => ref) path elements = elements := by
  cases elements with
  | nil => rfl
  | cons element elements => rw [mapRefsIn, Element.mapRefs_self, mapRefsIn_self]

end

mutual

theorem Element.mapRefs_congr {change other : List String → RefUse → Ref → Ref}
    (path : List String) (element : Element)
    (same : ∀ path' decl, (path', decl) ∈ locatedIn path [element] → ∀ use ref,
      (use, ref) ∈ decl.refs → change path' use ref = other path' use ref) :
    element.mapRefs change path = element.mapRefs other path := by
  cases element with
  | package name pos elements =>
      rw [locatedIn_package] at same
      rw [Element.mapRefs, Element.mapRefs, mapRefsIn_congr _ elements same]
  | type decl =>
      rw [Element.mapRefs, Element.mapRefs, TypeDecl.mapRefs_congr]
      exact same path decl (by simp [locatedIn, visitsIn, Element.visits, Element.decl?])
  | foreign name => rw [Element.mapRefs, Element.mapRefs]

/-- Only what becomes of the references that the elements have counts. -/
theorem mapRefsIn_congr {change other : List String → RefUse → Ref → Ref}
    (path : List String) (elements : List Element)
    (same : ∀ path' decl, (path', decl) ∈ locatedIn path elements → ∀ use ref,
      (use, ref) ∈ decl.refs → change path' use ref = other path' use ref) :
    mapRefsIn change path elements = mapRefsIn other path elements := by
  cases elements with
  | nil => rfl
  | cons element elements =>
      rw [locatedIn_cons] at same
      rw [mapRefsIn, mapRefsIn, Element.mapRefs_congr path element, mapRefsIn_congr path elements]
      · intro path' decl located
        exact same path' decl (List.mem_append_right _ located)
      · intro path' decl located
        exact same path' decl (List.mem_append_left _ located)

end

theorem mapRefsIn_eq_map (path : List String) (elements : List Element) :
    mapRefsIn change path elements = elements.map (·.mapRefs change path) := by
  induction elements with
  | nil => rfl
  | cons element elements ih => rw [mapRefsIn, ih, List.map_cons]

theorem mapRefsIn_append (path : List String) (elements others : List Element) :
    mapRefsIn change path (elements ++ others) =
      mapRefsIn change path elements ++ mapRefsIn change path others := by
  simp only [mapRefsIn_eq_map, List.map_append]

theorem Definitions.mapRefs_mapRefs (defs : Definitions)
    (further : List String → RefUse → Ref → Ref) :
    (defs.mapRefs change).mapRefs further =
      defs.mapRefs fun path use ref => further path use (change path use ref) := by
  simp only [Definitions.mapRefs, mapRefsIn_mapRefsIn]

/-! ## Documents -/

/-- The reference as it was written, without a target. -/
def Ref.unlinked (ref : Ref) : Ref := { ref with target := none }

namespace Document

@[simp] theorem definitions_report (doc : Document) (diagnostic : Diagnostic) :
    (doc.report diagnostic).definitions = doc.definitions := rfl

/-- Reporting findings does not touch the model. -/
theorem definitions_foldl_report {α : Type} (findings : List α) (finding : α → Diagnostic)
    (doc : Document) :
    (findings.foldl (fun doc item => doc.report (finding item)) doc).definitions =
      doc.definitions := by
  induction findings generalizing doc with
  | nil => rfl
  | cons item findings ih => rw [List.foldl_cons, ih, definitions_report]

theorem types_eq_map_locatedTypes (doc : Document) : doc.types = doc.locatedTypes.map (·.2) := by
  unfold types locatedTypes
  cases doc.definitions with
  | none => rfl
  | some defs => rfl

/-- The references of a document in visiting order, each with the path of the
package that it stands in. -/
def locatedRefs (doc : Document) : List (List String × RefUse × Ref) :=
  doc.locatedTypes.flatMap fun (path, decl) => decl.refs.map (path, ·)

end Document

theorem locatedRefs_eq_map {doc linked : Document} {change : List String → RefUse → Ref → Ref}
    (types : linked.locatedTypes = doc.locatedTypes.map fun (path, decl) =>
      (path, decl.mapRefs (change path))) :
    linked.locatedRefs =
      doc.locatedRefs.map fun (path, use, ref) => (path, use, change path use ref) := by
  simp only [Document.locatedRefs, types, List.flatMap_map, List.map_flatMap,
    TypeDecl.refs_mapRefs, List.map_map]
  rfl

end DomainGen
