import DomainGen.Proofs.Link.Declarations
import DomainGen.Proofs.Model.Places

/-!
# Linking does not look at places

Linking documents without places gives the linked documents without places
(`link_unplaced`), and so for checking.  What a reference comes to mean, and
which findings there are, is decided by names and order alone.
-/

namespace DomainGen

/-- The finding without its place. -/
def Diagnostic.unplaced (diagnostic : Diagnostic) : Diagnostic :=
  { diagnostic with file := "", line := 0, column := 0 }

/-- The document without places, that of its file included. -/
def Document.unplaced (doc : Document) : Document where
  path := ""
  definitions := doc.definitions.map (·.unplaced)
  diagnostics := doc.diagnostics.map (·.unplaced)

namespace Document

variable (doc : Document)

theorem report_unplaced (diagnostic : Diagnostic) :
    doc.unplaced.report diagnostic.unplaced = (doc.report diagnostic).unplaced := by
  unfold report
  split
  · split
    · simp [unplaced, Diagnostic.unplaced, Diagnostic.inFile]
    · simp [unplaced, Diagnostic.unplaced, Diagnostic.inFile]
  · next named => exact absurd rfl named

/-- Reporting findings one by one, each with or without its place. -/
theorem foldl_report_unplaced {α : Type} (strip : α → α) (finding : α → Diagnostic)
    (blind : ∀ item, finding (strip item) = (finding item).unplaced) (items : List α) :
    (items.map strip).foldl (fun doc item => doc.report (finding item)) doc.unplaced =
      (items.foldl (fun doc item => doc.report (finding item)) doc).unplaced := by
  induction items generalizing doc with
  | nil => rfl
  | cons item items ih =>
      rw [List.map_cons, List.foldl_cons, List.foldl_cons, blind, report_unplaced, ih]

theorem locatedTypes_unplaced :
    doc.unplaced.locatedTypes =
      doc.locatedTypes.map fun (path, decl) => (path, decl.unplaced) := by
  unfold locatedTypes unplaced
  cases doc.definitions with
  | none => rfl
  | some defs => exact defs.locatedTypes_unplaced

theorem types_unplaced : doc.unplaced.types = doc.types.map (·.unplaced) := by
  unfold types unplaced
  cases doc.definitions with
  | none => rfl
  | some defs => exact defs.types_unplaced

end Document

/-! ## Declaring -/

theorem TypeDecl.pos_unplaced (decl : TypeDecl) : decl.unplaced.pos = {} := by
  cases decl <;> rfl

theorem duplicateWarning_unplaced (decl : TypeDecl) (name : String) :
    duplicateWarning decl.unplaced name = (duplicateWarning decl name).unplaced := by
  rw [duplicateWarning, TypeDecl.pos_unplaced]
  rfl

/-- The located type without places. -/
def unplacedLocated (located : (List String × TypeDecl) × Nat) :
    (List String × TypeDecl) × Nat :=
  ((located.1.1, located.1.2.unplaced), located.2)

theorem Index.declare_unplaced (document : Nat) (index : Index) (doc : Document)
    (located : (List String × TypeDecl) × Nat) :
    Index.declare document (index, doc.unplaced) (unplacedLocated located) =
      Prod.map id Document.unplaced (Index.declare document (index, doc) located) := by
  rcases located with ⟨⟨path, decl⟩, position⟩
  simp only [Index.declare, unplacedLocated, TypeDecl.name_unplaced, TypeDecl.isEntity_unplaced]
  cases index.find? (qualify path decl.name) with
  | none => rfl
  | some declared =>
      rw [duplicateWarning_unplaced, Document.report_unplaced]
      rfl

theorem Index.foldl_declare_unplaced (document : Nat) (index : Index) (doc : Document)
    (located : List ((List String × TypeDecl) × Nat)) :
    (located.map unplacedLocated).foldl (Index.declare document) (index, doc.unplaced) =
      Prod.map id Document.unplaced (located.foldl (Index.declare document) (index, doc)) := by
  induction located generalizing index doc with
  | nil => rfl
  | cons first located ih =>
      rw [List.map_cons, List.foldl_cons, List.foldl_cons, Index.declare_unplaced]
      exact ih _ _

theorem Index.declareAll_unplaced (index : Index) (document : Nat) (doc : Document) :
    index.declareAll document doc.unplaced =
      Prod.map id Document.unplaced (index.declareAll document doc) := by
  rw [Index.declareAll, Document.locatedTypes_unplaced, List.zipIdx_map]
  exact Index.foldl_declare_unplaced document index doc doc.locatedTypes.zipIdx

theorem declareAt_unplaced (index : Index) (docs : List Document) (position : Nat) :
    declareAt (index, docs.map (·.unplaced)) position =
      Prod.map id (List.map Document.unplaced) (declareAt (index, docs) position) := by
  unfold declareAt
  simp only [List.getElem?_map]
  cases docs[position]? with
  | none => rfl
  | some doc =>
      simp only [Option.map_some, Index.declareAll_unplaced, Prod.map, id, List.map_set]

theorem foldl_declareAt_unplaced (group : List Nat) (index : Index) (docs : List Document) :
    group.foldl declareAt (index, docs.map (·.unplaced)) =
      Prod.map id (List.map Document.unplaced) (group.foldl declareAt (index, docs)) := by
  induction group generalizing index docs with
  | nil => rfl
  | cons position group ih =>
      rw [List.foldl_cons, List.foldl_cons, declareAt_unplaced]
      exact ih _ _

theorem declareGroup_unplaced (group : List Nat) (docs : List Document) :
    declareGroup group (docs.map (·.unplaced)) =
      Prod.map id (List.map Document.unplaced) (declareGroup group docs) := by
  rw [declareGroup_eq_foldl, declareGroup_eq_foldl]
  exact foldl_declareAt_unplaced group [] docs

/-! ## Resolving -/

theorem Index.resolve_unplaced (index : Index) (path : List String) (use : RefUse) (ref : Ref) :
    (index.resolve path use ref).unplaced = index.resolve path use ref.unplaced := by
  unfold Index.resolve
  rw [Ref.target_unplaced]
  split
  · rfl
  · rfl

theorem unresolvedWarning_unplaced (use : RefUse) (ref : Ref) :
    unresolvedWarning use ref.unplaced = (unresolvedWarning use ref).unplaced := by
  rw [unresolvedWarning, Ref.text_unplaced]
  rfl

theorem Document.resolve_of_definitions {doc : Document} {defs : Definitions}
    (found : doc.definitions = some defs) (index : Index) :
    doc.resolve index =
      (defs.mapRefs index.resolve).unresolvedRefs.foldl
        (fun doc item => doc.report (unresolvedWarning item.1 item.2))
        { doc with definitions := some (defs.mapRefs index.resolve) } := by
  rw [Document.resolve, found]

theorem Document.resolve_unplaced (doc : Document) (index : Index) :
    doc.unplaced.resolve index = (doc.resolve index).unplaced := by
  cases found : doc.definitions with
  | none => simp [Document.resolve, Document.unplaced, found]
  | some defs =>
      have unplaced : doc.unplaced.definitions = some defs.unplaced := by
        rw [Document.unplaced, found, Option.map_some]
      rw [Document.resolve_of_definitions found, Document.resolve_of_definitions unplaced,
        ← defs.unplaced_mapRefs index.resolve index.resolve_unplaced,
        Definitions.unresolvedRefs_unplaced, ← Document.foldl_report_unplaced]
      · rfl
      · intro item
        exact unresolvedWarning_unplaced item.1 item.2

theorem foldl_modify_unplaced (index : Index) (group : List Nat) (docs : List Document) :
    group.foldl (fun docs position => docs.modify position (·.resolve index))
        (docs.map (·.unplaced)) =
      (group.foldl (fun docs position => docs.modify position (·.resolve index)) docs).map
        (·.unplaced) := by
  induction group generalizing docs with
  | nil => rfl
  | cons position group ih =>
      have step : (docs.map (·.unplaced)).modify position (·.resolve index) =
          (docs.modify position (·.resolve index)).map (·.unplaced) := by
        apply List.ext_getElem?
        intro place
        simp only [List.getElem?_modify, List.getElem?_map, Option.map_eq_map]
        cases docs[place]? with
        | none => rfl
        | some doc =>
            simp only [Option.map_some]
            split
            · rw [Document.resolve_unplaced]
            · rfl
      rw [List.foldl_cons, List.foldl_cons, step, ih]

/-- Linking does not depend on places. -/
theorem link_unplaced (group : List Nat) (docs : List Document) :
    link group (docs.map (·.unplaced)) = (link group docs).map (·.unplaced) := by
  unfold link
  rw [declareGroup_unplaced]
  exact foldl_modify_unplaced _ group _

/-- Checking does not depend on places. -/
theorem Document.check_unplaced (doc : Document) : doc.unplaced.check = doc.check.unplaced := by
  have names : doc.types.filter ((!startsWithCapital ·.name) ∘ TypeDecl.unplaced) =
      doc.types.filter (!startsWithCapital ·.name) := by
    congr 1
    funext decl
    simp
  unfold Document.check
  rw [Document.types_unplaced, List.filter_map, names]
  apply Document.foldl_report_unplaced
  intro decl
  rw [TypeDecl.pos_unplaced]
  rfl

end DomainGen
