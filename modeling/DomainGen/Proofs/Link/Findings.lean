import DomainGen.Proofs.Link.Declarations

/-!
# What linking reports

Each round of linking only adds to what has been found out about a document
(`diagnosticsAt_prefix_foldl_declareAt`, `diagnosticsAt_prefix_resolved`).  A type whose
qualified name was declared before in the same document is reported, so a document without
such a report declares every name once (`nodup_keys_of_unreported`).
-/

namespace DomainGen

/-! ## Findings are only added -/

namespace Document

theorem diagnostics_prefix_report (doc : Document) (diagnostic : Diagnostic) :
    doc.diagnostics <+: (doc.report diagnostic).diagnostics :=
  List.prefix_append _ _

theorem diagnostics_prefix_foldl_report {α : Type} (findings : List α) (finding : α → Diagnostic)
    (doc : Document) :
    doc.diagnostics <+:
      (findings.foldl (fun doc item => doc.report (finding item)) doc).diagnostics := by
  induction findings generalizing doc with
  | nil => exact List.prefix_refl _
  | cons item findings ih => exact (doc.diagnostics_prefix_report _).trans (ih _)

theorem diagnostics_prefix_resolve (doc : Document) (index : Index) :
    doc.diagnostics <+: (doc.resolve index).diagnostics := by
  unfold Document.resolve
  split
  · exact List.prefix_refl _
  · next defs found =>
    exact diagnostics_prefix_foldl_report (defs.mapRefs index.resolve).unresolvedRefs
      (fun located => unresolvedWarning located.1 located.2)
      { doc with definitions := some (defs.mapRefs index.resolve) }

end Document

namespace Index

variable (index : Index) (document : Nat) (doc : Document)

theorem diagnostics_prefix_declare (located : (List String × TypeDecl) × Nat) :
    doc.diagnostics <+: (Index.declare document (index, doc) located).2.diagnostics := by
  unfold Index.declare
  dsimp only
  split
  · exact doc.diagnostics_prefix_report _
  · exact List.prefix_refl _

theorem diagnostics_prefix_foldl_declare (located : List ((List String × TypeDecl) × Nat)) :
    doc.diagnostics <+: (located.foldl (Index.declare document) (index, doc)).2.diagnostics := by
  induction located generalizing index doc with
  | nil => exact List.prefix_refl _
  | cons first located ih =>
      exact (diagnostics_prefix_declare index document doc first).trans (ih _ _)

end Index

/-- What has been found out about the document at a position. -/
def diagnosticsAt (docs : List Document) (position : Nat) : List Diagnostic :=
  (docs[position]?).elim [] (·.diagnostics)

theorem diagnosticsAt_prefix_declareAt (state : Index × List Document) (first position : Nat) :
    diagnosticsAt state.2 position <+: diagnosticsAt (declareAt state first).2 position := by
  unfold declareAt
  split
  · exact List.prefix_refl _
  · next doc found =>
    unfold diagnosticsAt
    rw [List.getElem?_set]
    split
    · next same =>
      subst same
      rcases List.getElem?_eq_some_iff.mp found with ⟨inside, _⟩
      rw [found, if_pos inside]
      exact Index.diagnostics_prefix_foldl_declare _ _ _ _
    · exact List.prefix_refl _

theorem diagnosticsAt_prefix_foldl_declareAt (group : List Nat) (state : Index × List Document)
    (position : Nat) :
    diagnosticsAt state.2 position <+: diagnosticsAt (group.foldl declareAt state).2 position := by
  induction group generalizing state with
  | nil => exact List.prefix_refl _
  | cons first group ih => exact (diagnosticsAt_prefix_declareAt state first position).trans (ih _)

theorem diagnosticsAt_prefix_resolved (group : List Nat) (docs : List Document)
    (distinct : group.Nodup) (position : Nat) :
    diagnosticsAt (declareGroup group docs).2 position <+:
      diagnosticsAt (link group docs) position := by
  unfold diagnosticsAt
  rw [getElem?_link group docs distinct]
  cases (declareGroup group docs).2[position]? with
  | none => exact List.prefix_refl _
  | some doc =>
      simp only [Option.map_some, Option.elim_some]
      split
      · exact doc.diagnostics_prefix_resolve _
      · exact List.prefix_refl _

/-! ## Names that are taken -/

/-- A finding about a type whose qualified name is taken. -/
def Diagnostic.IsDuplicate (diagnostic : Diagnostic) : Prop :=
  Text.startsWith "Duplicate type name" diagnostic.message

instance (diagnostic : Diagnostic) : Decidable diagnostic.IsDuplicate :=
  inferInstanceAs (Decidable (_ = true))

theorem isDuplicate_duplicateWarning (decl : TypeDecl) (name : String) :
    (duplicateWarning decl name).IsDuplicate := by
  have start : "Duplicate type name '" = "Duplicate type name" ++ " '" := by decide
  simp only [Diagnostic.IsDuplicate, duplicateWarning, Diagnostic.warningAt, Text.startsWith,
    List.isPrefixOf_iff_prefix]
  rw [start, String.append_assoc, String.append_assoc, String.toList_append]
  exact List.prefix_append _ _

theorem Document.exists_mem_report (doc : Document) (diagnostic : Diagnostic) :
    ∃ reported ∈ (doc.report diagnostic).diagnostics, reported.message = diagnostic.message := by
  refine ⟨if diagnostic.file = "" then diagnostic.inFile doc.path else diagnostic,
    by simp [Document.report], ?_⟩
  split
  · rfl
  · rfl

/-- The qualified name of a located type. -/
def locatedKey (located : List String × TypeDecl) : String := qualify located.1 located.2.name

namespace Index

variable {document : Nat} {located : List ((List String × TypeDecl) × Nat)}

/-- A type whose name is taken already is reported. -/
theorem exists_duplicate_of_find? (index : Index) (doc : Document)
    {type : (List String × TypeDecl) × Nat} (member : type ∈ located)
    (taken : (index.find? (locatedKey type.1)).isSome) :
    ∃ reported ∈ (located.foldl (Index.declare document) (index, doc)).2.diagnostics,
      reported.IsDuplicate := by
  induction located generalizing index doc with
  | nil => contradiction
  | cons first located ih =>
      rw [List.foldl_cons]
      rcases List.mem_cons.mp member with rfl | later
      · rcases type with ⟨⟨path, decl⟩, place⟩
        have taken : (index.find? (qualify path decl.name)).isSome := taken
        rcases Option.isSome_iff_exists.mp taken with ⟨declared, found⟩
        have step : Index.declare document (index, doc) ((path, decl), place) =
            (index, doc.report (duplicateWarning decl (qualify path decl.name))) := by
          simp only [Index.declare, found]
        rcases doc.exists_mem_report (duplicateWarning decl (qualify path decl.name)) with
          ⟨reported, listed, message⟩
        rw [step]
        refine ⟨reported, (diagnostics_prefix_foldl_declare _ _ _ _).subset listed, ?_⟩
        rw [Diagnostic.IsDuplicate, message]
        exact isDuplicate_duplicateWarning decl _
      · have kept : ((Index.declare document (index, doc) first).1.find?
            (locatedKey type.1)).isSome := by
          rw [find?_declare, Option.isSome_or, taken]
          rfl
        exact ih _ _ later kept

/-- Unless a type is reported, no two types have the same name. -/
theorem nodup_of_unreported (index : Index) (doc : Document)
    (unreported : ∀ reported ∈
      (located.foldl (Index.declare document) (index, doc)).2.diagnostics,
        ¬ reported.IsDuplicate) :
    (located.map fun type => locatedKey type.1).Nodup := by
  induction located generalizing index doc with
  | nil => exact List.nodup_nil
  | cons first located ih =>
      rw [List.foldl_cons] at unreported
      rw [List.map_cons, List.nodup_cons]
      refine ⟨?_, ih _ _ unreported⟩
      intro repeated
      rcases List.mem_map.mp repeated with ⟨type, member, same⟩
      have taken : ((Index.declare document (index, doc) first).1.find?
          (locatedKey type.1)).isSome := by
        rw [find?_declare, Option.isSome_or, Bool.or_eq_true]
        refine .inr ?_
        have equal : (Declaration.ofLocated document first).key == locatedKey type.1 := by
          rw [same, beq_iff_eq]
          rfl
        simp [firstEntry, equal]
      rcases exists_duplicate_of_find? _ _ member taken with ⟨reported, listed, duplicate⟩
      exact unreported reported listed duplicate

end Index

/-- A linked document without a report of a name that is taken declares every qualified
name once. -/
theorem nodup_keys_of_unreported {group : List Nat} {docs : List Document}
    (distinct : group.Nodup) {position : Nat} (listed : position ∈ group) {doc : Document}
    (found : docs[position]? = some doc)
    (unreported : ∀ reported ∈ diagnosticsAt (link group docs) position,
      ¬ reported.IsDuplicate) :
    (doc.locatedTypes.map locatedKey).Nodup := by
  rcases List.append_of_mem listed with ⟨front, back, parts⟩
  -- The document as it is when its turn comes: nothing but findings was added.
  have kept := congrArg (·[position]?) (definitions_foldl_declareAt front ([], docs))
  simp only [List.getElem?_map, found, Option.map_some, Option.map_eq_some_iff] at kept
  rcases kept with ⟨current, turn, definitions⟩
  have types : current.locatedTypes = doc.locatedTypes := by
    rw [Document.locatedTypes, definitions, Document.locatedTypes]
  have declared : diagnosticsAt (declareAt (front.foldl declareAt ([], docs)) position).2 position =
      (current.locatedTypes.zipIdx.foldl (Index.declare position)
        ((front.foldl declareAt ([], docs)).1, current)).2.diagnostics := by
    rcases List.getElem?_eq_some_iff.mp turn with ⟨inside, rfl⟩
    simp [diagnosticsAt, declareAt, inside, Index.declareAll]
  have later : diagnosticsAt (declareAt (front.foldl declareAt ([], docs)) position).2 position <+:
      diagnosticsAt (link group docs) position := by
    refine .trans ?_ (diagnosticsAt_prefix_resolved group docs distinct position)
    rw [declareGroup_eq_foldl, parts, List.foldl_append, List.foldl_cons]
    exact diagnosticsAt_prefix_foldl_declareAt back _ position
  have once := Index.nodup_of_unreported (front.foldl declareAt ([], docs)).1 current
    fun reported member => unreported reported (later.subset (declared ▸ member))
  have keys : (current.locatedTypes.zipIdx.map fun type => locatedKey type.1) =
      doc.locatedTypes.map locatedKey := by
    calc
      _ = (current.locatedTypes.zipIdx.map Prod.fst).map locatedKey := (List.map_map ..).symm
      _ = _ := by rw [List.zipIdx_map_fst, types]
  rwa [keys] at once

end DomainGen
