import DomainGen.Proofs.Link.Arrangement
import Mathlib.Data.List.Induction

/-!
# One document for many

The elements of several documents can stand in one document, in the same order.  Linking
that document alone resolves the same references as linking the documents with each
other.  A declaration then stands after those of the documents before its own, and the
targets of references follow (`typesAt_linkAll_merged`).

What is found at a position is then found at the position that it is moved to
(`relocates_linkAll_merged`).  This is all that the uses of a scope depend on.
-/

namespace DomainGen

/-- The elements of the model of a document. -/
def Document.elements (doc : Document) : List Element := doc.definitions.elim [] (·.elements)

/-- One document with the elements of all the documents. -/
def Document.merged (docs : List Document) : Document where
  definitions := some { elements := docs.flatMap (·.elements) }

/-- Where a declaration stands among those of all the documents. -/
def mergedPosition (docs : List Document) (id : TypeId) : TypeId :=
  ⟨0, ((docs.take id.document).flatMap (·.locatedTypes)).length + id.index⟩

/-- The declaration with targets that follow the declarations they mean. -/
def TypeDecl.retargeted (decl : TypeDecl) (move : TypeId → TypeId) : TypeDecl :=
  decl.mapRefs fun _ ref => ref.retargeted move

theorem mergedPosition_first (docs : List Document) (index : Nat) :
    mergedPosition docs ⟨0, index⟩ = ⟨0, index⟩ := by
  simp [mergedPosition]

theorem Document.locatedTypes_merged (docs : List Document) :
    (merged docs).locatedTypes = docs.flatMap (·.locatedTypes) := by
  have located : ∀ doc : Document, doc.locatedTypes = locatedIn [] doc.elements := by
    intro doc
    rw [locatedTypes, elements]
    cases doc.definitions with
    | none => rfl
    | some defs => rfl
  change locatedIn [] (docs.flatMap (·.elements)) = _
  induction docs with
  | nil => rfl
  | cons doc docs ih => rw [List.flatMap_cons, locatedIn_append, ih, List.flatMap_cons, located]

/-! ## Declarations -/

theorem mergedPosition_append {docs : List Document} (doc : Document) {id : TypeId}
    (inside : id.document < docs.length) :
    mergedPosition (docs ++ [doc]) id = mergedPosition docs id := by
  rw [mergedPosition, List.take_append_of_le_length (Nat.le_of_lt inside), mergedPosition]

/-- The declarations of the one document are those of all the documents. -/
theorem declarations_merged (docs : List Document) :
    declarations [0] [Document.merged docs] =
      (declarations (List.range docs.length) docs).map (·.moved (mergedPosition docs)) := by
  have one : declarations [0] [Document.merged docs] =
      (docs.flatMap (·.locatedTypes)).zipIdx.map (Declaration.ofLocated 0) := by
    rw [← Document.locatedTypes_merged]
    exact List.append_nil _
  rw [one]
  clear one
  induction docs using List.reverseRecOn with
  | nil => rfl
  | append_singleton docs doc ih =>
      have before : (declarations (List.range docs.length) (docs ++ [doc])).map
          (·.moved (mergedPosition (docs ++ [doc]))) =
            (declarations (List.range docs.length) docs).map (·.moved (mergedPosition docs)) := by
        have same : declarations (List.range docs.length) (docs ++ [doc]) =
            declarations (List.range docs.length) docs := by
          apply List.flatMap_congr
          intro position listed
          rw [List.getElem?_append_left (List.mem_range.mp listed)]
        rw [same]
        apply List.map_congr_left
        intro declaration member
        have inside := List.mem_range.mp (mem_declarations.mp member).1
        rw [Declaration.moved, mergedPosition_append doc inside, Declaration.moved]
      have last : (Document.declarations docs.length doc).map
          (·.moved (mergedPosition (docs ++ [doc]))) =
            (doc.locatedTypes.zipIdx (docs.flatMap (·.locatedTypes)).length).map
              (Declaration.ofLocated 0) := by
        rw [List.zipIdx_eq_map_add, Document.declarations, List.map_map, List.map_map]
        apply List.map_congr_left
        intro located member
        have position : mergedPosition (docs ++ [doc]) ⟨docs.length, located.2⟩ =
            ⟨0, (docs.flatMap (·.locatedTypes)).length + located.2⟩ := by
          rw [mergedPosition, List.take_left]
        simp only [Function.comp_apply, Declaration.ofLocated, Declaration.moved, position]
      have added : declarations (List.range (docs ++ [doc]).length) (docs ++ [doc]) =
          declarations (List.range docs.length) (docs ++ [doc]) ++
            Document.declarations docs.length doc := by
        rw [declarations, List.length_append, List.length_singleton, List.range_succ,
          List.flatMap_append, List.flatMap_singleton, List.getElem?_concat_length]
        rfl
      rw [List.flatMap_append, List.flatMap_singleton, List.zipIdx_append, List.map_append, ih,
        Nat.zero_add, added, List.map_append, before, last]

/-- The same names are found, at the positions that the declarations are moved to. -/
theorem moved_declareGroup_merged (docs : List Document) :
    (declareGroup (List.range docs.length) docs).1.Moved
      (declareGroup [0] [Document.merged docs]).1 (mergedPosition docs) := by
  intro name
  rw [find?_declareGroup, find?_declareGroup, declarations_merged, firstEntry, List.find?_map,
    firstEntry, Option.map_map, Option.map_map]
  rfl

/-- Two declarations are not moved to the same position. -/
theorem mergedPosition_injective {docs : List Document} {declaration other : Declaration}
    (member : declaration ∈ declarations (List.range docs.length) docs)
    (otherMember : other ∈ declarations (List.range docs.length) docs)
    (same : mergedPosition docs declaration.id = mergedPosition docs other.id) :
    declaration = other := by
  have positions : (declarations [0] [Document.merged docs]).map (·.id) =
      ((Document.merged docs).locatedTypes.zipIdx.map Prod.snd).map (TypeId.mk 0) := by
    have one : declarations [0] [Document.merged docs] =
        (Document.merged docs).locatedTypes.zipIdx.map (Declaration.ofLocated 0) :=
      List.append_nil _
    rw [one, List.map_map, List.map_map]
    rfl
  have distinct : ((declarations [0] [Document.merged docs]).map (·.id)).Nodup := by
    rw [positions, List.zipIdx_map_snd]
    refine List.Nodup.map ?_ List.nodup_range'
    intro index place equal
    exact (TypeId.mk.inj equal).2
  rw [declarations_merged, List.map_map] at distinct
  exact List.inj_on_of_nodup_map distinct member otherMember same

/-! ## Linked documents -/

theorem typesAt_linkAll (docs : List Document) (position : Nat) :
    typesAt (linkAll docs) position = (typesAt docs position).map fun (path, decl) =>
      (path, decl.mapRefs ((declareGroup (List.range docs.length) docs).1.resolve path)) := by
  cases found : docs[position]? with
  | none =>
      have missing := definitions_link (List.range docs.length) docs List.nodup_range position
      rw [found, Option.map_none, Option.map_eq_none_iff] at missing
      rw [typesAt, linkAll, missing, typesAt, found]
      rfl
  | some doc =>
      have listed := List.mem_range.mpr (List.getElem?_eq_some_iff.mp found).1
      obtain ⟨linked, placed, types⟩ := exists_linked List.nodup_range listed found
      rw [typesAt, linkAll, placed, Option.elim_some, types, typesAt, found, Option.elim_some]

/-- The types of all documents, document by document. -/
theorem flatMap_typesAt (docs : List Document) :
    (List.range docs.length).flatMap (typesAt docs) = docs.flatMap (·.locatedTypes) := by
  induction docs using List.reverseRecOn with
  | nil => rfl
  | append_singleton docs doc ih =>
      have before : (List.range docs.length).flatMap (typesAt (docs ++ [doc])) =
          (List.range docs.length).flatMap (typesAt docs) := by
        apply List.flatMap_congr
        intro position listed
        rw [typesAt, List.getElem?_append_left (List.mem_range.mp listed), typesAt]
      rw [List.length_append, List.length_singleton, List.range_succ, List.flatMap_append, before,
        ih, List.flatMap_append, List.flatMap_singleton, List.flatMap_singleton, typesAt,
        List.getElem?_concat_length, Option.elim_some]

section Merged

variable {docs : List Document} (fresh : ∀ doc ∈ docs, doc.IsFresh)
include fresh

theorem target_eq_none_of_mem_typesAt {position : Nat} {path : List String} {decl : TypeDecl}
    (located : (path, decl) ∈ typesAt docs position) {use : RefUse} {ref : Ref}
    (member : (use, ref) ∈ decl.refs) : ref.target = none := by
  rw [typesAt] at located
  cases found : docs[position]? with
  | none => simp [found] at located
  | some doc =>
      rw [found, Option.elim_some] at located
      apply fresh doc (List.mem_of_getElem? found) path use
      exact List.mem_flatMap.mpr ⟨_, located, List.mem_map_of_mem member⟩

/-- Resolved in the one document, a reference means the same as resolved among all of
them. -/
theorem mapRefs_resolve_merged {position : Nat} {path : List String} {decl : TypeDecl}
    (located : (path, decl) ∈ typesAt docs position) :
    decl.mapRefs ((declareGroup [0] [Document.merged docs]).1.resolve path) =
      (decl.mapRefs ((declareGroup (List.range docs.length) docs).1.resolve path)).retargeted
        (mergedPosition docs) := by
  rw [TypeDecl.retargeted, TypeDecl.mapRefs_mapRefs]
  apply TypeDecl.mapRefs_congr
  intro use ref member
  apply (moved_declareGroup_merged docs).resolve
  exact target_eq_none_of_mem_typesAt fresh located member

/-- The types of the one document after linking are those of all the documents, with
targets that follow the declarations. -/
theorem typesAt_linkAll_merged :
    typesAt (linkAll [Document.merged docs]) 0 =
      ((List.range docs.length).flatMap (typesAt (linkAll docs))).map fun (path, decl) =>
        (path, decl.retargeted (mergedPosition docs)) := by
  have one : typesAt [Document.merged docs] 0 =
      (List.range docs.length).flatMap (typesAt docs) := by
    rw [flatMap_typesAt, ← Document.locatedTypes_merged]
    rfl
  rw [typesAt_linkAll, one, List.map_flatMap, List.map_flatMap]
  apply List.flatMap_congr
  intro position _
  rw [typesAt_linkAll, List.map_map]
  apply List.map_congr_left
  intro located member
  have resolved := mapRefs_resolve_merged fresh member
  exact congrArg (located.1, ·) resolved

end Merged

/-! ## Scopes -/

/-- Whatever is declared in a scope is declared in the other one, at the position that it is
moved to and with targets that follow.  References mean declared types, and these are told
apart by their new positions. -/
structure Scope.Relocates (scope other : Scope) (move : TypeId → TypeId) : Prop where
  type : ∀ id decl, scope.type? id = some decl →
    other.type? (move id) = some (decl.retargeted move)
  closed : ∀ id decl, scope.type? id = some decl → ∀ use ref, (use, ref) ∈ decl.refs →
    ∀ target, ref.target = some target → (scope.type? target).isSome
  injective : ∀ id place, (scope.type? id).isSome → (scope.type? place).isSome →
    move id = move place → id = place

theorem Scope.type?_ofDocuments_eq (docs : List Document) (id : TypeId) :
    (ofDocuments docs).type? id = ((typesAt docs id.document)[id.index]?).map (·.2) := by
  simp only [type?, ofDocuments, typesAt, List.getElem?_toArray, List.getElem?_map]
  cases docs[id.document]? with
  | none => rfl
  | some doc =>
      simp only [Option.map_some, Option.bind_some, List.getElem?_toArray,
        Document.types_eq_map_locatedTypes, List.getElem?_map]
      rfl

/-- What is found after linking all documents was declared. -/
theorem exists_declaration_of_type? {docs : List Document} {id : TypeId} {decl : TypeDecl}
    (found : (Scope.ofDocuments (linkAll docs)).type? id = some decl) :
    ∃ declaration ∈ declarations (List.range docs.length) docs, declaration.id = id ∧
      decl = declaration.decl.mapRefs
        ((declareGroup (List.range docs.length) docs).1.resolve declaration.path) := by
  rw [Scope.type?_ofDocuments_eq, typesAt_linkAll, List.getElem?_map, Option.map_map,
    Option.map_eq_some_iff] at found
  obtain ⟨⟨path, original⟩, located, rfl⟩ := found
  have inside : id.document ∈ List.range docs.length := by
    rw [List.mem_range]
    by_contra outside
    rw [typesAt, List.getElem?_eq_none (Nat.not_lt.mp outside)] at located
    simp at located
  exact ⟨⟨path, original, id⟩, mem_declarations_iff_typesAt.mpr ⟨inside, located⟩, rfl, rfl⟩

theorem relocates_linkAll_merged {docs : List Document} (fresh : ∀ doc ∈ docs, doc.IsFresh) :
    (Scope.ofDocuments (linkAll docs)).Relocates
      (Scope.ofDocuments (linkAll [Document.merged docs])) (mergedPosition docs) := by
  constructor
  · intro id decl found
    obtain ⟨declaration, member, rfl, rfl⟩ := exists_declaration_of_type? found
    have moved : declaration.moved (mergedPosition docs) ∈
        declarations [0] [Document.merged docs] := by
      rw [declarations_merged]
      exact List.mem_map_of_mem member
    have located := (mem_declarations_iff_typesAt.mp member).2
    rw [← mapRefs_resolve_merged fresh (List.mem_of_getElem? located)]
    exact type?_link (by decide) moved
  · intro id decl found use ref member target means
    obtain ⟨declaration, declared, rfl, rfl⟩ := exists_declaration_of_type? found
    rw [TypeDecl.refs_mapRefs, List.mem_map] at member
    obtain ⟨⟨use, ref⟩, member, rfl, rfl⟩ := member
    have located := (mem_declarations_iff_typesAt.mp declared).2
    have fresh := target_eq_none_of_mem_typesAt fresh (List.mem_of_getElem? located) member
    rw [Index.resolve_eq, Ref.filled, fresh, Option.none_or] at means
    obtain ⟨declaration, declared, rfl⟩ := exists_declaration_of_lookup means
    rw [linkAll, type?_link List.nodup_range declared]
    rfl
  · intro id place found there same
    obtain ⟨decl, found⟩ := Option.isSome_iff_exists.mp found
    obtain ⟨other, there⟩ := Option.isSome_iff_exists.mp there
    obtain ⟨declaration, member, rfl, -⟩ := exists_declaration_of_type? found
    obtain ⟨otherDeclaration, otherMember, rfl, -⟩ := exists_declaration_of_type? there
    rw [mergedPosition_injective member otherMember same]

end DomainGen
