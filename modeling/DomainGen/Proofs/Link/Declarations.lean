import DomainGen.Link.Resolve
import DomainGen.Proofs.Model.References

/-!
# What is declared, and what linking makes of it

The types of a group of documents in order of declaration, each with its
package and its position.  The index that linking builds finds, under a
qualified name, the first of these declarations that has the name
(`find?_declareGroup`).

Linking changes each document of the group by itself: every reference in it is
resolved, and nothing else of its model changes (`definitions_link`).
-/

namespace DomainGen

/-- A declared type, the path of its package and its position. -/
structure Declaration where
  path : List String
  decl : TypeDecl
  id : TypeId
  deriving Repr

namespace Declaration

/-- The segments of the path and the name. -/
def fullName (declaration : Declaration) : List String :=
  declaration.path ++ [declaration.decl.name]

/-- The qualified name that the declaration is known by. -/
def key (declaration : Declaration) : String := qualify declaration.path declaration.decl.name

/-- What is known about the declaration. -/
def entry (declaration : Declaration) : Declared := ⟨declaration.id, declaration.decl.isEntity⟩

/-- The declaration of a located type of the `document`-th document. -/
def ofLocated (document : Nat) (located : (List String × TypeDecl) × Nat) : Declaration :=
  ⟨located.1.1, located.1.2, ⟨document, located.2⟩⟩

end Declaration

/-- The declarations of the `document`-th document. -/
def Document.declarations (document : Nat) (doc : Document) : List Declaration :=
  doc.locatedTypes.zipIdx.map (Declaration.ofLocated document)

/-- The declarations of the documents at the given positions, in that order. -/
def declarations (group : List Nat) (docs : List Document) : List Declaration :=
  group.flatMap fun position => (docs[position]?).elim [] (·.declarations position)

theorem mem_declarations {group : List Nat} {docs : List Document} {declaration : Declaration} :
    declaration ∈ declarations group docs ↔
      declaration.id.document ∈ group ∧
        ∃ doc, docs[declaration.id.document]? = some doc ∧
          doc.locatedTypes[declaration.id.index]? = some (declaration.path, declaration.decl) := by
  rw [declarations, List.mem_flatMap]
  constructor
  · rintro ⟨position, listed, member⟩
    cases found : docs[position]? with
    | none => simp [found] at member
    | some doc =>
        rw [found, Option.elim_some, Document.declarations, List.mem_map] at member
        rcases member with ⟨⟨located, index⟩, member, rfl⟩
        rw [List.mem_zipIdx_iff_getElem?] at member
        exact ⟨listed, doc, found, member⟩
  · rintro ⟨listed, doc, found, located⟩
    refine ⟨declaration.id.document, listed, ?_⟩
    rw [found, Option.elim_some, Document.declarations, List.mem_map]
    refine ⟨((declaration.path, declaration.decl), declaration.id.index), ?_, rfl⟩
    rwa [List.mem_zipIdx_iff_getElem?]

/-! ## The index -/

/-- What is known about the first declaration of a qualified name. -/
def firstEntry (declared : List Declaration) (name : String) : Option Declared :=
  (declared.find? (·.key == name)).map (·.entry)

theorem firstEntry_append (declared others : List Declaration) (name : String) :
    firstEntry (declared ++ others) name =
      (firstEntry declared name).or (firstEntry others name) := by
  rw [firstEntry, List.find?_append, Option.map_or]
  rfl

section Index

variable (index : Index) (name : String)

/-- Declaring a type adds it to the index unless its name is taken. -/
theorem Index.find?_declare (document : Nat) (doc : Document)
    (located : (List String × TypeDecl) × Nat) :
    (Index.declare document (index, doc) located).1.find? name =
      (index.find? name).or (firstEntry [.ofLocated document located] name) := by
  rcases located with ⟨⟨path, decl⟩, position⟩
  simp only [Index.declare, firstEntry, List.find?_cons, List.find?_nil,
    Declaration.ofLocated, Declaration.key]
  cases taken : index.find? (qualify path decl.name) with
  | some declared =>
      cases same : qualify path decl.name == name with
      | false => simp
      | true =>
          rw [← beq_iff_eq.mp same, taken]
          rfl
  | none =>
      simp only [Index.find?, List.find?_append, List.find?_cons, List.find?_nil, Option.map_or]
      cases qualify path decl.name == name with
      | false => rfl
      | true => rfl

theorem Index.find?_foldl_declare (document : Nat) (doc : Document)
    (located : List ((List String × TypeDecl) × Nat)) :
    (located.foldl (Index.declare document) (index, doc)).1.find? name =
      (index.find? name).or (firstEntry (located.map (.ofLocated document)) name) := by
  induction located generalizing index doc with
  | nil => simp [firstEntry]
  | cons first located ih =>
      rw [List.foldl_cons, ih, Index.find?_declare, Option.or_assoc, ← firstEntry_append,
        List.map_cons, List.singleton_append]

theorem Index.definitions_foldl_declare (document : Nat) (doc : Document)
    (located : List ((List String × TypeDecl) × Nat)) :
    (located.foldl (Index.declare document) (index, doc)).2.definitions = doc.definitions := by
  induction located generalizing index doc with
  | nil => rfl
  | cons first located ih =>
      rw [List.foldl_cons, ih]
      simp only [Index.declare]
      split
      · rfl
      · rfl

/-- Declare the types of the document at one position of a workspace. -/
def declareAt (state : Index × List Document) (position : Nat) : Index × List Document :=
  match state.2[position]? with
  | none => state
  | some doc =>
      let declared := state.1.declareAll position doc
      (declared.1, state.2.set position declared.2)

theorem declareGroup_eq_foldl (group : List Nat) (docs : List Document) :
    declareGroup group docs = group.foldl declareAt ([], docs) := rfl

theorem definitions_declareAt (docs : List Document) (position : Nat) :
    (declareAt (index, docs) position).2.map (·.definitions) = docs.map (·.definitions) := by
  unfold declareAt
  split
  · rfl
  · next doc found =>
    apply List.ext_getElem?
    intro other
    rw [List.getElem?_map, List.getElem?_map, List.getElem?_set]
    split
    · next same =>
      subst same
      rcases List.getElem?_eq_some_iff.mp found with ⟨inside, rfl⟩
      simp [inside, Index.declareAll, Index.definitions_foldl_declare]
    · rfl

/-- Only the models of the documents count for what is declared. -/
theorem declarations_congr {docs others : List Document} (group : List Nat)
    (same : docs.map (·.definitions) = others.map (·.definitions)) :
    declarations group docs = declarations group others := by
  have byDefinitions : ∀ docs, declarations group docs = group.flatMap fun position =>
      ((docs.map (·.definitions))[position]?).elim [] fun definitions =>
        ({ definitions } : Document).declarations position := by
    intro docs
    simp only [List.getElem?_map, Option.elim_map]
    rfl
  rw [byDefinitions, same, byDefinitions]

theorem find?_declareAt (docs : List Document) (position : Nat) :
    (declareAt (index, docs) position).1.find? name =
      (index.find? name).or (firstEntry (declarations [position] docs) name) := by
  unfold declareAt
  split
  · next missing =>
    have missing : docs[position]? = none := missing
    simp [declarations, missing, firstEntry]
  · next doc found =>
    have found : docs[position]? = some doc := found
    simp only [declarations, List.flatMap_cons, List.flatMap_nil, List.append_nil, found,
      Option.elim_some]
    exact Index.find?_foldl_declare index name position doc doc.locatedTypes.zipIdx

theorem find?_foldl_declareAt (group : List Nat) (docs : List Document) :
    (group.foldl declareAt (index, docs)).1.find? name =
      (index.find? name).or (firstEntry (declarations group docs) name) := by
  induction group generalizing index docs with
  | nil => simp [declarations, firstEntry]
  | cons position group ih =>
      have rest := declarations_congr group (definitions_declareAt index docs position)
      have both : declarations (position :: group) docs =
          declarations [position] docs ++ declarations group docs := by
        simp [declarations]
      rw [List.foldl_cons, ih, find?_declareAt, rest, Option.or_assoc, ← firstEntry_append, both]

end Index

/-- The index finds the first declaration of a qualified name. -/
theorem find?_declareGroup (group : List Nat) (docs : List Document) (name : String) :
    (declareGroup group docs).1.find? name = firstEntry (declarations group docs) name := by
  rw [declareGroup_eq_foldl, find?_foldl_declareAt]
  rfl

theorem definitions_foldl_declareAt (group : List Nat) (state : Index × List Document) :
    (group.foldl declareAt state).2.map (·.definitions) = state.2.map (·.definitions) := by
  induction group generalizing state with
  | nil => rfl
  | cons position group ih => rw [List.foldl_cons, ih, definitions_declareAt]

/-! ## Linked documents -/

theorem Document.definitions_resolve (doc : Document) (index : Index) :
    (doc.resolve index).definitions = doc.definitions.map (·.mapRefs index.resolve) := by
  unfold Document.resolve
  split
  · next missing => simp [missing]
  · next defs found =>
    rw [found]
    exact Document.definitions_foldl_report _ (fun (use, ref) => unresolvedWarning use ref) _

/-- Changing the items at distinct positions changes each of them once. -/
theorem getElem?_foldl_modify {α : Type} (change : α → α) (group : List Nat) (items : List α)
    (distinct : group.Nodup) (position : Nat) :
    (group.foldl (fun items position => items.modify position change) items)[position]? =
      (items[position]?).map fun item => if position ∈ group then change item else item := by
  induction group generalizing items with
  | nil => simp
  | cons first group ih =>
      rw [List.nodup_cons] at distinct
      rw [List.foldl_cons, ih _ distinct.2, List.getElem?_modify]
      cases items[position]? with
      | none => simp
      | some item =>
          by_cases same : first = position
          · subst same
            simp [distinct.1]
          · simp [same, Ne.symm same]

theorem getElem?_link (group : List Nat) (docs : List Document) (distinct : group.Nodup)
    (position : Nat) :
    (link group docs)[position]? =
      ((declareGroup group docs).2[position]?).map fun doc =>
        if position ∈ group then doc.resolve (declareGroup group docs).1 else doc :=
  getElem?_foldl_modify (fun doc : Document => doc.resolve (declareGroup group docs).1) group
    (declareGroup group docs).2 distinct position

/-- Linking resolves the references of the models in the group, and leaves the
models as they are otherwise. -/
theorem definitions_link (group : List Nat) (docs : List Document) (distinct : group.Nodup)
    (position : Nat) :
    ((link group docs)[position]?).map (·.definitions) =
      (docs[position]?).map fun doc =>
        if position ∈ group then
          doc.definitions.map (·.mapRefs (declareGroup group docs).1.resolve)
        else doc.definitions := by
  have commutes : ∀ doc : Document,
      (if position ∈ group then doc.resolve (declareGroup group docs).1 else doc).definitions =
        if position ∈ group then
          doc.definitions.map (·.mapRefs (declareGroup group docs).1.resolve)
        else doc.definitions := by
    intro doc
    split
    · exact doc.definitions_resolve _
    · rfl
  have kept : (declareGroup group docs).2.map (·.definitions) = docs.map (·.definitions) :=
    definitions_foldl_declareAt group ([], docs)
  have kept := congrArg (·[position]?) kept
  simp only [List.getElem?_map] at kept
  rw [getElem?_link group docs distinct, Option.map_map]
  simp only [Function.comp_def, commutes]
  generalize (declareGroup group docs).1 = index
  generalize (declareGroup group docs).2[position]? = reported at kept ⊢
  generalize docs[position]? = doc at kept ⊢
  calc
    _ = (reported.map (·.definitions)).map fun definitions =>
          if position ∈ group then definitions.map (·.mapRefs index.resolve)
          else definitions := by rw [Option.map_map]; rfl
    _ = _ := by rw [kept, Option.map_map]; rfl

end DomainGen
