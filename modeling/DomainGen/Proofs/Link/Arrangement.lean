import DomainGen.Ddef.Parser
import DomainGen.Proofs.Link.Effect
import DomainGen.Proofs.Link.Scoping
import Mathlib.Data.List.Forall2
import Mathlib.Data.List.Nodup
import Mathlib.Data.List.Perm.Basic

/-!
# Linking in any order

The first declaration of a name wins, so in general it matters in which order
documents are linked and how their elements are arranged.  It does not where no two
types share a qualified name.  Then each name has one declaration in any order, at
its position there, and a rearrangement only moves the declarations.

The models that linking leaves are again rearrangements of each other, once their
targets follow the declarations that have moved.
-/

namespace DomainGen

/-! ## Rearranged models -/

/-- The same elements in another order, inside their packages, too. -/
inductive Reordered : List Element → List Element → Prop where
  | permute {elements others : List Element} :
      elements.Perm others → Reordered elements others
  | inside (front back : List Element) (name : String) (pos : Position)
      {inner moved : List Element} : Reordered inner moved →
        Reordered (front ++ .package name pos inner :: back)
          (front ++ .package name pos moved :: back)
  | trans {elements between others : List Element} :
      Reordered elements between → Reordered between others → Reordered elements others

namespace Reordered

variable {elements others : List Element} (reordered : Reordered elements others)
include reordered

/-- A rearrangement has the same types in the same packages. -/
theorem perm_locatedIn (path : List String) :
    (locatedIn path others).Perm (locatedIn path elements) := by
  induction reordered generalizing path with
  | permute perm =>
      unfold locatedIn
      rw [visitsIn_eq_flatMap, visitsIn_eq_flatMap]
      exact (perm.symm.flatMap_right _).filterMap _
  | inside front back name pos reordered ih =>
      simp only [locatedIn_append, locatedIn_cons path (.package ..) back, locatedIn_package]
      exact ((ih _).append_right _).append_left _
  | trans first second ihFirst ihSecond => exact (ihSecond path).trans (ihFirst path)

/-- A change of references changes a rearrangement alike. -/
theorem mapRefsIn (change : List String → RefUse → Ref → Ref) (path : List String) :
    Reordered (mapRefsIn change path elements) (DomainGen.mapRefsIn change path others) := by
  induction reordered generalizing path with
  | permute perm =>
      rw [mapRefsIn_eq_map, mapRefsIn_eq_map]
      exact .permute (perm.map _)
  | inside front back name pos reordered ih =>
      simp only [mapRefsIn_append, DomainGen.mapRefsIn, Element.mapRefs]
      exact .inside _ _ name pos (ih _)
  | trans first second ihFirst ihSecond => exact (ihFirst path).trans (ihSecond path)

end Reordered

/-- The same model with its elements in another order. -/
structure Definitions.Rearranged (defs other : Definitions) : Prop where
  source : other.source = defs.source
  elements : Reordered defs.elements other.elements

/-- The same document with the elements of its model in another order. -/
structure Document.Rearranged (doc other : Document) : Prop where
  path : other.path = doc.path
  definitions : Option.Rel Definitions.Rearranged doc.definitions other.definitions
  diagnostics : other.diagnostics = doc.diagnostics

/-- No reference of the document has a target yet. -/
def Document.IsFresh (doc : Document) : Prop :=
  ∀ path use ref, (path, use, ref) ∈ doc.locatedRefs → ref.target = none

/-- Reading a source text gives no reference a target. -/
theorem Document.IsRead.isFresh {doc : Document} (read : doc.IsRead) : doc.IsFresh := by
  intro path use ref member
  cases model : doc.definitions with
  | none => simp [locatedRefs, locatedTypes, model] at member
  | some defs =>
      simp only [locatedRefs, locatedTypes, model, Option.elim_some, List.mem_flatMap,
        List.mem_map, Prod.mk.injEq] at member
      obtain ⟨⟨_, decl⟩, located, ⟨use, ref⟩, inside, rfl, rfl, rfl⟩ := member
      exact (read.wellNamed model).unresolved _ decl located use ref inside

namespace Document.Rearranged

variable {doc other : Document} (rearranged : doc.Rearranged other)
include rearranged

theorem perm_locatedTypes : other.locatedTypes.Perm doc.locatedTypes := by
  obtain ⟨-, related, -⟩ := rearranged
  unfold locatedTypes
  generalize doc.definitions = model, other.definitions = otherModel at related ⊢
  cases related with
  | none => exact .refl _
  | some rearranged => exact rearranged.elements.perm_locatedIn []

theorem perm_locatedRefs : other.locatedRefs.Perm doc.locatedRefs :=
  rearranged.perm_locatedTypes.flatMap_right _

end Document.Rearranged

/-! ## Unique names -/

theorem keys_declarations (group : List Nat) (docs : List Document) :
    (declarations group docs).map (·.key) =
      group.flatMap fun position => (typesAt docs position).map locatedKey := by
  rw [declarations, List.map_flatMap]
  congr 1
  funext position
  rw [typesAt]
  cases docs[position]? with
  | none => rfl
  | some doc =>
      rw [Option.elim_some, Option.elim_some, Document.declarations, List.map_map]
      conv_rhs => rw [← List.zipIdx_map_fst 0 doc.locatedTypes, List.map_map]
      rfl

theorem takenWarnings_of_nodup {taken : List String} {located : List (List String × TypeDecl)}
    (unique : (taken ++ located.map locatedKey).Nodup) : takenWarnings taken located = [] := by
  induction located generalizing taken with
  | nil => rfl
  | cons first located ih =>
      have rest : (taken ++ [locatedKey first] ++ located.map locatedKey).Nodup := by
        simpa using unique
      have untaken : locatedKey first ∉ taken := by
        intro member
        exact List.disjoint_of_nodup_append unique member List.mem_cons_self
      rw [takenWarnings, if_neg untaken, ih rest, List.append_nil]

/-- No name is reported as taken where names are unique. -/
theorem takenWarningsAt_of_nodup {types : Nat → List (List String × TypeDecl)}
    {taken : List String} {group : List Nat}
    (unique : (taken ++ group.flatMap fun first => (types first).map locatedKey).Nodup)
    (position : Nat) : takenWarningsAt types taken group position = [] := by
  induction group generalizing taken with
  | nil => rfl
  | cons first group ih =>
      rw [List.flatMap_cons, ← List.append_assoc] at unique
      rw [takenWarningsAt, ih unique, List.append_nil]
      split
      · exact takenWarnings_of_nodup unique.of_append_left
      · rfl

/-- Where names are unique, a document is told about its open references only. -/
theorem linkFindings_of_nodup {group : List Nat} {docs : List Document}
    (distinct : group.Nodup) (unique : ((declarations group docs).map (·.key)).Nodup)
    {position : Nat} (listed : position ∈ group) {doc : Document}
    (found : docs[position]? = some doc) :
    linkFindings group docs position = doc.unresolvedWarnings (declareGroup group docs).1 := by
  rw [keys_declarations] at unique
  rw [linkFindings, takenWarningsAt_of_nodup (by simpa using unique), found,
    List.count_eq_one_of_mem distinct listed]
  simp

theorem find?_key_of_mem {declared : List Declaration} (unique : (declared.map (·.key)).Nodup)
    {declaration : Declaration} (member : declaration ∈ declared) :
    declared.find? (·.key == declaration.key) = some declaration := by
  cases found : declared.find? (·.key == declaration.key) with
  | none =>
      have differs := List.find?_eq_none.mp found declaration member
      simp at differs
  | some first =>
      have key : first.key = declaration.key := by simpa using List.find?_some found
      have first := List.mem_of_find?_eq_some found
      rw [List.inj_on_of_nodup_map unique first member key]

/-! ## Declarations that have moved -/

/-- The declaration at the position that another one is moved to. -/
def Declaration.moved (declaration : Declaration) (move : TypeId → TypeId) : Declaration :=
  { declaration with id := move declaration.id }

/-- The reference with a target that follows the declaration it means. -/
def Ref.retargeted (ref : Ref) (move : TypeId → TypeId) : Ref :=
  { ref with target := ref.target.map move }

/-- The model with targets that follow the declarations they mean. -/
def Definitions.retargeted (defs : Definitions) (move : TypeId → TypeId) : Definitions :=
  defs.mapRefs fun _ _ ref => ref.retargeted move

/-- The other index has the same entries for declarations that have moved. -/
def Index.Moved (index other : Index) (move : TypeId → TypeId) : Prop :=
  ∀ name, other.find? name = (index.find? name).map fun entry =>
    { entry with id := move entry.id }

theorem firstEntry_moved {declared others : List Declaration} {move : TypeId → TypeId}
    (unique : (declared.map (·.key)).Nodup)
    (sameKeys : (others.map (·.key)).Perm (declared.map (·.key)))
    (moved : ∀ declaration ∈ declared, declaration.moved move ∈ others) (name : String) :
    firstEntry others name = (firstEntry declared name).map fun entry =>
      { entry with id := move entry.id } := by
  unfold firstEntry
  cases found : declared.find? (·.key == name) with
  | none =>
      have unused : name ∉ declared.map (·.key) := by
        intro member
        obtain ⟨declaration, member, named⟩ := List.mem_map.mp member
        have differs := List.find?_eq_none.mp found declaration member
        simp [named] at differs
      have missing : others.find? (·.key == name) = none := by
        rw [List.find?_eq_none]
        intro declaration member named
        apply unused
        rw [← sameKeys.mem_iff, ← beq_iff_eq.mp named]
        exact List.mem_map_of_mem member
      rw [missing]
      rfl
  | some declaration =>
      have named : declaration.key = name := by simpa using List.find?_some found
      have member := moved declaration (List.mem_of_find?_eq_some found)
      -- The other list has no second declaration of the name that could come first.
      have there := find?_key_of_mem (sameKeys.nodup_iff.mpr unique) member
      have kept : (declaration.moved move).key = name := named
      rw [kept] at there
      rw [there]
      rfl

namespace Index.Moved

variable {index other : Index} {move : TypeId → TypeId} (moved : index.Moved other move)
include moved

theorem lookup (path : List String) (use : RefUse) (text : String) :
    other.lookup path use text = (index.lookup path use text).map move := by
  rw [Index.lookup, Index.lookup, List.map_findSome?]
  congr 1
  funext scope
  rw [Function.comp_apply, moved]
  cases index.find? (qualify scope text) with
  | none => rfl
  | some declared =>
      cases accepted : use.accepts declared.isEntity with
      | false => simp [accepted]
      | true => simp [accepted]

theorem resolve (path : List String) (use : RefUse) {ref : Ref} (fresh : ref.target = none) :
    other.resolve path use ref = (index.resolve path use ref).retargeted move := by
  rw [Index.resolve_eq, Index.resolve_eq, moved.lookup]
  simp [Ref.filled, Ref.retargeted, fresh]

theorem isResolved_resolve (path : List String) (use : RefUse) {ref : Ref}
    (fresh : ref.target = none) :
    (other.resolve path use ref).isResolved = (index.resolve path use ref).isResolved := by
  rw [moved.resolve path use fresh, Ref.isResolved, Ref.retargeted, Option.isSome_map,
    Ref.isResolved]

variable {doc rearranged : Document}

/-- A rearranged document is told about the same open references. -/
theorem perm_unresolvedWarnings (fresh : doc.IsFresh) (same : doc.Rearranged rearranged) :
    (rearranged.unresolvedWarnings other).Perm (doc.unresolvedWarnings index) := by
  have open_iff : ∀ located ∈ rearranged.locatedRefs,
      (!(other.resolve located.1 located.2.1 located.2.2).isResolved) =
        !(index.resolve located.1 located.2.1 located.2.2).isResolved := by
    intro located member
    have fresh := fresh _ _ _ (same.perm_locatedRefs.mem_iff.mp member)
    rw [moved.isResolved_resolve _ _ fresh]
  unfold Document.unresolvedWarnings
  rw [List.filter_congr open_iff]
  exact (same.perm_locatedRefs.filter _).map _

/-- Resolving a rearranged document gives a rearrangement of the resolved document, once
its targets follow the declarations that have moved. -/
theorem rel_definitions_resolved (fresh : doc.IsFresh) (same : doc.Rearranged rearranged) :
    Option.Rel Definitions.Rearranged
      ((doc.resolved index).definitions.map (·.retargeted move))
      (rearranged.resolved other).definitions := by
  unfold Document.IsFresh Document.locatedRefs Document.locatedTypes at fresh
  unfold Document.resolved
  obtain ⟨-, related, -⟩ := same
  generalize doc.definitions = model, rearranged.definitions = otherModel at fresh related ⊢
  cases related with
  | none => exact .none
  | @some defs other' related =>
      have resolved : mapRefsIn other.resolve [] defs.elements =
          ((defs.mapRefs index.resolve).retargeted move).elements := by
        rw [Definitions.retargeted, Definitions.mapRefs_mapRefs]
        apply mapRefsIn_congr
        intro path decl located use ref member
        apply moved.resolve
        apply fresh path use
        rw [List.mem_flatMap]
        exact ⟨_, located, List.mem_map_of_mem member⟩
      apply Option.Rel.some
      constructor
      · exact related.source
      · rw [← resolved]
        exact related.elements.mapRefsIn other.resolve []

end Index.Moved

/-! ## Rearranged documents -/

theorem mem_declarations_iff_typesAt {group : List Nat} {docs : List Document}
    {declaration : Declaration} :
    declaration ∈ declarations group docs ↔ declaration.id.document ∈ group ∧
      (typesAt docs declaration.id.document)[declaration.id.index]? =
        some (declaration.path, declaration.decl) := by
  rw [mem_declarations, typesAt]
  cases docs[declaration.id.document]? with
  | none => simp
  | some doc => simp

theorem rel_getElem?_of_forall₂ {docs others : List Document}
    (rearranged : List.Forall₂ Document.Rearranged docs others) (position : Nat) :
    Option.Rel Document.Rearranged docs[position]? others[position]? := by
  induction rearranged generalizing position with
  | nil => exact .none
  | cons first rest ih =>
      cases position with
      | zero => exact .some first
      | succ position => exact ih position

section Rearranging

variable {group order : List Nat} {docs others : List Document} (reordered : order.Perm group)
  (types : ∀ position, (typesAt others position).Perm (typesAt docs position))
include reordered types

theorem perm_keys_declarations :
    ((declarations order others).map (·.key)).Perm ((declarations group docs).map (·.key)) := by
  rw [keys_declarations, keys_declarations]
  apply reordered.flatMap
  intro position listed
  exact (types position).map locatedKey

/-- Every declaration of the original documents stands somewhere in the rearranged ones,
and its position tells where. -/
theorem exists_move : ∃ move : TypeId → TypeId,
    ∀ declaration ∈ declarations group docs,
      (move declaration.id).document = declaration.id.document ∧
        declaration.moved move ∈ declarations order others := by
  have place : ∀ id : TypeId, ∃ there : TypeId, ∀ declaration ∈ declarations group docs,
      declaration.id = id → there.document = id.document ∧
        { declaration with id := there } ∈ declarations order others := by
    intro id
    by_cases declared : ∃ declaration ∈ declarations group docs, declaration.id = id
    · obtain ⟨declaration, member, rfl⟩ := declared
      obtain ⟨listed, located⟩ := mem_declarations_iff_typesAt.mp member
      have stays := (types _).mem_iff.mpr (List.mem_of_getElem? located)
      obtain ⟨index, there⟩ := List.mem_iff_getElem?.mp stays
      refine ⟨⟨declaration.id.document, index⟩, ?_⟩
      -- A position tells which declaration it is, so one place serves all with this position.
      intro same member sameId
      obtain ⟨-, sameLocated⟩ := mem_declarations_iff_typesAt.mp member
      rw [sameId, located, Option.some.injEq] at sameLocated
      refine ⟨rfl, mem_declarations_iff_typesAt.mpr ⟨reordered.mem_iff.mpr listed, ?_⟩⟩
      exact there.trans (congrArg some sameLocated)
    · refine ⟨id, ?_⟩
      intro declaration member sameId
      exact (declared ⟨declaration, member, sameId⟩).elim
  choose move places using place
  exact ⟨move, fun declaration member => places declaration.id declaration member rfl⟩

theorem index_moved (unique : ((declarations group docs).map (·.key)).Nodup)
    {move : TypeId → TypeId} (moved : ∀ declaration ∈ declarations group docs,
      declaration.moved move ∈ declarations order others) :
    (declareGroup group docs).1.Moved (declareGroup order others).1 move := by
  intro name
  rw [find?_declareGroup, find?_declareGroup]
  exact firstEntry_moved unique (perm_keys_declarations reordered types) moved name

end Rearranging

/-- Linking in another order comes to the same where names are unique. -/
theorem link_perm {group order : List Nat} {docs : List Document} (distinct : group.Nodup)
    (reordered : order.Perm group) (unique : ((declarations group docs).map (·.key)).Nodup) :
    link order docs = link group docs := by
  have types : ∀ position, (typesAt docs position).Perm (typesAt docs position) :=
    fun position => .refl _
  -- The elements stay where they are, so no declaration moves.
  have stays : ∀ declaration ∈ declarations group docs,
      declaration.moved id ∈ declarations order docs := by
    intro declaration member
    rw [mem_declarations] at member ⊢
    exact ⟨reordered.mem_iff.mpr member.1, member.2⟩
  have sameIndex : (declareGroup order docs).1.resolve = (declareGroup group docs).1.resolve := by
    apply Index.resolve_congr
    intro name
    rw [index_moved reordered types unique stays name]
    exact Option.map_id'
  have uniqueOrder := (perm_keys_declarations reordered types).nodup_iff.mpr unique
  apply List.ext_getElem?
  intro position
  rw [getElem?_link_eq, getElem?_link_eq]
  cases found : docs[position]? with
  | none => rfl
  | some doc =>
      by_cases listed : position ∈ group
      · have listedOrder := reordered.mem_iff.mpr listed
        rw [linkFindings_of_nodup distinct unique listed found,
          linkFindings_of_nodup (reordered.nodup_iff.mpr distinct) uniqueOrder listedOrder found,
          Document.unresolvedWarnings_congr sameIndex]
        simp only [if_pos listed, if_pos listedOrder, Document.resolved_congr sameIndex]
      · have unlisted : position ∉ order := fun member => listed (reordered.mem_iff.mp member)
        rw [linkFindings_of_not_mem listed, linkFindings_of_not_mem unlisted]
        simp only [if_neg listed, if_neg unlisted]

/-- Where no two types share a qualified name, the arrangement does not matter for
linking.  However the documents are reordered, and the elements inside them and their
packages, every declaration of a document stands somewhere in the rearranged document
(`move` tells where), the linked models are again rearrangements of each other with
targets that follow the declarations, and each document is told about the same open
references and nothing else.  Reordering the documents alone changes nothing. -/
theorem link_rearranged (group order : List Nat) (docs others : List Document)
    (distinct : group.Nodup) (reordered : order.Perm group)
    (rearranged : List.Forall₂ Document.Rearranged docs others)
    (fresh : ∀ position ∈ group, ∀ doc, docs[position]? = some doc → doc.IsFresh)
    (unique : ((declarations group docs).map (·.key)).Nodup) :
    (∃ move : TypeId → TypeId,
      (∀ declaration ∈ declarations group docs,
        (move declaration.id).document = declaration.id.document ∧
          declaration.moved move ∈ declarations order others) ∧
      ∀ position ∈ group, ∀ doc, docs[position]? = some doc →
        ∃ linked other warnings otherWarnings,
          (link group docs)[position]? = some linked ∧
          (link order others)[position]? = some other ∧
          Option.Rel Definitions.Rearranged (linked.definitions.map (·.retargeted move))
            other.definitions ∧
          linked.diagnostics = doc.diagnostics ++ warnings ∧
          other.diagnostics = doc.diagnostics ++ otherWarnings ∧
          otherWarnings.Perm warnings ∧
          ∀ warning ∈ warnings, warning.concern = .linking) ∧
    link order docs = link group docs := by
  have types : ∀ position, (typesAt others position).Perm (typesAt docs position) := by
    intro position
    have related := rel_getElem?_of_forall₂ rearranged position
    unfold typesAt
    generalize docs[position]? = doc, others[position]? = other at related ⊢
    cases related with
    | none => exact .refl _
    | some related => exact related.perm_locatedTypes
  refine ⟨?_, link_perm distinct reordered unique⟩
  obtain ⟨move, moves⟩ := exists_move reordered types
  refine ⟨move, moves, ?_⟩
  intro position listed doc found
  obtain ⟨other, otherFound, related⟩ : ∃ other, others[position]? = some other ∧
      doc.Rearranged other := by
    have related := rel_getElem?_of_forall₂ rearranged position
    rw [found] at related
    generalize others[position]? = other at related ⊢
    cases related with
    | some related => exact ⟨_, rfl, related⟩
  have fresh := fresh position listed doc found
  have moved := index_moved reordered types unique fun declaration member =>
    (moves declaration member).2
  have listedOrder := reordered.mem_iff.mpr listed
  have uniqueOrder := (perm_keys_declarations reordered types).nodup_iff.mpr unique
  have linked := getElem?_link_eq group docs position
  have otherLinked := getElem?_link_eq order others position
  rw [found, Option.map_some, if_pos listed,
    linkFindings_of_nodup distinct unique listed found] at linked
  rw [otherFound, Option.map_some, if_pos listedOrder, linkFindings_of_nodup
    (reordered.nodup_iff.mpr distinct) uniqueOrder listedOrder otherFound] at otherLinked
  refine ⟨_, _, _, (other.unresolvedWarnings (declareGroup order others).1).map
    (·.placedIn doc.path), linked, otherLinked, moved.rel_definitions_resolved fresh related,
    Document.diagnostics_reportAll _ _, ?_, ?_, ?_⟩
  · rw [← related.diagnostics, ← related.path]
    exact Document.diagnostics_reportAll _ _
  · exact (moved.perm_unresolvedWarnings fresh related).map _
  · intro placed member
    obtain ⟨warning, left, rfl⟩ := List.mem_map.mp member
    rw [Diagnostic.concern_placedIn, doc.concern_unresolvedWarnings _ left]

/-- A type that refers to its neighbour, to a type outside of its package and to nothing. -/
def shelvedEntity : TypeDecl :=
  .entity ⟨"A", some { text := "B" }, [⟨"x", { text := "C" }, false, false, {}⟩,
    ⟨"y", { text := "D" }, false, false, {}⟩], {}⟩

/-- A package with two types, and a second document with a type that one of them refers
to. -/
def shelvedDocs : List Document :=
  let elements := [.package "p.q" {} [.type shelvedEntity, .type (.entity { name := "B" })],
    .type (.enum { name := "E" })]
  [{ definitions := some { elements } },
    { definitions := some { elements := [.type (.enum { name := "C" })] } }]

/-- The same documents with other elements to the front. -/
def reshelvedDocs : List Document :=
  let elements := [.type (.enum { name := "E" }),
    .package "p.q" {} [.type (.entity { name := "B" }), .type shelvedEntity]]
  [{ definitions := some { elements } },
    { definitions := some { elements := [.type (.enum { name := "C" })] } }]

theorem link_rearranged_shelvedDocs :
    let targets := fun doc : Document => doc.locatedRefs.map (·.2.2.target)
    (∃ move linked other,
      (link [0, 1] shelvedDocs)[0]? = some linked ∧
      (link [1, 0] reshelvedDocs)[0]? = some other ∧
      Option.Rel Definitions.Rearranged (linked.definitions.map (·.retargeted move))
        other.definitions ∧
      targets linked = [some ⟨0, 1⟩, some ⟨1, 0⟩, none] ∧
      targets other = [some ⟨0, 1⟩, some ⟨1, 0⟩, none]) ∧
    link [1, 0] shelvedDocs = link [0, 1] shelvedDocs := by
  intro targets
  have rearranged : List.Forall₂ Document.Rearranged shelvedDocs reshelvedDocs := by
    apply List.Forall₂.cons
    · refine ⟨rfl, .some ⟨rfl, ?_⟩, rfl⟩
      apply Reordered.trans
      · exact .inside [] _ "p.q" {} (.permute (.swap ..))
      · exact .permute (.swap ..)
    · exact .cons ⟨rfl, .some ⟨rfl, .permute (.refl _)⟩, rfl⟩ .nil
  have fresh : ∀ doc ∈ shelvedDocs, ∀ located ∈ doc.locatedRefs, located.2.2.target = none := by
    decide +kernel
  obtain ⟨⟨move, -, linked⟩, same⟩ := link_rearranged [0, 1] [1, 0] shelvedDocs reshelvedDocs
    (by decide) (.swap ..) rearranged
    (fun position _ doc found path use ref member =>
      fresh doc (List.mem_of_getElem? found) _ member) (by decide +kernel)
  obtain ⟨one, other, -, -, found, otherFound, related, -⟩ :=
    linked 0 (by decide) _ rfl
  have before : ((link [0, 1] shelvedDocs)[0]?).map targets =
      some [some ⟨0, 1⟩, some ⟨1, 0⟩, none] := by
    decide +kernel
  have after : ((link [1, 0] reshelvedDocs)[0]?).map targets =
      some [some ⟨0, 1⟩, some ⟨1, 0⟩, none] := by
    decide +kernel
  rw [found, Option.map_some, Option.some.injEq] at before
  rw [otherFound, Option.map_some, Option.some.injEq] at after
  exact ⟨⟨move, one, other, found, otherFound, related, before, after⟩, same⟩

end DomainGen
