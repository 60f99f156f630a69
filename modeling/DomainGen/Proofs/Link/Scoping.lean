import DomainGen.Proofs.Ddef.Names
import DomainGen.Proofs.Link.Declarations
import Mathlib.Data.List.Find
import Mathlib.Data.List.Forall2

/-!
# Linking is lexical scoping

What a reference means is said here without an index and without joined names:
from the package around the reference outward, the first declaration whose
segments are those of the package and of the reference counts, if the reference
can mean it (`Means`).

For documents that were read from source texts, linking gives each reference
exactly this meaning.  The point is that joining the segments of a name forgets
nothing, since no name has a dot in it.
-/

namespace DomainGen

/-- The first declaration of a full name. -/
def firstNamed (declared : List Declaration) (name : List String) : Option Declaration :=
  declared.find? (·.fullName == name)

/-- A reference inside the package at `path` finds a type that it can mean in the
package that is `depth` segments deep. -/
def FoundAt (declared : List Declaration) (path : List String) (use : RefUse) (text : String)
    (depth : Nat) (declaration : Declaration) : Prop :=
  firstNamed declared (path.take depth ++ Text.segments '.' text) = some declaration ∧
    use.accepts declaration.decl.isEntity

/-- What a reference inside the package at `path` means: what it finds in the
innermost package in which it finds anything. -/
def Means (declared : List Declaration) (path : List String) (use : RefUse) (text : String)
    (declaration : Declaration) : Prop :=
  ∃ depth ≤ path.length, FoundAt declared path use text depth declaration ∧
    ∀ deeper, depth < deeper → deeper ≤ path.length →
      ∀ other, ¬ FoundAt declared path use text deeper other

/-- A reference before and after it is resolved. -/
structure ResolvesTo (declared : List Declaration)
    (before after : List String × RefUse × Ref) : Prop where
  path : after.1 = before.1
  use : after.2.1 = before.2.1
  text : after.2.2.text = before.2.2.text
  pos : after.2.2.pos = before.2.2.pos
  some_iff : ∀ id, after.2.2.target = some id ↔
    ∃ declaration, Means declared before.1 before.2.1 before.2.2.text declaration ∧
      declaration.id = id
  none_iff : after.2.2.target = none ↔
    ∀ declaration, ¬ Means declared before.1 before.2.1 before.2.2.text declaration

/-- The model of the document, if it has one, was read from a source text. -/
def Document.IsRead (doc : Document) : Prop :=
  ∀ defs, doc.definitions = some defs →
    ∃ source read, Ddef.parse source = .ok read ∧ defs.elements = read.elements

/-- Every datatype of the document is marked as its name says. -/
def Document.IsTagged (doc : Document) : Prop :=
  ∀ path type, (path, .dataType type) ∈ doc.locatedTypes →
    type.primitive = Primitive.classify type.name

/-! ## Names of the documents -/

/-- The types of a document that was read are those of a source text. -/
theorem Document.IsRead.exists_parsed {doc : Document} (read : doc.IsRead) {path : List String}
    {decl : TypeDecl} (located : (path, decl) ∈ doc.locatedTypes) :
    ∃ source parsed, Ddef.parse source = .ok parsed ∧ (path, decl) ∈ parsed.locatedTypes := by
  cases model : doc.definitions with
  | none => simp [locatedTypes, model] at located
  | some defs =>
      obtain ⟨source, parsed, succeeded, same⟩ := read defs model
      rw [locatedTypes, model, Option.elim_some, Definitions.locatedTypes, Definitions.visits,
        same] at located
      exact ⟨source, parsed, succeeded, located⟩

theorem Document.IsRead.isTagged {doc : Document} (read : doc.IsRead) : doc.IsTagged := by
  intro path type located
  obtain ⟨source, parsed, succeeded, located⟩ := read.exists_parsed located
  exact Ddef.primitive_of_parse succeeded located

theorem Document.IsRead.wellNamed {doc : Document} (read : doc.IsRead) {defs : Definitions}
    (found : doc.definitions = some defs) : defs.WellNamed := by
  rcases read defs found with ⟨source, parsed, succeeded, same⟩
  have located : defs.locatedTypes = parsed.locatedTypes := by
    simp only [Definitions.locatedTypes, Definitions.visits, same]
  have named := Ddef.wellNamed succeeded
  constructor
  · rw [located]
    exact named.path
  · rw [located]
    exact named.name
  · rw [located]
    exact named.text
  · rw [located]
    exact named.unresolved

/-- The segments of every declaration are names. -/
def SegmentsNamed (declared : List Declaration) : Prop :=
  ∀ declaration ∈ declared, ∀ segment ∈ declaration.fullName, Ddef.IsName segment

theorem segmentsNamed_declarations {group : List Nat} {docs : List Document}
    (read : ∀ position ∈ group, ∀ doc, docs[position]? = some doc → doc.IsRead) :
    SegmentsNamed (declarations group docs) := by
  intro declaration member segment inside
  rcases mem_declarations.mp member with ⟨listed, doc, found, located⟩
  have located := List.mem_of_getElem? located
  cases model : doc.definitions with
  | none => simp [Document.locatedTypes, model] at located
  | some defs =>
      have named := (read _ listed doc found).wellNamed model
      rw [Document.locatedTypes, model, Option.elim_some] at located
      rw [Declaration.fullName, List.mem_append, List.mem_singleton] at inside
      rcases inside with inside | rfl
      · exact named.path _ _ located segment inside
      · exact named.name _ _ located

/-- A joined name determines its segments. -/
theorem key_eq_join_iff {declared : List Declaration} (named : SegmentsNamed declared)
    {declaration : Declaration} (member : declaration ∈ declared) {segments : List String}
    (some : segments ≠ []) (names : ∀ segment ∈ segments, Ddef.IsName segment) :
    declaration.key = Text.join "." segments ↔ declaration.fullName = segments := by
  have joined : declaration.key = Text.join "." declaration.fullName :=
    qualify_eq_join declaration.path declaration.decl.name
  rw [joined]
  constructor
  · intro equal
    exact Text.join_injective (by simp [Declaration.fullName]) some
      (fun segment inside => (named declaration member segment inside).dotFree)
      (fun segment inside => (names segment inside).dotFree) equal
  · rintro rfl
    rfl

/-- Looking a name up by its joined segments finds what has these segments. -/
theorem firstEntry_qualify {declared : List Declaration} (named : SegmentsNamed declared)
    {path : List String} (names : ∀ segment ∈ path, Ddef.IsName segment) {text : String}
    (qualified : Ddef.IsQualified text) :
    firstEntry declared (qualify path text) =
      (firstNamed declared (path ++ Text.segments '.' text)).map (·.entry) := by
  rcases qualified with ⟨parts, some, partNames, rfl⟩
  rw [qualify_join path some,
    Text.segments_join some fun part member => (partNames part member).dotFree]
  have someSegments : path ++ parts ≠ [] := by simp [some]
  have segmentNames : ∀ segment ∈ path ++ parts, Ddef.IsName segment := by
    intro segment member
    rcases List.mem_append.mp member with member | member
    · exact names segment member
    · exact partNames segment member
  rw [firstEntry, firstNamed]
  congr 1
  apply List.find?_congr
  intro declaration member
  rw [Bool.eq_iff_iff, beq_iff_eq, beq_iff_eq]
  exact key_eq_join_iff named member someSegments segmentNames

/-! ## Looking outward -/

/-- Trying numbers from a bound downward finds the greatest one with a result. -/
theorem findSome?_reverse_range {α : Type} (result : Nat → Option α) (bound : Nat) (value : α) :
    (List.range (bound + 1)).reverse.findSome? result = some value ↔
      ∃ depth ≤ bound, result depth = some value ∧
        ∀ deeper, depth < deeper → deeper ≤ bound → result deeper = none := by
  induction bound with
  | zero =>
      have only : (List.range (0 + 1)).reverse = [0] := rfl
      rw [only, List.findSome?_singleton]
      constructor
      · intro found
        exact ⟨0, Nat.le_refl 0, found, fun deeper above below => by omega⟩
      · rintro ⟨depth, below, found, -⟩
        rwa [Nat.le_zero.mp below] at found
  | succ bound ih =>
      rw [List.range_succ, List.reverse_append, List.reverse_singleton, List.singleton_append,
        List.findSome?_cons]
      cases outermost : result (bound + 1) with
      | some found =>
          constructor
          · intro same
            refine ⟨bound + 1, Nat.le_refl _, outermost.trans same, ?_⟩
            intro deeper above below
            omega
          · rintro ⟨depth, below, found', nothing⟩
            rcases Nat.lt_or_eq_of_le below with less | rfl
            · rw [nothing (bound + 1) less (Nat.le_refl _)] at outermost
              contradiction
            · rw [← outermost, found']
      | none =>
          rw [ih]
          constructor
          · rintro ⟨depth, below, found, nothing⟩
            refine ⟨depth, Nat.le_succ_of_le below, found, ?_⟩
            intro deeper above below'
            rcases Nat.lt_or_eq_of_le below' with less | rfl
            · exact nothing deeper above (Nat.le_of_lt_succ less)
            · exact outermost
          · rintro ⟨depth, below, found, nothing⟩
            rcases Nat.lt_or_eq_of_le below with less | rfl
            · exact ⟨depth, Nat.le_of_lt_succ less, found, fun deeper above below' =>
                nothing deeper above (Nat.le_succ_of_le below')⟩
            · rw [outermost] at found
              contradiction

/-- What the index has for a reference in the package that is `depth` segments
deep. -/
def Index.at? (index : Index) (path : List String) (use : RefUse) (text : String)
    (depth : Nat) : Option TypeId :=
  match index.find? (qualify (path.take depth) text) with
  | some declared => if use.accepts declared.isEntity then some declared.id else none
  | none => none

theorem Index.lookup_eq_findSome? (index : Index) (path : List String) (use : RefUse)
    (text : String) :
    index.lookup path use text =
      (List.range (path.length + 1)).reverse.findSome? (index.at? path use text) := by
  rw [Index.lookup, outward, List.findSome?_map]
  rfl

section Lookup

variable {group : List Nat} {docs : List Document} {path : List String} {use : RefUse}
  {text : String}

theorem at?_eq_some_iff (named : SegmentsNamed (declarations group docs))
    (names : ∀ segment ∈ path, Ddef.IsName segment) (qualified : Ddef.IsQualified text)
    {depth : Nat} {id : TypeId} :
    (declareGroup group docs).1.at? path use text depth = some id ↔
      ∃ declaration, FoundAt (declarations group docs) path use text depth declaration ∧
        declaration.id = id := by
  have inside : ∀ segment ∈ path.take depth, Ddef.IsName segment :=
    fun segment member => names segment (List.mem_of_mem_take member)
  unfold FoundAt
  rw [Index.at?, find?_declareGroup, firstEntry_qualify named inside qualified]
  cases firstNamed (declarations group docs) (path.take depth ++ Text.segments '.' text) with
  | none => simp
  | some declaration => simp [Declaration.entry]

theorem at?_eq_none_iff (named : SegmentsNamed (declarations group docs))
    (names : ∀ segment ∈ path, Ddef.IsName segment) (qualified : Ddef.IsQualified text)
    {depth : Nat} :
    (declareGroup group docs).1.at? path use text depth = none ↔
      ∀ declaration, ¬ FoundAt (declarations group docs) path use text depth declaration := by
  rw [Option.eq_none_iff_forall_ne_some]
  constructor
  · intro nothing declaration found
    exact nothing declaration.id ((at?_eq_some_iff named names qualified).mpr ⟨_, found, rfl⟩)
  · intro nothing id found
    rcases (at?_eq_some_iff named names qualified).mp found with ⟨declaration, found, -⟩
    exact nothing declaration found

/-- The look-up finds what a reference means. -/
theorem lookup_eq_some_iff (named : SegmentsNamed (declarations group docs))
    (names : ∀ segment ∈ path, Ddef.IsName segment) (qualified : Ddef.IsQualified text)
    {id : TypeId} :
    (declareGroup group docs).1.lookup path use text = some id ↔
      ∃ declaration, Means (declarations group docs) path use text declaration ∧
        declaration.id = id := by
  rw [Index.lookup_eq_findSome?, findSome?_reverse_range]
  constructor
  · rintro ⟨depth, within, found, nothing⟩
    rcases (at?_eq_some_iff named names qualified).mp found with ⟨declaration, found, same⟩
    refine ⟨declaration, ⟨depth, within, found, ?_⟩, same⟩
    intro deeper above below
    exact (at?_eq_none_iff named names qualified).mp (nothing deeper above below)
  · rintro ⟨declaration, ⟨depth, within, found, nothing⟩, same⟩
    refine ⟨depth, within, (at?_eq_some_iff named names qualified).mpr ⟨_, found, same⟩, ?_⟩
    intro deeper above below
    exact (at?_eq_none_iff named names qualified).mpr (nothing deeper above below)

theorem resolvesTo_resolve (named : SegmentsNamed (declarations group docs))
    (names : ∀ segment ∈ path, Ddef.IsName segment) {ref : Ref}
    (qualified : Ddef.IsQualified ref.text) (unresolved : ref.target = none) :
    ResolvesTo (declarations group docs) (path, use, ref)
      (path, use, (declareGroup group docs).1.resolve path use ref) := by
  have resolved : (declareGroup group docs).1.resolve path use ref =
      { ref with target := (declareGroup group docs).1.lookup path use ref.text } := by
    simp only [Index.resolve, unresolved]
  rw [resolved]
  have meaning : ∀ id, (declareGroup group docs).1.lookup path use ref.text = some id ↔
      ∃ declaration, Means (declarations group docs) path use ref.text declaration ∧
        declaration.id = id :=
    fun id => lookup_eq_some_iff named names qualified
  refine ⟨rfl, rfl, rfl, rfl, meaning, ?_⟩
  rw [Option.eq_none_iff_forall_ne_some]
  constructor
  · intro nothing declaration means
    exact nothing declaration.id ((meaning _).mpr ⟨declaration, means, rfl⟩)
  · intro nothing id found
    rcases (meaning id).mp found with ⟨declaration, means, -⟩
    exact nothing declaration means

end Lookup

/-! ## Linked documents -/

namespace Means

variable {declared : List Declaration} {path : List String} {use : RefUse} {text : String}
  {declaration : Declaration} (means : Means declared path use text declaration)
include means

theorem mem : declaration ∈ declared := by
  rcases means with ⟨depth, -, ⟨found, -⟩, -⟩
  exact List.mem_of_find?_eq_some found

/-- What a reference means is named by the last segment of the reference. -/
theorem getLast?_segments :
    (Text.segments '.' text).getLast? = some declaration.decl.name := by
  rcases means with ⟨depth, -, ⟨found, -⟩, -⟩
  have same : declaration.fullName = path.take depth ++ Text.segments '.' text := by
    simpa using List.find?_some found
  have last := congrArg List.getLast? same
  rw [Declaration.fullName, List.getLast?_concat,
    List.getLast?_append_of_ne_nil _ (Text.segments_ne_nil '.' text)] at last
  exact last.symm

theorem accepts : use.accepts declaration.decl.isEntity := by
  rcases means with ⟨depth, -, ⟨-, accepted⟩, -⟩
  exact accepted

end Means

section Linked

variable {group : List Nat} {docs : List Document} (distinct : group.Nodup)
include distinct

/-- A document of the group after linking. -/
theorem exists_linked {position : Nat} (listed : position ∈ group) {doc : Document}
    (found : docs[position]? = some doc) :
    ∃ linked, (link group docs)[position]? = some linked ∧
      linked.locatedTypes = doc.locatedTypes.map fun (path, decl) =>
        (path, decl.mapRefs ((declareGroup group docs).1.resolve path)) := by
  have definitions := definitions_link group docs distinct position
  rw [found, Option.map_some, if_pos listed, Option.map_eq_some_iff] at definitions
  rcases definitions with ⟨linked, placed, definitions⟩
  refine ⟨linked, placed, ?_⟩
  rw [Document.locatedTypes, definitions, Document.locatedTypes]
  cases doc.definitions with
  | none => rfl
  | some defs => exact defs.locatedTypes_mapRefs _

/-- Linking leaves the marks of datatypes as they are. -/
theorem isTagged_link (tagged : ∀ doc ∈ docs, doc.IsTagged) :
    ∀ linked ∈ link group docs, linked.IsTagged := by
  intro linked member path type located
  obtain ⟨position, placed⟩ := List.mem_iff_getElem?.mp member
  have definitions := definitions_link group docs distinct position
  rw [placed, Option.map_some, eq_comm, Option.map_eq_some_iff] at definitions
  obtain ⟨doc, found, same⟩ := definitions
  have before := tagged doc (List.mem_of_getElem? found)
  by_cases listed : position ∈ group
  · obtain ⟨_, again, types⟩ := exists_linked distinct listed found
    rw [placed, Option.some.injEq] at again
    rw [again, types, List.mem_map] at located
    obtain ⟨⟨place, decl⟩, original, moved⟩ := located
    simp only [Prod.mk.injEq] at moved
    cases decl with
    | dataType earlier =>
        cases moved.2
        exact before place earlier original
    | entity type => cases moved.2
    | enum type => cases moved.2
    | foreign name => cases moved.2
  · rw [if_neg listed] at same
    rw [Document.locatedTypes, ← same] at located
    exact before path type located

/-- A declared type is found at its position after linking, too. -/
theorem type?_link {declaration : Declaration} (member : declaration ∈ declarations group docs) :
    (Scope.ofDocuments (link group docs)).type? declaration.id =
      some (declaration.decl.mapRefs ((declareGroup group docs).1.resolve declaration.path)) := by
  rcases mem_declarations.mp member with ⟨listed, doc, found, located⟩
  rcases exists_linked distinct listed found with ⟨linked, placed, types⟩
  simp [Scope.type?, Scope.ofDocuments, placed, Document.types_eq_map_locatedTypes, types,
    located]

/-- What a reference is resolved to has the last segment of the reference as its name,
and a supertype is an entity. -/
theorem exists_type_of_resolvesTo {before after : List String × RefUse × Ref}
    (resolved : ResolvesTo (declarations group docs) before after) {id : TypeId}
    (target : after.2.2.target = some id) :
    ∃ decl, (Scope.ofDocuments (link group docs)).type? id = some decl ∧
      (Text.segments '.' after.2.2.text).getLast? = some decl.name ∧
      (after.2.1 = .supertype → decl.isEntity) := by
  rcases (resolved.some_iff id).mp target with ⟨declaration, means, rfl⟩
  refine ⟨_, type?_link distinct means.mem, ?_, ?_⟩
  · rw [TypeDecl.name_mapRefs, resolved.text]
    exact means.getLast?_segments
  · intro isSuper
    have accepted := means.accepts
    rw [← resolved.use, isSuper] at accepted
    rw [TypeDecl.isEntity_mapRefs]
    exact accepted

end Linked

/-- Every reference of a document that was read is resolved to what it means. -/
theorem forall₂_resolvesTo {group : List Nat} {docs : List Document}
    (named : SegmentsNamed (declarations group docs)) {doc linked : Document} (read : doc.IsRead)
    (types : linked.locatedTypes = doc.locatedTypes.map fun (path, decl) =>
      (path, decl.mapRefs ((declareGroup group docs).1.resolve path))) :
    List.Forall₂ (ResolvesTo (declarations group docs)) doc.locatedRefs linked.locatedRefs := by
  rw [locatedRefs_eq_map types, List.forall₂_map_right_iff, List.forall₂_same]
  rintro ⟨path, use, ref⟩ member
  cases model : doc.definitions with
  | none => simp [Document.locatedRefs, Document.locatedTypes, model] at member
  | some defs =>
      have wellNamed := read.wellNamed model
      simp only [Document.locatedRefs, Document.locatedTypes, model, Option.elim_some,
        List.mem_flatMap, List.mem_map, Prod.mk.injEq] at member
      rcases member with ⟨⟨_, decl⟩, located, ⟨use, ref⟩, inside, rfl, rfl, rfl⟩
      exact resolvesTo_resolve named (wellNamed.path _ _ located)
        (wellNamed.text _ _ located _ _ inside) (wellNamed.unresolved _ _ located _ _ inside)

/-- A qualified name determines the package path and the name. -/
theorem eq_of_key_eq {declared : List Declaration} (named : SegmentsNamed declared)
    {left right : Declaration} (leftMember : left ∈ declared) (rightMember : right ∈ declared)
    (same : left.key = right.key) : left.path = right.path ∧ left.decl.name = right.decl.name := by
  have joined : right.key = Text.join "." right.fullName :=
    qualify_eq_join right.path right.decl.name
  rw [joined, key_eq_join_iff named leftMember (by simp [Declaration.fullName])
    (named right rightMember)] at same
  rcases List.append_inj' same rfl with ⟨paths, names⟩
  exact ⟨paths, List.singleton_inj.mp names⟩

/-- Linking documents that were read from source texts gives every reference the
meaning it has by lexical scoping. -/
theorem link_isLexical (group : List Nat) (docs : List Document) (distinct : group.Nodup)
    (read : ∀ position ∈ group, ∀ doc, docs[position]? = some doc → doc.IsRead) :
    (∀ position ∈ group, ∀ doc, docs[position]? = some doc →
      ∃ linked, (link group docs)[position]? = some linked ∧
        List.Forall₂ (ResolvesTo (declarations group docs)) doc.locatedRefs
          linked.locatedRefs ∧
        ∀ path use ref, (path, use, ref) ∈ linked.locatedRefs → ∀ id, ref.target = some id →
          ∃ decl, (Scope.ofDocuments (link group docs)).type? id = some decl ∧
            (Text.segments '.' ref.text).getLast? = some decl.name ∧
            (use = .supertype → decl.isEntity)) ∧
      ∀ left ∈ declarations group docs, ∀ right ∈ declarations group docs,
        left.key = right.key → left.path = right.path ∧ left.decl.name = right.decl.name := by
  have named := segmentsNamed_declarations read
  constructor
  · intro position listed doc found
    rcases exists_linked distinct listed found with ⟨linked, placed, types⟩
    have resolved := forall₂_resolvesTo named (read position listed doc found) types
    refine ⟨linked, placed, resolved, ?_⟩
    intro path use ref member id target
    rcases List.forall₂_iff_get.mp resolved with ⟨sameLength, pairwise⟩
    rcases List.getElem_of_mem member with ⟨place, inside, same⟩
    have pair := pairwise place (sameLength ▸ inside) inside
    rw [List.get_eq_getElem, List.get_eq_getElem, same] at pair
    exact exists_type_of_resolvesTo distinct pair target
  · intro left leftMember right rightMember same
    exact eq_of_key_eq named leftMember rightMember same

/-- Two documents in which an enum hides an entity from the type of a feature, but not
from the supertype beside it. -/
def hidingDocs : List Document :=
  ["entity A \x7b \x7d package p.q \x7b entity B extends A \x7b x: A \x7d \x7d",
    "package p \x7b enum A \x7b \x7d \x7d"].map fun source =>
      { definitions := (Ddef.parse source.toList).toOption }

theorem isRead_hidingDocs (position : Nat) (doc : Document)
    (found : hidingDocs[position]? = some doc) : doc.IsRead := by
  have member := List.mem_of_getElem? found
  rw [hidingDocs, List.mem_map] at member
  rcases member with ⟨source, -, rfl⟩
  intro defs parsed
  refine ⟨source.toList, defs, ?_, rfl⟩
  cases result : Ddef.parse source.toList with
  | error error => simp [result, Except.toOption] at parsed
  | ok read =>
      rw [result] at parsed
      rw [Option.some.inj parsed]

theorem link_isLexical_hidingDocs :
    ∃ doc linked, hidingDocs[0]? = some doc ∧ (link [0, 1] hidingDocs)[0]? = some linked ∧
      List.Forall₂ (ResolvesTo (declarations [0, 1] hidingDocs)) doc.locatedRefs
        linked.locatedRefs ∧
      linked.locatedRefs.map (fun (path, use, ref) => (path, use, ref.target)) =
        [(["p", "q"], .supertype, some ⟨0, 0⟩), (["p", "q"], .anyType, some ⟨1, 0⟩)] := by
  have lexical := link_isLexical [0, 1] hidingDocs (by decide)
    (fun position _ => isRead_hidingDocs position)
  have found : hidingDocs[0]? = some hidingDocs[0] := rfl
  rcases lexical.1 0 (by decide) _ found with ⟨linked, placed, resolved, -⟩
  refine ⟨_, linked, found, placed, resolved, ?_⟩
  have targets : ((link [0, 1] hidingDocs)[0]?).map (fun doc => doc.locatedRefs.map
      fun (path, use, ref) => (path, use, ref.target)) =
        some [(["p", "q"], .supertype, some ⟨0, 0⟩), (["p", "q"], .anyType, some ⟨1, 0⟩)] := by
    decide +kernel
  rw [placed] at targets
  exact Option.some.inj targets

end DomainGen
