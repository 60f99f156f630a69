import DomainGen.Model.Load
import DomainGen.Proofs.Link.Effect
import Mathlib.Data.List.Forall2

/-!
# Linking with further documents

Documents that are linked after others can hide what a reference meant, but never
leave it without a meaning: the declarations that were found before are still the
first of their names, and a declaration that a reference cannot mean does not end
the search.  So whatever a group resolves, a longer group resolves, too
(`keepsResolved_link_append`).

The document that is loaded is always linked first.  With siblings, it is told
about the same repeated names and about fewer open references
(`LoadedModel.diagnostics_linked_sublist`).
-/

namespace DomainGen

/-! ## Indexes with more entries -/

/-- Whatever an index finds, another one finds as well. -/
def Index.Within (index wider : Index) : Prop :=
  ∀ name entry, index.find? name = some entry → wider.find? name = some entry

/-- The references of a document, and the same references at another time: none of them
has lost its target. -/
def Document.KeepsResolved (before after : Document) : Prop :=
  List.Forall₂ (fun one other => other.1 = one.1 ∧ other.2.1 = one.2.1 ∧
    other.2.2.unlinked = one.2.2.unlinked ∧ (one.2.2.isResolved → other.2.2.isResolved))
    before.locatedRefs after.locatedRefs

namespace Index.Within

variable {index wider : Index} (within : index.Within wider)
include within

/-- What can be looked up can be looked up among more entries, although the result may
be another one. -/
theorem isSome_lookup {path : List String} {use : RefUse} {text : String}
    (found : (index.lookup path use text).isSome) : (wider.lookup path use text).isSome := by
  rw [Index.lookup, List.findSome?_isSome_iff] at found ⊢
  obtain ⟨scope, inside, found⟩ := found
  refine ⟨scope, inside, ?_⟩
  cases entry : index.find? (qualify scope text) with
  | none =>
      rw [entry] at found
      contradiction
  | some declared =>
      rw [entry] at found
      rw [within _ _ entry]
      exact found

theorem isResolved_resolve {path : List String} {use : RefUse} {ref : Ref}
    (found : (index.resolve path use ref).isResolved) :
    (wider.resolve path use ref).isResolved := by
  rw [Index.resolve_eq, Ref.isResolved, Ref.filled, Option.isSome_or, Bool.or_eq_true] at found ⊢
  rcases found with set | found
  · exact .inl set
  · exact .inr (within.isSome_lookup found)

theorem keepsResolved (doc : Document) :
    (doc.resolved index).KeepsResolved (doc.resolved wider) := by
  rw [Document.KeepsResolved, Document.locatedRefs_resolved, Document.locatedRefs_resolved,
    List.forall₂_map_left_iff, List.forall₂_map_right_iff, List.forall₂_same]
  rintro ⟨path, use, ref⟩ -
  refine ⟨rfl, rfl, ?_, within.isResolved_resolve⟩
  simp only [Index.resolve_eq, Ref.filled, Ref.unlinked]

theorem unresolvedWarnings_sublist (doc : Document) :
    (doc.unresolvedWarnings wider).Sublist (doc.unresolvedWarnings index) := by
  apply List.Sublist.map
  apply List.monotone_filter_right
  intro located leftOpen
  rw [Bool.not_eq_true', ← Bool.not_eq_true] at leftOpen ⊢
  intro resolved
  exact leftOpen (within.isResolved_resolve resolved)

end Index.Within

/-! ## Longer groups -/

theorem declarations_append (group more : List Nat) (docs : List Document) :
    declarations (group ++ more) docs = declarations group docs ++ declarations more docs :=
  List.flatMap_append

theorem within_declareGroup_append (group more : List Nat) (docs : List Document) :
    (declareGroup group docs).1.Within (declareGroup (group ++ more) docs).1 := by
  intro name entry found
  rw [find?_declareGroup] at found ⊢
  rw [declarations_append, firstEntry_append, found, Option.some_or]

/-- What is resolved by linking a group is resolved by linking it with more documents. -/
theorem keepsResolved_link_append {group : List Nat} {position : Nat} (listed : position ∈ group)
    (more : List Nat) {docs : List Document} {doc : Document}
    (found : docs[position]? = some doc) :
    ∃ linked joined, (link group docs)[position]? = some linked ∧
      (link (group ++ more) docs)[position]? = some joined ∧ linked.KeepsResolved joined := by
  have first := getElem?_link_eq group docs position
  have second := getElem?_link_eq (group ++ more) docs position
  rw [found, Option.map_some, if_pos listed] at first
  rw [found, Option.map_some, if_pos (List.mem_append_left more listed)] at second
  exact ⟨_, _, first, second, (within_declareGroup_append group more docs).keepsResolved doc⟩

/-! ## Loaded models -/

theorem Document.capitalWarnings_resolved (doc : Document) (index : Index) :
    (doc.resolved index).capitalWarnings = doc.capitalWarnings := by
  simp only [capitalWarnings, types_eq_map_locatedTypes, locatedTypes_resolved, List.map_map,
    List.filter_map, Function.comp_def, TypeDecl.name_mapRefs, TypeDecl.pos_mapRefs]

theorem Document.capitalWarnings_reportAll (doc : Document) (findings : List Diagnostic) :
    (doc.reportAll findings).capitalWarnings = doc.capitalWarnings := rfl

namespace LoadedModel

/-- The index that a document and its siblings are linked by. -/
def index (document : Document) (siblings : List Document) : Index :=
  (declareGroup (List.range (siblings.length + 1)) (document :: siblings)).1

/-- What becomes of a document that is loaded with siblings. -/
theorem document_linked (document : Document) (siblings : List Document) :
    (linked { document, siblings }).document =
      (document.resolved (index document siblings)).reportAll
        (takenWarnings [] document.locatedTypes ++
          document.unresolvedWarnings (index document siblings) ++ document.capitalWarnings) := by
  have group : List.range (siblings.length + 1) = 0 :: (List.range siblings.length).map (· + 1) :=
    List.range_succ_eq_map
  have first := getElem?_link_eq (List.range (siblings.length + 1)) (document :: siblings) 0
  rw [List.getElem?_cons_zero, Option.map_some, if_pos (by simp), group,
    linkFindings_first (by simp) List.getElem?_cons_zero, ← group] at first
  have whole : link (List.range (siblings.length + 1)) (document :: siblings) =
      linkAll (documents { document, siblings }) := rfl
  rw [whole] at first
  unfold linked
  cases result : linkAll (documents { document, siblings }) with
  | nil =>
      rw [result] at first
      contradiction
  | cons head rest =>
      rw [result, List.getElem?_cons_zero, Option.some.injEq] at first
      dsimp only
      rw [Document.check_eq_reportAll, first, Document.reportAll_reportAll,
        Document.capitalWarnings_reportAll, Document.capitalWarnings_resolved]
      rfl

theorem within_index (document : Document) (siblings : List Document) :
    (index document []).Within (index document siblings) := by
  have same : declarations [0] [document] = declarations [0] (document :: siblings) := rfl
  have group : List.range (siblings.length + 1) = [0] ++ (List.range siblings.length).map (· + 1) :=
    List.range_succ_eq_map
  intro name entry found
  have found : (declareGroup [0] [document]).1.find? name = some entry := found
  -- The siblings are declared last, so the group of the document alone comes first.
  rw [index, group]
  apply within_declareGroup_append
  rwa [find?_declareGroup, ← same, ← find?_declareGroup]

variable (document : Document) (siblings : List Document)

theorem keepsResolved_linked :
    (linked { document }).document.KeepsResolved (linked { document, siblings }).document := by
  rw [document_linked, document_linked]
  exact (within_index document siblings).keepsResolved document

theorem diagnostics_linked_sublist :
    (linked { document, siblings }).document.diagnostics.Sublist
      (linked { document }).document.diagnostics := by
  have fewer := (within_index document siblings).unresolvedWarnings_sublist document
  rw [document_linked, document_linked, Document.diagnostics_reportAll,
    Document.diagnostics_reportAll]
  apply List.Sublist.append_left
  apply List.Sublist.map
  apply List.Sublist.append_right
  exact List.Sublist.append_left fewer _

end LoadedModel

end DomainGen
