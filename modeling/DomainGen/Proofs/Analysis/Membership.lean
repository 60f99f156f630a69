import DomainGen.Ddef.Parser
import DomainGen.Link.Resolve
import DomainGen.Proofs.Analysis.Entries

/-!
# Membership

A datatype lists the types that its members mean.  Taking up the members one by one
collects this relation in both directions (`analyze_spec`): for each type the datatypes of
the model that list it, and for each datatype those among its members that have accessors.
A member can be repeated, it can mean a type of another document or the datatype itself,
and a member that means nothing makes no difference (`analyze_congr_targets`).
-/

namespace DomainGen

/-- The datatype has a member that means the type at a position. -/
def DataType.Lists (type : DataType) (id : TypeId) : Prop :=
  ∃ member ∈ type.members, member.target = some id

instance (type : DataType) (id : TypeId) : Decidable (type.Lists id) :=
  inferInstanceAs (Decidable (∃ member ∈ type.members, member.target = some id))

/-- The place of the first member that means the type at a position. -/
def DataType.firstMember (type : DataType) (id : TypeId) : Nat :=
  (type.members.map (·.target)).idxOf (some id)

/-- The datatypes of a model with their positions, in model order. -/
def Definitions.placedDataTypes (document : Nat) (defs : Definitions) : List (TypeId × DataType) :=
  defs.types.zipIdx.filterMap fun indexed =>
    indexed.1.dataType?.map (⟨document, indexed.2⟩, ·)

theorem mem_targets_iff {type : DataType} {id : TypeId} :
    id ∈ (TypeDecl.dataType type).targets ↔ type.Lists id := by
  rw [TypeDecl.targets, List.mem_filterMap]
  rfl

theorem Definitions.mem_placedDataTypes {document : Nat} {defs : Definitions} {union : TypeId}
    {type : DataType} :
    (union, type) ∈ defs.placedDataTypes document ↔
      union.document = document ∧ defs.types[union.index]? = some (.dataType type) := by
  rw [placedDataTypes, List.mem_filterMap]
  constructor
  · rintro ⟨⟨decl, index⟩, listed, same⟩
    rw [List.mem_zipIdx_iff_getElem?] at listed
    cases decl with
    | dataType other =>
        cases same
        exact ⟨rfl, listed⟩
    | entity other => cases same
    | enum other => cases same
    | foreign name => cases same
  · rintro ⟨rfl, declared⟩
    exact ⟨(.dataType type, union.index), List.mem_zipIdx_iff_getElem?.mpr declared, rfl⟩

/-! ## The datatypes that list a type -/

/-- Only datatypes list anything. -/
theorem listing_eq (document : Nat) (defs : Definitions) (id : TypeId) :
    listing document defs.types id =
      ((defs.placedDataTypes document).filter (·.2.Lists id)).map (·.1) := by
  rw [listing, Definitions.placedDataTypes]
  induction defs.types.zipIdx with
  | nil => rfl
  | cons indexed rest ih =>
      obtain ⟨decl, index⟩ := indexed
      cases decl with
      | dataType type =>
          by_cases lists : type.Lists id
          · have target := mem_targets_iff.mpr lists
            simp [TypeDecl.dataType?, lists, target, ih]
          · have target := mem_targets_iff.not.mpr lists
            simp [TypeDecl.dataType?, lists, target, ih]
      | entity type => simpa [TypeDecl.dataType?, TypeDecl.targets] using ih
      | enum type => simpa [TypeDecl.dataType?, TypeDecl.targets] using ih
      | foreign name => simpa [TypeDecl.dataType?, TypeDecl.targets] using ih

theorem nodup_listing (document : Nat) (defs : Definitions) (id : TypeId) :
    (listing document defs.types id).Nodup :=
  defs.nodup_positions document fun decl => id ∈ decl.targets

/-! ## The members with accessors -/

section FirstOccurrences

variable {α : Type} [DecidableEq α]

theorem mem_firstOccurrences_id {entries : List α} {entry : α} :
    entry ∈ firstOccurrences id entries ↔ entry ∈ entries := by
  constructor
  · exact mem_of_mem_firstOccurrences
  · intro listed
    induction entries using List.reverseRecOn with
    | nil => exact listed
    | append_singleton entries last ih =>
        rw [firstOccurrences_append_singleton]
        rw [List.mem_append, List.mem_singleton] at listed
        split
        · next present =>
          rcases listed with earlier | rfl
          · exact ih earlier
          · simpa using present
        · rw [List.mem_append, List.mem_singleton]
          exact listed.imp_left ih

theorem firstOccurrences_id_concat (entries : List α) (last : α) :
    firstOccurrences id (entries ++ [last]) =
      if last ∈ entries then firstOccurrences id entries
      else firstOccurrences id entries ++ [last] := by
  rw [firstOccurrences_append_singleton]
  simp [mem_firstOccurrences_id]

/-- Those of the known entries that are as wanted are kept in the order in which they first
occur. -/
theorem pairwise_firstOccurrences (known : List (Option α)) (wanted : α → Bool) :
    (firstOccurrences id ((known.filterMap id).filter wanted)).Pairwise fun one other =>
      known.idxOf (some one) < known.idxOf (some other) := by
  induction known using List.reverseRecOn with
  | nil => exact .nil
  | append_singleton known last ih =>
      -- What was kept before occurs in the part before, and stays where it is.
      have occurs : ∀ entry ∈ firstOccurrences id ((known.filterMap id).filter wanted),
          some entry ∈ known := by
        intro entry kept
        have listed := (List.mem_filter.mp (mem_of_mem_firstOccurrences kept)).1
        simpa using listed
      have before : (firstOccurrences id ((known.filterMap id).filter wanted)).Pairwise
          fun one other => (known ++ [last]).idxOf (some one) <
            (known ++ [last]).idxOf (some other) := by
        apply ih.imp_of_mem
        intro one other keptOne keptOther earlier
        rwa [List.idxOf_append_of_mem (occurs one keptOne),
          List.idxOf_append_of_mem (occurs other keptOther)]
      rw [List.filterMap_append, List.filter_append]
      cases last with
      | none => simpa using before
      | some entry =>
          by_cases accepted : wanted entry
          · have single : (([some entry] : List (Option α)).filterMap id).filter wanted =
                [entry] := by
              simp [accepted]
            rw [single, firstOccurrences_id_concat]
            split
            · exact before
            · next fresh =>
              have absent : some entry ∉ known := by
                intro listed
                apply fresh
                simpa [accepted] using listed
              rw [List.pairwise_append]
              refine ⟨before, List.pairwise_singleton _ _, ?_⟩
              intro one kept other same
              rw [List.mem_singleton.mp same, List.idxOf_append_of_mem (occurs one kept),
                List.idxOf_append_of_notMem absent]
              have inside := List.idxOf_lt_length_of_mem (occurs one kept)
              omega
          · simpa [accepted] using before

end FirstOccurrences

/-- The primitive members of a datatype of the model, with the order they are in. -/
theorem aliasesOf_analyze (scope : Scope) {document : Nat} {defs : Definitions}
    {union : TypeId} {type : DataType} (placed : (union, type) ∈ defs.placedDataTypes document) :
    (∀ member, member ∈ (analyze scope document defs).aliasesOf.of union ↔
      type.Lists member ∧ scope.isAliasable member) ∧
      ((analyze scope document defs).aliasesOf.of union).Pairwise fun one other =>
        type.firstMember one < type.firstMember other := by
  rw [Definitions.mem_placedDataTypes] at placed
  rw [of_aliasesOf_analyze, if_pos placed.1, placed.2, Option.elim_some]
  constructor
  · intro member
    rw [mem_firstOccurrences_id, List.mem_filter, mem_targets_iff]
  · have ordered := pairwise_firstOccurrences (type.members.map (·.target)) scope.isAliasable
    rw [List.filterMap_map] at ordered
    exact ordered

/-- Nothing else has primitive members. -/
theorem exists_placed_of_aliasesOf {scope : Scope} {document : Nat} {defs : Definitions}
    {union member : TypeId} (listed : member ∈ (analyze scope document defs).aliasesOf.of union) :
    ∃ type, (union, type) ∈ defs.placedDataTypes document := by
  rw [of_aliasesOf_analyze] at listed
  split at listed
  · next inside =>
    cases declared : defs.types[union.index]? with
    | none => simp [declared, firstOccurrences] at listed
    | some decl =>
        cases decl with
        | dataType type =>
            exact ⟨type, Definitions.mem_placedDataTypes.mpr ⟨inside, declared⟩⟩
        | entity type => simp [declared, TypeDecl.targets, firstOccurrences] at listed
        | enum type => simp [declared, TypeDecl.targets, firstOccurrences] at listed
        | foreign name => simp [declared, TypeDecl.targets, firstOccurrences] at listed
  · contradiction

/-! ## What the relations depend on -/

namespace Analysis

variable (scope : Scope)

/-- Take up one type that the datatype at `union` lists. -/
def addTarget (union : TypeId) (analysis : Analysis) (target : TypeId) : Analysis :=
  analysis.addMember scope union { text := "", target := some target }

theorem foldl_addMember (union : TypeId) (members : List Ref) (analysis : Analysis) :
    members.foldl (addMember scope union) analysis =
      (members.filterMap (·.target)).foldl (addTarget scope union) analysis := by
  rw [List.foldl_filterMap]
  congr 1
  funext analysis member
  rw [addMember]
  cases member.target with
  | none => rfl
  | some target => rfl

theorem addType_eq (document : Nat) (analysis : Analysis) (decl : TypeDecl) (index : Nat) :
    analysis.addType scope document (decl, index) =
      decl.targets.foldl (addTarget scope ⟨document, index⟩) analysis := by
  cases decl with
  | dataType type => exact foldl_addMember scope ⟨document, index⟩ type.members analysis
  | entity type => rfl
  | enum type => rfl
  | foreign name => rfl

end Analysis

/-- The relations depend on what the members of each declaration mean, and on nothing else
in the model.  So a member that means nothing makes no difference. -/
theorem analyze_congr_targets (scope : Scope) (document : Nat) {defs other : Definitions}
    (same : other.types.map (·.targets) = defs.types.map (·.targets)) :
    analyze scope document other = analyze scope document defs := by
  have targets : ∀ defs : Definitions, analyze scope document defs =
      (defs.types.map (·.targets)).zipIdx.foldl
        (fun analysis indexed =>
          indexed.1.foldl (Analysis.addTarget scope ⟨document, indexed.2⟩) analysis) {} := by
    intro defs
    rw [analyze, List.zipIdx_map, List.foldl_map]
    congr 1
    funext analysis indexed
    exact Analysis.addType_eq scope document analysis indexed.1 indexed.2
  rw [targets, targets, same]

/-! ## Both relations -/

/-- The unions of a type are the datatypes of the model with a member that means it, in model
order.  The primitive members of a datatype of the model are the types with accessors that
its members mean, in the order of their first members, and nothing else has any.  No list
has a repetition, and the types with an entry are those with a list that is not empty.  A
primitive member has the datatype among its unions.  Whether a model has unresolved members
makes no difference. -/
theorem analyze_spec (scope : Scope) (document : Nat) (defs : Definitions) :
    let analysis := analyze scope document defs
    (∀ id, analysis.unionsOf.of id =
      ((defs.placedDataTypes document).filter (·.2.Lists id)).map (·.1)) ∧
      (∀ union type, (union, type) ∈ defs.placedDataTypes document →
        (∀ member, member ∈ analysis.aliasesOf.of union ↔
          type.Lists member ∧ scope.isAliasable member) ∧
        (analysis.aliasesOf.of union).Pairwise fun one other =>
          type.firstMember one < type.firstMember other) ∧
      (∀ union member, member ∈ analysis.aliasesOf.of union →
        (∃ type, (union, type) ∈ defs.placedDataTypes document) ∧
          union ∈ analysis.unionsOf.of member) ∧
      (∀ id, (analysis.unionsOf.of id).Nodup ∧ (analysis.aliasesOf.of id).Nodup) ∧
      (∀ id, (id ∈ analysis.unionsOf.keys ↔ analysis.unionsOf.of id ≠ []) ∧
        (id ∈ analysis.aliasesOf.keys ↔ analysis.aliasesOf.of id ≠ [])) ∧
      analysis.unionsOf.keys.Nodup ∧ analysis.aliasesOf.keys.Nodup ∧
      ∀ other : Definitions, other.types.map (·.targets) = defs.types.map (·.targets) →
        analyze scope document other = analysis := by
  intro analysis
  obtain ⟨unions, aliases⟩ : analysis.IsMaps := isMaps_analyze scope document defs
  have exactly : ∀ id, analysis.unionsOf.of id =
      ((defs.placedDataTypes document).filter (·.2.Lists id)).map (·.1) := by
    intro id
    exact (of_unionsOf_analyze scope document defs id).trans (listing_eq document defs id)
  refine ⟨exactly, fun union type placed => aliasesOf_analyze scope placed, ?_, ?_, ?_,
    unions.distinct, aliases.distinct, fun other same => analyze_congr_targets scope document same⟩
  · intro union member listed
    obtain ⟨type, placed⟩ := exists_placed_of_aliasesOf listed
    refine ⟨⟨type, placed⟩, ?_⟩
    have lists := (((aliasesOf_analyze scope placed).1 member).mp listed).1
    rw [exactly, List.mem_map]
    exact ⟨(union, type), List.mem_filter.mpr ⟨placed, decide_eq_true lists⟩, rfl⟩
  · intro id
    constructor
    · rw [of_unionsOf_analyze]
      exact nodup_listing document defs id
    · by_cases empty : analysis.aliasesOf.of id = []
      · rw [empty]
        exact List.nodup_nil
      · obtain ⟨member, listed⟩ := List.exists_mem_of_ne_nil _ empty
        obtain ⟨type, placed⟩ := exists_placed_of_aliasesOf listed
        exact (aliasesOf_analyze scope placed).2.imp fun earlier same => by
          rw [same] at earlier
          exact Nat.lt_irrefl _ earlier
  · intro id
    exact ⟨unions.mem_keys_iff id, aliases.mem_keys_iff id⟩

/-- What a datatype stands for is what it is marked as, whatever it is called. -/
example :
    let unmarked : DataType := { name := "string", primitive := none }
    let union : DataType :=
      { name := "U", members := [{ text := "string", target := some ⟨0, 0⟩ }] }
    let defs : Definitions := { elements := [.type (.dataType unmarked), .type (.dataType union)] }
    (analyze (Scope.ofDocuments [{ definitions := some defs }]) 0 defs).aliasesOf = [] := by
  decide

/-- A union with itself, with repeated members, with a member of another document and with
one that means nothing. -/
def unionDocs : List Document :=
  ["datatype int datatype Wide = number | int | Ghost | number | Wide | int",
    "datatype number"].map fun source =>
      { definitions := (Ddef.parse source.toList).toOption }

theorem analyze_spec_unionDocs :
    ∃ doc defs type, (link [0, 1] unionDocs)[0]? = some doc ∧ doc.definitions = some defs ∧
      (⟨0, 1⟩, type) ∈ defs.placedDataTypes 0 ∧
      let scope := Scope.ofDocuments (link [0, 1] unionDocs)
      let analysis := analyze scope 0 defs
      analysis.unionsOf = [(⟨1, 0⟩, [⟨0, 1⟩]), (⟨0, 0⟩, [⟨0, 1⟩]), (⟨0, 1⟩, [⟨0, 1⟩])] ∧
      analysis.aliasesOf = [(⟨0, 1⟩, [⟨1, 0⟩, ⟨0, 0⟩])] ∧
      ∀ member, member ∈ analysis.aliasesOf.of ⟨0, 1⟩ ↔
        type.Lists member ∧ scope.isAliasable member := by
  have computed : ((link [0, 1] unionDocs)[0]?).any fun doc =>
      doc.definitions.any fun defs =>
        (defs.types[1]?).any fun decl =>
          decl.dataType?.isSome &&
          analyze (Scope.ofDocuments (link [0, 1] unionDocs)) 0 defs =
            { unionsOf := [(⟨1, 0⟩, [⟨0, 1⟩]), (⟨0, 0⟩, [⟨0, 1⟩]), (⟨0, 1⟩, [⟨0, 1⟩])]
              aliasesOf := [(⟨0, 1⟩, [⟨1, 0⟩, ⟨0, 0⟩])] } := by
    decide +kernel
  simp only [Option.any_eq_true, Bool.and_eq_true, decide_eq_true_eq] at computed
  obtain ⟨doc, found, defs, model, decl, declared, isDataType, relations⟩ := computed
  cases decl with
  | dataType type =>
      have placed : (⟨0, 1⟩, type) ∈ defs.placedDataTypes 0 :=
        Definitions.mem_placedDataTypes.mpr ⟨rfl, declared⟩
      refine ⟨doc, defs, type, found, model, placed, ?_, ?_, ?_⟩
      · rw [relations]
      · rw [relations]
      · exact ((analyze_spec _ 0 defs).2.1 ⟨0, 1⟩ type placed).1
  | entity type => contradiction
  | enum type => contradiction
  | foreign name => contradiction

end DomainGen
