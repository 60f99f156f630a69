import DomainGen.Config.Layer
import DomainGen.Proofs.Text.Dotted
import Mathlib.Data.List.Induction
import Mathlib.Data.List.Nodup

/-!
# Trees of settings

A tree of settings holds each of them at its path (`valueAt?_tree`), as long as the other
settings are apart from it: none of them stands above or below it.  A tree that is merged into
another one counts first, path by path (`valueAt?_merge`).
-/

namespace DomainGen.Toml

/-! ## Tables -/

/-- Whether a value is a table. -/
def Value.isTable : Value → Bool
  | .table _ => true
  | _ => false

theorem Value.exists_of_isTable {value : Value} (table : value.isTable) :
    ∃ entries, value = .table entries := by
  cases value with
  | table entries => exact ⟨entries, rfl⟩
  | _ => cases table

namespace Table

variable {table : Table} {key : String} {value : Value}

theorem get?_cons (entry : String × Value) (table : Table) (key : String) :
    get? (entry :: table) key = if entry.1 = key then some entry.2 else table.get? key := by
  by_cases same : entry.1 = key <;> simp [get?, same]

theorem get?_set (key other : String) (value : Value) (table : Table) :
    (table.set key value).get? other = if key = other then some value else table.get? other := by
  fun_induction set key value table with
  | case1 => rw [get?_cons]
  | case2 entry rest same =>
      rw [get?_cons, get?_cons, same]
      split <;> rfl
  | case3 entry rest apart ih =>
      rw [get?_cons, get?_cons, ih]
      by_cases same : key = other
      · rw [if_pos same, if_pos same, if_neg (same ▸ apart)]
      · rw [if_neg same, if_neg same]

theorem mem_of_get? (found : table.get? key = some value) : (key, value) ∈ table := by
  induction table with
  | nil => cases found
  | cons entry rest ih =>
      rw [get?_cons] at found
      split at found
      · next same =>
        cases found
        exact same ▸ List.mem_cons_self
      · exact List.mem_cons_of_mem _ (ih found)

theorem mem_set {entry : String × Value} (member : entry ∈ table.set key value) :
    entry = (key, value) ∨ entry ∈ table := by
  fun_induction set key value table with
  | case1 => exact .inl (List.mem_singleton.mp member)
  | case2 first rest same => exact (List.mem_cons.mp member).imp_right (List.mem_cons_of_mem _)
  | case3 first rest apart ih =>
      rcases List.mem_cons.mp member with rfl | later
      · exact .inr List.mem_cons_self
      · exact (ih later).imp_right (List.mem_cons_of_mem _)

theorem map_fst_set (key : String) (value : Value) (table : Table) :
    (table.set key value).map Prod.fst =
      if key ∈ table.map Prod.fst then table.map Prod.fst else table.map Prod.fst ++ [key] := by
  fun_induction set key value table with
  | case1 => rfl
  | case2 entry rest same => simp [same]
  | case3 entry rest apart ih =>
      rw [List.map_cons, ih, List.map_cons]
      by_cases listed : key ∈ rest.map Prod.fst
      · rw [if_pos listed, if_pos (List.mem_cons_of_mem _ listed)]
      · have fresh : key ∉ entry.1 :: rest.map Prod.fst := by
          rw [List.mem_cons, not_or]
          exact ⟨Ne.symm apart, listed⟩
        rw [if_neg listed, if_neg fresh, List.cons_append]

theorem nodup_set (distinct : (table.map Prod.fst).Nodup) :
    ((table.set key value).map Prod.fst).Nodup := by
  rw [map_fst_set]
  split
  · exact distinct
  · next fresh =>
    rw [← List.concat_eq_append]
    exact distinct.concat fresh

/-! ## Nested tables -/

/-- The value at a path of keys, one table in another. -/
def valueAt? : List String → Table → Option Value
  | [], _ => none
  | [key], table => table.get? key
  | key :: next :: rest, table =>
      match table.get? key with
      | some (.table entries) => valueAt? (next :: rest) entries
      | _ => none

theorem valueAt?_nil (path : List String) : valueAt? path [] = none := by
  match path with
  | [] => rfl
  | [_] => rfl
  | _ :: _ :: _ => rfl

theorem valueAt?_congr {other : Table} (same : table.get? key = other.get? key)
    (rest : List String) : valueAt? (key :: rest) table = valueAt? (key :: rest) other := by
  cases rest with
  | nil => exact same
  | cons next rest => rw [valueAt?, valueAt?, same]

/-- The entries of a value, if it is a table. -/
def entriesOf : Option Value → Table
  | some (.table entries) => entries
  | _ => []

/-- The entries of the table that a key stands for. -/
def entriesAt (table : Table) (key : String) : Table := entriesOf (table.get? key)

theorem entriesOf_leaf {present : Option Value} (leaf : present.all (!·.isTable)) :
    entriesOf present = [] := by
  cases present with
  | none => rfl
  | some value =>
      cases value with
      | table entries => cases leaf
      | _ => rfl

theorem valueAt?_cons {rest : List String} (below : rest ≠ []) :
    valueAt? (key :: rest) table = valueAt? rest (table.entriesAt key) := by
  cases rest with
  | nil => contradiction
  | cons next rest =>
      rw [valueAt?, entriesAt]
      split
      · next found => rw [found, entriesOf]
      · next apart =>
        have leaf : (table.get? key).all (!·.isTable) := by
          cases found : table.get? key with
          | none => rfl
          | some value =>
              cases value with
              | table entries => exact absurd found (apart entries)
              | _ => rfl
        rw [entriesOf_leaf leaf, valueAt?_nil]

end Table

/-- A value in which no table has a key twice. -/
inductive Proper : Value → Prop
  | leaf {value : Value} (single : value.isTable = false) : Proper value
  | table {entries : Table} (distinct : (entries.map Prod.fst).Nodup)
      (inner : ∀ entry ∈ entries, Proper entry.2) : Proper (.table entries)

namespace Proper

variable {table : Table}

theorem distinct (proper : Proper (.table table)) : (table.map Prod.fst).Nodup := by
  cases proper with
  | leaf single => cases single
  | table distinct inner => exact distinct

theorem inner (proper : Proper (.table table)) : ∀ entry ∈ table, Proper entry.2 := by
  cases proper with
  | leaf single => cases single
  | table distinct inner => exact inner

theorem empty : Proper (.table []) := .table List.nodup_nil nofun

theorem get? (proper : Proper (.table table)) {key : String} {value : Value}
    (found : table.get? key = some value) : Proper value :=
  proper.inner _ (Table.mem_of_get? found)

theorem entriesAt (proper : Proper (.table table)) (key : String) :
    Proper (.table (table.entriesAt key)) := by
  unfold Table.entriesAt Table.entriesOf
  split
  · next found => exact proper.get? found
  · exact empty

theorem set (proper : Proper (.table table)) (key : String) {value : Value}
    (own : Proper value) : Proper (.table (table.set key value)) := by
  refine .table (Table.nodup_set proper.distinct) fun entry member => ?_
  rcases Table.mem_set member with rfl | member
  · exact own
  · exact proper.inner entry member

end Proper

end DomainGen.Toml

namespace DomainGen.Config

open Toml (Value Table Proper)
open Toml.Table (valueAt? valueAt?_nil valueAt?_congr valueAt?_cons get?_set entriesOf
  entriesOf_leaf entriesAt)

/-! ## Paths that are apart -/

/-- Neither of two paths is the other or above the other. -/
def Apart (path other : List String) : Prop := ¬ path <+: other ∧ ¬ other <+: path

instance (path other : List String) : Decidable (Apart path other) :=
  inferInstanceAs (Decidable (¬ path <+: other ∧ ¬ other <+: path))

theorem Apart.tail {key : String} {path other : List String}
    (apart : Apart (key :: path) (key :: other)) : Apart path other :=
  ⟨fun above => apart.1 ((List.prefix_cons_inj key).mpr above),
    fun above => apart.2 ((List.prefix_cons_inj key).mpr above)⟩

theorem apart_of_head_ne {key next : String} (differ : key ≠ next) (path other : List String) :
    Apart (key :: path) (next :: other) :=
  ⟨fun above => differ (List.cons_prefix_cons.mp above).1,
    fun above => differ (List.cons_prefix_cons.mp above).1.symm⟩

/-! ## Giving settings values -/

section Assign

variable {value : Value} {table : Table}

theorem assign_cons {key : String} {rest : List String} (below : rest ≠ []) :
    assign value (key :: rest) table =
      table.set key (.table (assign value rest (table.entriesAt key))) := by
  cases rest with
  | nil => contradiction
  | cons next rest => rfl

theorem valueAt?_assign {path : List String} (proper : path ≠ []) :
    valueAt? path (assign value path table) = some value := by
  induction path generalizing table with
  | nil => contradiction
  | cons key rest ih =>
      by_cases single : rest = []
      · rw [single, assign, valueAt?, get?_set, if_pos rfl]
      · rw [assign_cons single, valueAt?_cons single, entriesAt, get?_set, if_pos rfl]
        exact ih single

theorem valueAt?_assign_apart {path other : List String} (apart : Apart path other) :
    valueAt? other (assign value path table) = valueAt? other table := by
  induction path generalizing other table with
  | nil => exact absurd List.nil_prefix apart.1
  | cons key rest ih =>
      cases other with
      | nil => exact absurd List.nil_prefix apart.2
      | cons next more =>
          by_cases same : key = next
          · subst same
            have someRest : rest ≠ [] := by
              rintro rfl
              exact apart.1 ⟨more, rfl⟩
            have someMore : more ≠ [] := by
              rintro rfl
              exact apart.2 ⟨rest, rfl⟩
            rw [assign_cons someRest, valueAt?_cons someMore, valueAt?_cons someMore, entriesAt,
              get?_set, if_pos rfl]
            exact ih apart.tail
          · refine valueAt?_congr ?_ more
            by_cases single : rest = []
            · rw [single, assign, get?_set, if_neg same]
            · rw [assign_cons single, get?_set, if_neg same]

theorem proper_assign (own : Proper value) (whole : Proper (.table table)) (path : List String) :
    Proper (.table (assign value path table)) := by
  induction path generalizing table with
  | nil => exact whole
  | cons key rest ih =>
      by_cases single : rest = []
      · rw [single, assign]
        exact whole.set key own
      · rw [assign_cons single]
        exact whole.set key (ih (whole.entriesAt key))

end Assign

section Tree

theorem tree_concat (settings : List (String × Value)) (name : String) (value : Value) :
    tree (settings ++ [(name, value)]) =
      assign value (Text.segments '.' name) (tree settings) := by
  rw [tree, List.foldl_concat, ← tree]

/-- A setting stands at its path in the tree of all settings, if the others are apart from
it. -/
theorem valueAt?_tree {settings : List (String × Value)} {name : String}
    (distinct : (settings.map Prod.fst).Nodup)
    (apart : ∀ other ∈ settings.map Prod.fst, other ≠ name →
      Apart (Text.segments '.' other) (Text.segments '.' name)) :
    valueAt? (Text.segments '.' name) (tree settings) = settings.lookup name := by
  induction settings using List.reverseRecOn with
  | nil => exact valueAt?_nil _
  | append_singleton settings last ih =>
      obtain ⟨other, value⟩ := last
      rw [List.map_append, List.nodup_append] at distinct
      rw [List.map_append, List.forall_mem_append] at apart
      rw [tree_concat, List.lookup_append]
      by_cases same : other = name
      · subst same
        have fresh : settings.lookup other = none := by
          rw [List.lookup_eq_none_iff]
          intro entry member
          rw [bne_iff_ne]
          exact (distinct.2.2 _ (List.mem_map_of_mem member) other List.mem_cons_self).symm
        rw [valueAt?_assign (Text.segments_ne_nil '.' other), fresh]
        simp
      · rw [valueAt?_assign_apart (apart.2 other List.mem_cons_self same),
          ih distinct.1 apart.1]
        have differ : (name == other) = false := by simpa using Ne.symm same
        simp [List.lookup_cons, differ]

theorem proper_tree {settings : List (String × Value)}
    (inner : ∀ setting ∈ settings, Proper setting.2) : Proper (.table (tree settings)) := by
  induction settings using List.reverseRecOn with
  | nil => exact .empty
  | append_singleton settings last ih =>
      rw [List.forall_mem_append, List.forall_mem_singleton] at inner
      rw [tree_concat]
      exact proper_assign inner.2 (ih inner.1) _

end Tree

/-! ## Merging -/

section Merge

theorem mergeValue_leaf {present : Option Value} {value : Value} (leaf : value.isTable = false) :
    mergeValue present value = if present.any Value.isTable then present.getD value else value := by
  cases value with
  | table entries => cases leaf
  | _ =>
      unfold mergeValue
      cases present with
      | none => rfl
      | some other => cases other <;> rfl

theorem entriesOf_mergeValue_leaf {value : Value} (leaf : value.isTable = false)
    (present : Option Value) :
    entriesOf (some (mergeValue present value)) = entriesOf present := by
  have own : entriesOf (some value) = [] := entriesOf_leaf (by simp [leaf])
  rw [mergeValue_leaf leaf]
  cases present with
  | none => exact own
  | some other =>
      cases other with
      | table entries => rfl
      | _ => exact own

theorem mergeValue_table (present : Option Value) (more : Table) :
    mergeValue present (.table more) =
      .table (if present.any Value.isTable then merge (entriesOf present) more else more) := by
  unfold mergeValue
  cases present with
  | none => rfl
  | some other => cases other <;> rfl

theorem get?_merge (target : Table) {more : Table} (distinct : (more.map Prod.fst).Nodup)
    (key : String) :
    (merge target more).get? key =
      (more.get? key).elim (target.get? key) fun value =>
        some (mergeValue (target.get? key) value) := by
  induction more generalizing target with
  | nil => rfl
  | cons entry rest ih =>
      rw [List.map_cons, List.nodup_cons] at distinct
      obtain ⟨fresh, distinct⟩ := distinct
      rw [merge, ih _ distinct, Toml.Table.get?_cons, get?_set]
      by_cases same : entry.1 = key
      · have absent : Toml.Table.get? rest key = none := by
          cases found : Toml.Table.get? rest key with
          | none => rfl
          | some value =>
              exact absurd (List.mem_map_of_mem (Toml.Table.mem_of_get? found)) (same ▸ fresh)
        rw [if_pos same, if_pos same, absent, same]
        rfl
      · rw [if_neg same, if_neg same]

/-- What a tree says of a setting counts before what the tree says that it is merged into. -/
theorem valueAt?_merge {path : List String} {target more : Table} (proper : Proper (.table more))
    (leaf : ∀ tree ∈ [target, more], (valueAt? path tree).all (!·.isTable)) :
    valueAt? path (merge target more) = (valueAt? path more).or (valueAt? path target) := by
  rw [List.forall_mem_cons, List.forall_mem_singleton] at leaf
  obtain ⟨leafTarget, leafMore⟩ := leaf
  induction path generalizing target more with
  | nil => rfl
  | cons key rest ih =>
      by_cases single : rest = []
      · subst single
        simp only [valueAt?] at leafTarget leafMore ⊢
        rw [get?_merge target proper.distinct]
        cases found : more.get? key with
        | none => rfl
        | some value =>
            have kept : ¬ (target.get? key).any Value.isTable := by
              cases present : target.get? key with
              | none => exact Bool.false_ne_true
              | some other => simpa [present] using leafTarget
            rw [found, Option.all_some, Bool.not_eq_true'] at leafMore
            rw [Option.elim_some, mergeValue_leaf leafMore, if_neg kept, Option.some_or]
      · rw [valueAt?_cons single] at leafTarget leafMore
        rw [valueAt?_cons single, valueAt?_cons single, valueAt?_cons single]
        have below : (merge target more).entriesAt key =
            (more.get? key).elim (target.entriesAt key) fun value =>
              entriesOf (some (mergeValue (target.get? key) value)) := by
          rw [entriesAt, get?_merge target proper.distinct]
          cases more.get? key with
          | none => rfl
          | some value => rfl
        have inner := proper.entriesAt key
        unfold entriesAt at leafTarget leafMore below inner ⊢
        rw [below]
        cases found : more.get? key with
        | none =>
            have bare : entriesOf none = [] := rfl
            rw [Option.elim_none, bare, valueAt?_nil, Option.none_or]
        | some value =>
            rw [found] at leafMore inner
            rw [Option.elim_some]
            by_cases table : value.isTable
            · obtain ⟨entries, rfl⟩ := Value.exists_of_isTable table
              rw [mergeValue_table]
              by_cases both : (target.get? key).any Value.isTable
              · rw [if_pos both]
                exact ih inner leafTarget leafMore
              · have single : entriesOf (target.get? key) = [] := by
                  refine entriesOf_leaf ?_
                  cases present : target.get? key with
                  | none => rfl
                  | some other => simpa [present] using both
                rw [if_neg both, single, valueAt?_nil, Option.or_none]
            · rw [Bool.not_eq_true] at table
              have bare : entriesOf (some value) = [] := entriesOf_leaf (by simp [table])
              rw [entriesOf_mergeValue_leaf table, bare, valueAt?_nil, Option.none_or]

end Merge

end DomainGen.Config
