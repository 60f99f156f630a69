import DomainGen.Config.Audit
import DomainGen.Proofs.Config.Names

/-!
# Merging well-typed files

A file is well-typed if what it says of the known settings is of the kind that they have to
be, and if nothing in it stands above or below one of them.  Merged files say of a known
setting what the last of them says that says anything (`search_merged`), and nothing in them
stands in its way (`eq_or_apart_of_merged`).
-/

namespace DomainGen.Config

open Text (segments)
open Toml (Value Table Proper)

/-! ## Known settings -/

/-- Whether a value is what a setting has to be. -/
def Expected.accepts : Expected → Value → Bool
  | text, .text _ => true
  | boolean, .boolean _ => true
  | integer, .integer _ => true
  | _, _ => false

theorem Expected.leaf_of_accepts {expected : Expected} {value : Value}
    (accepted : expected.accepts value) : value.isTable = false := by
  cases value with
  | table entries => cases expected <;> cases accepted
  | _ => rfl

/-- A known setting: a name in a group of settings. -/
structure Setting where
  group : String
  name : String
  expected : Expected
  deriving Repr, DecidableEq

namespace Setting

/-- The name of a setting with that of its group. -/
def key (setting : Setting) : String := setting.group ++ "." ++ setting.name

/-- The path of a setting. -/
def path (setting : Setting) : List String := [setting.group, setting.name]

/-- All settings that mean something. -/
def all : List Setting :=
  schema.flatMap fun group => group.settings.map fun (name, expected) =>
    { group := group.name, name, expected }

end Setting

theorem segments_key : ∀ setting ∈ Setting.all,
    segments '.' setting.key = setting.path ∧ segments '.' setting.group = [setting.group] ∧
      setting.group ≠ "" := by
  decide

/-! ## Well-typed files -/

/-- Two paths that are not apart.  The path without keys stands nowhere. -/
def Clashes (path other : List String) : Prop :=
  path ≠ [] ∧ path ≠ other ∧ ¬ Apart path other

instance (path other : List String) : Decidable (Clashes path other) :=
  inferInstanceAs (Decidable (path ≠ [] ∧ path ≠ other ∧ ¬ Apart path other))

/-- Settings of which the known ones are what they have to be, and nothing stands above or
below these. -/
structure WellTyped (table : Table) : Prop where
  accepted : ∀ setting ∈ Setting.all,
    (search table setting.path).all setting.expected.accepts
  clear : ∀ name ∈ settingNames table, ∀ setting ∈ Setting.all,
    ¬ Clashes (trimmed (segments '.' name)) setting.path

instance (table : Table) : Decidable (WellTyped table) :=
  decidable_of_iff ((∀ setting ∈ Setting.all,
      (search table setting.path).all setting.expected.accepts) ∧
    ∀ name ∈ settingNames table, ∀ setting ∈ Setting.all,
      ¬ Clashes (trimmed (segments '.' name)) setting.path)
    ⟨fun ⟨accepted, clear⟩ => ⟨accepted, clear⟩,
      fun typed => ⟨typed.accepted, typed.clear⟩⟩

section Apart

variable {table : Table} {setting : Setting}

/-- A setting that does not clash with a known one is this one or apart from it. -/
theorem eq_or_apart (known : setting ∈ Setting.all) {name : String}
    (clear : ¬ Clashes (trimmed (segments '.' name)) setting.path) :
    name = setting.key ∨ Apart (segments '.' name) (segments '.' setting.key) := by
  obtain ⟨same, -, filled⟩ := segments_key setting known
  rw [same]
  rcases trimmed_eq_or_head (segments '.' name) with trimmed | ⟨rest, cutOut⟩
  · rw [trimmed] at clear
    by_cases whole : segments '.' name = setting.path
    · left
      have joined := Text.join_segments '.' name
      rw [whole, ← same] at joined
      exact joined.symm.trans (Text.join_segments '.' setting.key)
    · right
      by_contra clash
      exact clear ⟨Text.segments_ne_nil '.' name, whole, clash⟩
  · right
    rw [cutOut]
    exact apart_of_head_ne filled.symm rest [setting.name]

/-- A known setting that has a value is one of the settings of a table. -/
theorem key_mem_settingNames (known : setting ∈ Setting.all) {value : Value}
    (found : search table setting.path = some value) (leaf : value.isTable = false) :
    setting.key ∈ settingNames table := by
  obtain ⟨-, -, filled⟩ := segments_key setting known
  have own : ∀ path, names path value = [path] := by
    intro path
    cases value with
    | table entries => cases leaf
    | _ => rfl
  rw [mem_settingNames]
  rw [Setting.path, search_pair, Option.or_eq_some_iff] at found
  rcases found with dotted | ⟨-, nested⟩
  · refine mem_namesBelow (Toml.Table.mem_of_get? dotted) ?_
    rw [if_pos rfl, own]
    exact List.mem_singleton_self _
  · rw [Toml.Table.valueAt?_cons (List.cons_ne_nil _ [])] at nested
    unfold Toml.Table.entriesAt Toml.Table.entriesOf at nested
    split at nested
    · next entries present =>
      refine mem_namesBelow (Toml.Table.mem_of_get? present) ?_
      rw [if_pos rfl, names]
      refine mem_namesBelow (Toml.Table.mem_of_get? nested) ?_
      rw [if_neg filled, own]
      exact List.mem_singleton_self _
    · cases nested

end Apart

section Files

variable {table : Table} {setting : Setting} (known : setting ∈ Setting.all)
include known

/-- A settled file says of a known setting what the file says. -/
theorem valueAt?_settled (typed : WellTyped table) :
    (settled table).valueAt? setting.path = search table setting.path := by
  obtain ⟨same, -⟩ := segments_key setting known
  have settled_eq : settled table =
      tree (named (settingNames table) fun name => search table (segments '.' name)) := rfl
  rw [settled_eq, ← same, valueAt?_tree_named (nodup_settingNames table)]
  · rw [same]
    by_cases member : setting.key ∈ settingNames table
    · rw [if_pos member]
    · rw [if_neg member]
      have accepted := typed.accepted setting known
      cases found : search table setting.path with
      | none => rfl
      | some value =>
          rw [found, Option.all_some] at accepted
          exact absurd (key_mem_settingNames known found (Expected.leaf_of_accepts accepted)) member
  · intro other listed differ
    exact (eq_or_apart known (typed.clear other listed setting known)).resolve_left differ

end Files

/-! ## Merged files -/

/-- The settings of some files, the weakest first. -/
def merged (tables : List Table) : Table :=
  tables.foldl (fun table more => merge table (settled more)) []

theorem merged_concat (tables : List Table) (last : Table) :
    merged (tables ++ [last]) = merge (merged tables) (settled last) := List.foldl_concat ..

/-- Tables that were read from well-typed files. -/
def AllTyped (tables : List Table) : Prop :=
  ∀ table ∈ tables, Proper (.table table) ∧ WellTyped table

theorem leads_of_merged {tables : List Table} {target : List String}
    (leads : Leads [] (.table (merged tables)) target) :
    ∃ table ∈ tables, Leads [] (.table table) target := by
  induction tables using List.reverseRecOn with
  | nil =>
      obtain ⟨_, _, member, -⟩ := leads.exists_entry
      cases member
  | append_singleton tables last ih =>
      rw [merged_concat] at leads
      rcases leads_of_merge _ _ _ _ leads with earlier | own
      · obtain ⟨table, member, leads⟩ := ih earlier
        exact ⟨table, List.mem_append_left _ member, leads⟩
      · exact ⟨last, List.mem_append_right _ List.mem_cons_self, leads_of_settled own⟩

theorem dotFree_of_mem_merged (tables : List Table) :
    ∀ entry ∈ merged tables, Text.DotFree entry.1 := by
  induction tables using List.reverseRecOn with
  | nil => nofun
  | append_singleton tables last ih =>
      rw [merged_concat]
      exact dotFree_of_mem_merge ih (dotFree_of_mem_tree _)

section Merged

variable {tables : List Table} (typed : AllTyped tables) {setting : Setting}
  (known : setting ∈ Setting.all)
include typed known

/-- The settings of merged files are known ones or apart from these. -/
theorem eq_or_apart_of_merged {name : String} (member : name ∈ settingNames (merged tables)) :
    name = setting.key ∨ Apart (segments '.' name) (segments '.' setting.key) := by
  obtain ⟨table, listed, leads⟩ :=
    leads_of_merged (leads_iff_settingNames.mpr ⟨name, member, rfl⟩)
  obtain ⟨other, found, same⟩ := leads_iff_settingNames.mp leads
  refine eq_or_apart known ?_
  rw [← same]
  exact (typed table listed).2.clear other found setting known

theorem accepted_of_findSome? :
    (tables.reverse.findSome? (search · setting.path)).all setting.expected.accepts := by
  cases found : tables.reverse.findSome? (search · setting.path) with
  | none => rfl
  | some value =>
      obtain ⟨table, member, own⟩ := List.exists_of_findSome?_eq_some found
      have accepted := (typed table (List.mem_reverse.mp member)).2.accepted setting known
      rwa [own] at accepted

theorem valueAt?_merged :
    (merged tables).valueAt? setting.path = tables.reverse.findSome? (search · setting.path) := by
  induction tables using List.reverseRecOn with
  | nil => rfl
  | append_singleton tables last ih =>
      obtain ⟨earlier, own⟩ := List.forall_mem_append.mp typed
      obtain ⟨proper, lastTyped⟩ := own last List.mem_cons_self
      have leaf : ∀ found : Option Value, found.all setting.expected.accepts →
          found.all (!·.isTable) := by
        intro found accepted
        cases found with
        | none => rfl
        | some value => simpa using Expected.leaf_of_accepts accepted
      rw [merged_concat, valueAt?_merge (proper_settled proper), valueAt?_settled known lastTyped,
        ih earlier, List.reverse_concat, List.findSome?_cons]
      · cases search last setting.path with
        | none => rfl
        | some value => rfl
      · rw [List.forall_mem_cons, List.forall_mem_singleton, ih earlier,
          valueAt?_settled known lastTyped]
        exact ⟨leaf _ (accepted_of_findSome? earlier known), leaf _ (lastTyped.accepted _ known)⟩

/-- Merged files say of a known setting what the last of them says that says anything. -/
theorem search_merged :
    search (merged tables) setting.path = tables.reverse.findSome? (search · setting.path) := by
  have absent : (merged tables).get? setting.key = none := by
    cases found : (merged tables).get? setting.key with
    | none => rfl
    | some value =>
        have free := dotFree_of_mem_merged tables _ (Toml.Table.mem_of_get? found)
        exact absurd (by simp [Setting.key, String.toList_append]) free
  rw [Setting.path, search_pair, ← Setting.key, absent, Option.none_or]
  exact valueAt?_merged typed known

end Merged

end DomainGen.Config
