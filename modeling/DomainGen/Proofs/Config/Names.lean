import DomainGen.Proofs.Config.Trees
import DomainGen.Proofs.Text.Paths

/-!
# The names of settings

A key can have dots, and it can be empty, so that a setting goes by a name which does not tell
how the tables stand that lead to it.  What the name does tell, up to empty keys in front, is
the path of its segments (`leads_iff_names`).  Looking for a setting (`leads_of_search`),
arranging settings in a tree (`leads_of_settled`) and merging (`leads_of_merge`) yield no paths
that were not there before.
-/

namespace DomainGen

theorem Text.dotFree_of_mem_segments {text part : String} (member : part ∈ segments '.' text) :
    DotFree part := by
  rw [segments, List.mem_map] at member
  obtain ⟨piece, cutOut, rfl⟩ := member
  rw [DotFree, String.toList_ofList]
  exact Path.not_mem_of_mem_cut cutOut

theorem Text.segments_of_dotFree {part : String} (free : DotFree part) :
    segments '.' part = [part] := by
  have cutOut := segments_join (List.cons_ne_nil part []) (List.forall_mem_singleton.mpr free)
  rwa [join, String.intercalate_singleton] at cutOut

namespace Config

open Text (segments)
open Toml (Value Table Proper)
open Toml.Table (get?_set mem_set mem_of_get? entriesOf entriesAt)

/-! ## Paths -/

/-- A path without the empty keys in front of it. -/
def trimmed (path : List String) : List String := path.dropWhile (· = "")

theorem trimmed_append_trimmed (front back : List String) :
    trimmed (trimmed front ++ back) = trimmed (front ++ back) := by
  induction front with
  | nil => rfl
  | cons key front ih =>
      by_cases empty : key = ""
      · have skipped : ∀ rest, trimmed (key :: rest) = trimmed rest :=
          fun _ => List.dropWhile_cons_of_pos (by simpa using empty)
        rw [skipped, ih, List.cons_append, skipped]
      · have kept : ∀ rest, trimmed (key :: rest) = key :: rest :=
          fun _ => List.dropWhile_cons_of_neg (by simpa using empty)
        rw [kept]

/-- A path is the same when it is trimmed, unless it begins with an empty key. -/
theorem trimmed_eq_or_head (path : List String) :
    trimmed path = path ∨ ∃ rest, path = "" :: rest := by
  cases path with
  | nil => exact .inl rfl
  | cons key rest =>
      by_cases empty : key = ""
      · exact .inr ⟨rest, by rw [empty]⟩
      · exact .inl (List.dropWhile_cons_of_neg (by simpa using empty))

theorem trimmed_segments_below (path key : String) :
    trimmed (segments '.' (if path = "" then key else path ++ "." ++ key)) =
      trimmed (trimmed (segments '.' path) ++ segments '.' key) := by
  rw [trimmed_append_trimmed]
  split
  · next empty =>
    have single : segments '.' "" = [""] := by decide
    rw [empty, single]
    exact (List.dropWhile_cons_of_pos (by decide)).symm
  · exact congrArg trimmed (Text.segments_append '.' path key)

/-- From a value at a path, tables lead to a setting at another path. -/
inductive Leads : List String → Value → List String → Prop
  | leaf {value : Value} (single : value.isTable = false) (path : List String) :
      Leads path value path
  | entry {path target : List String} {entries : Table} {key : String} {value : Value}
      (member : (key, value) ∈ entries)
      (below : Leads (trimmed (path ++ segments '.' key)) value target) :
      Leads path (.table entries) target

theorem Leads.exists_entry {path target : List String} {entries : Table}
    (leads : Leads path (.table entries) target) :
    ∃ key value, (key, value) ∈ entries ∧
      Leads (trimmed (path ++ segments '.' key)) value target := by
  cases leads with
  | leaf single => cases single
  | entry member below => exact ⟨_, _, member, below⟩

/-! ## Names -/

mutual

/-- The settings in a value are those that it leads to. -/
theorem leads_iff_names (path : String) (target : List String) :
    ∀ value, Leads (trimmed (segments '.' path)) value target ↔
      ∃ name ∈ names path value, trimmed (segments '.' name) = target
  | .table entries => by
      rw [names, ← entries_lead_iff_names path target entries]
      constructor
      · exact Leads.exists_entry
      · rintro ⟨key, value, member, below⟩
        exact .entry member below
  | .text _ | .integer _ | .float _ | .boolean _ | .moment _ | .array _ => by
      simp only [names, List.mem_singleton, exists_eq_left]
      constructor
      · intro leads
        cases leads with
        | leaf single => rfl
      · rintro rfl
        exact .leaf rfl _

theorem entries_lead_iff_names (path : String) (target : List String) :
    ∀ entries : Table, (∃ key value, (key, value) ∈ entries ∧
        Leads (trimmed (trimmed (segments '.' path) ++ segments '.' key)) value target) ↔
      ∃ name ∈ namesBelow path entries, trimmed (segments '.' name) = target
  | [] => by simp [namesBelow]
  | (key, value) :: rest => by
      have first := leads_iff_names (if path = "" then key else path ++ "." ++ key) target value
      rw [trimmed_segments_below] at first
      have later := entries_lead_iff_names path target rest
      simp only [namesBelow, List.mem_append, or_and_right, exists_or, ← first, ← later]
      constructor
      · rintro ⟨other, found, member, below⟩
        rcases List.mem_cons.mp member with same | member
        · cases same
          exact .inl below
        · exact .inr ⟨other, found, member, below⟩
      · rintro (below | ⟨other, found, member, below⟩)
        · exact ⟨key, value, List.mem_cons_self, below⟩
        · exact ⟨other, found, List.mem_cons_of_mem _ member, below⟩

end

theorem mem_namesBelow {path key : String} {value : Value} {entries : Table}
    (member : (key, value) ∈ entries) {name : String}
    (found : name ∈ names (if path = "" then key else path ++ "." ++ key) value) :
    name ∈ namesBelow path entries := by
  induction entries with
  | nil => cases member
  | cons entry rest ih =>
      rw [namesBelow, List.mem_append]
      rcases List.mem_cons.mp member with rfl | later
      · exact .inl found
      · exact .inr (ih later)

theorem nodup_eraseDups (names : List String) : names.eraseDups.Nodup := by
  induction size : names.length using Nat.strongRecOn generalizing names with
  | ind length ih =>
      cases names with
      | nil => exact List.nodup_nil
      | cons name rest =>
          have shorter : (rest.filter fun other => !other == name).length < length := by
            rw [← size, List.length_cons]
            exact Nat.lt_succ_of_le (List.length_filter_le _ rest)
          rw [List.eraseDups_cons, List.nodup_cons]
          refine ⟨?_, ih _ shorter _ rfl⟩
          simp [List.mem_eraseDups]

theorem eraseDups_pair (name other : String) :
    [name, other].eraseDups = [name] ++ if other = name then [] else [other] := by
  by_cases same : other = name
  · simp [List.eraseDups_cons, same]
  · simp [List.eraseDups_cons, same]

theorem mem_settingNames {name : String} {table : Table} :
    name ∈ settingNames table ↔ name ∈ namesBelow "" table := List.mem_eraseDups

theorem nodup_settingNames (table : Table) : (settingNames table).Nodup := nodup_eraseDups _

/-- The names in a table tell where it leads, up to empty keys in front. -/
theorem leads_iff_settingNames {table : Table} {target : List String} :
    Leads [] (.table table) target ↔
      ∃ name ∈ settingNames table, trimmed (segments '.' name) = target := by
  have start : trimmed (segments '.' "") = [] := by decide
  have described := leads_iff_names "" target (.table table)
  rw [start] at described
  simpa only [mem_settingNames, names] using described

/-! ## What a setting is found at -/

/-- A setting of two names is found under a key with a dot, or in a table. -/
theorem search_pair (table : Table) (one two : String) :
    search table [one, two] =
      (table.get? (one ++ "." ++ two)).or (table.valueAt? [one, two]) := by
  have joined : Text.join "." [one, two] = one ++ "." ++ two := by
    rw [Text.join, String.intercalate_cons_cons, String.intercalate_singleton]
  have single : ∀ name, Text.join "." [name] = name := fun _ => String.intercalate_singleton
  have last : ∀ (entries : Table) (walked : List String) (name : String),
      searchFrom entries walked [name] = entries.get? (Text.join "." (walked ++ [name])) := by
    intro entries walked name
    rw [searchFrom, searchFrom, Option.none_or]
    cases entries.get? (Text.join "." (walked ++ [name])) with
    | none => rfl
    | some value => rfl
  rw [search, searchFrom, List.nil_append, last, List.singleton_append, joined, single,
    Table.valueAt?]
  congr 1
  cases table.get? one with
  | none => rfl
  | some value =>
      cases value with
      | table entries =>
          exact (last entries [] two).trans (congrArg (Toml.Table.get? entries) (single two))
      | _ => rfl

/-- What is found is found with a longer key, or under the key so far. -/
theorem exists_of_searchFrom {table : Table} {walked rest : List String} {name : String}
    {value : Value} (found : searchFrom table walked (name :: rest) = some value) :
    searchFrom table (walked ++ [name]) rest = some value ∨
      ∃ own, table.get? (Text.join "." (walked ++ [name])) = some own ∧
        (rest = [] ∧ own = value ∨
          ∃ entries, own = .table entries ∧ searchFrom entries [] rest = some value) := by
  rw [searchFrom, Option.or_eq_some_iff] at found
  refine found.imp_right fun ⟨_, under⟩ => ?_
  split at under
  · cases under
  · next own present =>
    refine ⟨own, present, ?_⟩
    split at under
    · next last => exact .inl ⟨List.isEmpty_iff.mp last, Option.some.inj under⟩
    · split at under
      · next entries => exact .inr ⟨entries, rfl, under⟩
      · cases under

theorem proper_of_search {table : Table} {walked rest : List String} {value : Value}
    (proper : Proper (.table table)) (found : searchFrom table walked rest = some value) :
    Proper value := by
  induction rest generalizing table walked with
  | nil => cases found
  | cons name rest ih =>
      rcases exists_of_searchFrom found with
        longer | ⟨own, present, ⟨-, rfl⟩ | ⟨entries, rfl, below⟩⟩
      · exact ih proper longer
      · exact proper.get? present
      · exact ih (proper.get? present) below

/-- What is found at a path leads to nothing that the table does not lead to. -/
theorem leads_of_search {table : Table} {path walked rest target : List String} {value : Value}
    (free : ∀ part ∈ walked ++ rest, Text.DotFree part)
    (found : searchFrom table walked rest = some value)
    (leads : Leads (trimmed (path ++ (walked ++ rest))) value target) :
    Leads path (.table table) target := by
  induction rest generalizing table path walked with
  | nil => cases found
  | cons name rest ih =>
      have split : walked ++ name :: rest = (walked ++ [name]) ++ rest := by simp
      rw [split] at free leads
      have key : segments '.' (Text.join "." (walked ++ [name])) = walked ++ [name] :=
        Text.segments_join (by simp) fun part member => free part (List.mem_append_left _ member)
      rcases exists_of_searchFrom found with longer | ⟨own, present, under⟩
      · exact ih free longer leads
      · refine .entry (mem_of_get? present) ?_
        rw [key]
        rcases under with ⟨rfl, rfl⟩ | ⟨entries, rfl, below⟩
        · rwa [List.append_nil] at leads
        · refine ih (fun part member => free part (List.mem_append_right _ member)) below ?_
          rw [List.nil_append, trimmed_append_trimmed, List.append_assoc]
          exact leads

/-! ## Trees -/

section Trees

variable {table : Table} {path target : List String} {value : Value}

theorem leads_of_set {key : String} (leads : Leads path (.table (table.set key value)) target) :
    Leads (trimmed (path ++ segments '.' key)) value target ∨
      Leads path (.table table) target := by
  obtain ⟨other, found, member, below⟩ := leads.exists_entry
  rcases mem_set member with same | member
  · cases same
    exact .inl below
  · exact .inr (.entry member below)

theorem leads_of_assign {names : List String} (free : ∀ name ∈ names, Text.DotFree name)
    (leads : Leads path (.table (assign value names table)) target) :
    Leads (trimmed (path ++ names)) value target ∨ Leads path (.table table) target := by
  induction names generalizing table path with
  | nil => exact .inr leads
  | cons key rest ih =>
      rw [List.forall_mem_cons] at free
      have single := Text.segments_of_dotFree free.1
      by_cases last : rest = []
      · subst last
        have own := leads_of_set leads
        rwa [single] at own
      · rw [assign_cons last] at leads
        rcases leads_of_set leads with below | present
        · rw [single] at below
          rcases ih free.2 below with own | present
          · left
            rwa [trimmed_append_trimmed, List.append_assoc] at own
          · right
            unfold entriesAt entriesOf at present
            split at present
            · next found =>
              refine .entry (mem_of_get? found) ?_
              rwa [single]
            · obtain ⟨_, _, member, -⟩ := present.exists_entry
              cases member
        · exact .inr present

theorem exists_of_leads_tree {settings : List (String × Value)}
    (leads : Leads [] (.table (tree settings)) target) :
    ∃ name value, (name, value) ∈ settings ∧
      Leads (trimmed (segments '.' name)) value target := by
  induction settings using List.reverseRecOn with
  | nil =>
      obtain ⟨_, _, member, -⟩ := leads.exists_entry
      cases member
  | append_singleton settings last ih =>
      obtain ⟨name, value⟩ := last
      rw [tree_concat] at leads
      rcases leads_of_assign (fun _ => Text.dotFree_of_mem_segments) leads with own | earlier
      · exact ⟨name, value, List.mem_append_right _ List.mem_cons_self, own⟩
      · obtain ⟨other, found, member, below⟩ := ih earlier
        exact ⟨other, found, List.mem_append_left _ member, below⟩

end Trees

/-! ## The settings of a table -/

/-- The values of some names, for those that have one. -/
def named {α : Type} (names : List String) (value? : String → Option α) : List (String × α) :=
  names.filterMap fun name => (value? name).map (name, ·)

section Named

variable {α : Type} {names : List String} {value? : String → Option α} {name : String}

theorem mem_named {value : α} :
    (name, value) ∈ named names value? ↔ name ∈ names ∧ value? name = some value := by
  simp only [named, List.mem_filterMap, Option.map_eq_some_iff, Prod.mk.injEq]
  constructor
  · rintro ⟨_, member, _, found, rfl, rfl⟩
    exact ⟨member, found⟩
  · rintro ⟨member, found⟩
    exact ⟨name, member, value, found, rfl, rfl⟩

theorem map_fst_named (names : List String) (value? : String → Option α) :
    (named names value?).map Prod.fst = names.filter fun name => (value? name).isSome := by
  rw [named, List.map_filterMap, ← List.filterMap_eq_filter]
  refine List.filterMap_congr fun name _ => ?_
  cases found : value? name with
  | none => simp [Option.guard, found]
  | some value => simp [Option.guard, found]

theorem named_cons (name : String) (names : List String) (value? : String → Option α) :
    named (name :: names) value? =
      ((value? name).map (name, ·)).toList ++ named names value? := by
  rw [named, List.filterMap_cons]
  cases value? name with
  | none => rfl
  | some value => rfl

theorem lookup_named (names : List String) (value? : String → Option α) (name : String) :
    (named names value?).lookup name = if name ∈ names then value? name else none := by
  induction names with
  | nil => rfl
  | cons first rest ih =>
      rw [named_cons, List.lookup_append, ih]
      by_cases same : name = first
      · subst same
        rw [if_pos List.mem_cons_self]
        cases found : value? name with
        | some value => simp
        | none => simp
      · have apart : (name == first) = false := by simpa using same
        have member : name ∈ first :: rest ↔ name ∈ rest := by simp [same]
        rw [if_congr member rfl rfl]
        cases value? first with
        | none => rw [Option.map_none, Option.toList_none, List.lookup_nil, Option.none_or]
        | some value =>
            rw [Option.map_some, Option.toList_some, List.lookup_cons, apart, List.lookup_nil,
              Option.none_or]

/-- A setting with a value stands at its path, if the others are apart from it. -/
theorem valueAt?_tree_named {value? : String → Option Value} (distinct : names.Nodup)
    (apart : ∀ other ∈ names, other ≠ name → Apart (segments '.' other) (segments '.' name)) :
    (tree (named names value?)).valueAt? (segments '.' name) =
      if name ∈ names then value? name else none := by
  rw [valueAt?_tree, lookup_named]
  · rw [map_fst_named]
    exact distinct.filter _
  · intro other listed
    rw [map_fst_named] at listed
    exact apart other (List.mem_of_mem_filter listed)

end Named

/-- A settled table leads to nothing new. -/
theorem leads_of_settled {table : Table} {target : List String}
    (leads : Leads [] (.table (settled table)) target) : Leads [] (.table table) target := by
  obtain ⟨name, value, member, below⟩ := exists_of_leads_tree leads
  exact leads_of_search (fun _ => Text.dotFree_of_mem_segments) (mem_named.mp member).2 below

theorem proper_settled {table : Table} (proper : Proper (.table table)) :
    Proper (.table (settled table)) := by
  refine proper_tree fun setting member => ?_
  exact proper_of_search proper (mem_named.mp member).2

/-! ## Top keys without dots -/

theorem dotFree_of_mem_assign {value : Value} {path : List String} {table : Table}
    (free : ∀ name ∈ path, Text.DotFree name) (keys : ∀ entry ∈ table, Text.DotFree entry.1) :
    ∀ entry ∈ assign value path table, Text.DotFree entry.1 := by
  cases path with
  | nil => exact keys
  | cons key rest =>
      intro entry member
      by_cases last : rest = []
      · subst last
        rcases mem_set member with rfl | present
        · exact free _ List.mem_cons_self
        · exact keys entry present
      · rw [assign_cons last] at member
        rcases mem_set member with rfl | present
        · exact free _ List.mem_cons_self
        · exact keys entry present

theorem dotFree_of_mem_tree (settings : List (String × Value)) :
    ∀ entry ∈ tree settings, Text.DotFree entry.1 := by
  induction settings using List.reverseRecOn with
  | nil => nofun
  | append_singleton settings last ih =>
      rw [tree_concat]
      exact dotFree_of_mem_assign (fun _ => Text.dotFree_of_mem_segments) ih

theorem dotFree_of_mem_merge {present more : Table}
    (keys : ∀ entry ∈ present, Text.DotFree entry.1)
    (further : ∀ entry ∈ more, Text.DotFree entry.1) :
    ∀ entry ∈ merge present more, Text.DotFree entry.1 := by
  induction more generalizing present with
  | nil => exact keys
  | cons first rest ih =>
      rw [List.forall_mem_cons] at further
      refine ih (fun entry member => ?_) further.2
      rcases mem_set member with rfl | member
      · exact further.1
      · exact keys entry member

/-! ## Merging -/

mutual

/-- A merged value leads where it leads by itself, or where the present one does. -/
theorem leads_of_mergeValue (present : Option Value) (path target : List String) :
    ∀ value, Leads path (mergeValue present value) target →
      Leads path value target ∨ ∃ own, present = some own ∧ Leads path own target
  | .table more => fun leads => by
      rw [mergeValue_table] at leads
      split at leads
      · next both =>
        cases present with
        | none => cases both
        | some own =>
            obtain ⟨entries, rfl⟩ := Value.exists_of_isTable both
            exact (leads_of_merge path target more entries leads).symm.imp_right
              fun earlier => ⟨_, rfl, earlier⟩
      · exact .inl leads
  | .text _ | .integer _ | .float _ | .boolean _ | .moment _ | .array _ => fun leads => by
      rw [mergeValue_leaf rfl] at leads
      split at leads
      · next both =>
        cases present with
        | none => cases both
        | some own => exact .inr ⟨own, rfl, leads⟩
      · exact .inl leads

/-- A merged table leads where one of the two does. -/
theorem leads_of_merge (path target : List String) :
    ∀ more present : Table, Leads path (.table (merge present more)) target →
      Leads path (.table present) target ∨ Leads path (.table more) target
  | [], _ => fun leads => .inl leads
  | (key, value) :: rest, present => fun leads => by
      rw [merge] at leads
      rcases leads_of_merge path target rest _ leads with earlier | later
      · rcases leads_of_set earlier with own | kept
        · rcases leads_of_mergeValue _ _ target value own with new | ⟨old, found, kept⟩
          · exact .inr (.entry List.mem_cons_self new)
          · exact .inl (.entry (mem_of_get? found) kept)
        · exact .inl kept
      · obtain ⟨other, found, member, below⟩ := later.exists_entry
        exact .inr (.entry (List.mem_cons_of_mem _ member) below)

end

/-! ## Tables that are read -/

mutual

theorem proper_lowered : ∀ value, Proper (lowered value)
  | .table entries => proper_loweredEntries entries [] .empty
  | .text _ | .integer _ | .float _ | .boolean _ | .moment _ => .leaf rfl
  | .array _ => .leaf rfl

theorem proper_loweredEntries : ∀ (entries done : Table), Proper (.table done) →
    Proper (.table (loweredEntries done entries))
  | [], _ => fun proper => proper
  | (_, value) :: rest, _ => fun proper =>
      proper_loweredEntries rest _ (proper.set _ (proper_lowered value))

end

end Config

end DomainGen
