import DomainGen.Proofs.Host.Directories
import Mathlib.Data.List.Basic

/-!
# Listing and reading files

The files below a directory, spelled with the path of the directory in front, lead
back to the entries they stand for.  Whether such a file can be read depends on its
path alone: no limit may be in the way (`read_below`).  A scan finds all of them unless the
path of a directory on the way is too long (`scannable_iff`, `scan?_of_directory`).
-/

namespace DomainGen

namespace FileTree

variable {tree : FileTree} {working path : String}

theorem read_eq_ok_iff {bytes : Bytes} :
    tree.read working path = .ok bytes ↔
      ∃ place, tree.locate working path = .ok place ∧ place.slash = false ∧
        tree.find? place.names = some (.file bytes) := by
  unfold read node
  cases tree.locate working path with
  | error refusal => simp [bind, Except.bind]
  | ok place =>
      simp only [bind, Except.bind, Except.ok.injEq, exists_eq_left']
      cases tree.find? place.names with
      | none => simp
      | some node =>
          cases node with
          | directory => simp [pure, Except.pure]
          | file content =>
              cases place.slash with
              | true => simp
              | false => simp [pure, Except.pure]

theorem node_eq_file_iff {bytes : Bytes} :
    tree.node working path = .ok (.file bytes) ↔ tree.read working path = .ok bytes := by
  unfold read
  cases tree.node working path with
  | error refusal => simp [bind, Except.bind]
  | ok node =>
      cases node with
      | directory => simp [bind, Except.bind]
      | file content => simp [bind, Except.bind, pure, Except.pure]

theorem ne_empty_of_node {node : Node} (standing : tree.node working path = .ok node) :
    path ≠ "" := by
  rintro rfl
  rw [FileTree.node, locate, if_pos rfl] at standing
  cases standing

/-! ## What a listing tells -/

/-- The spelling of what stands below a directory, by its names and their number up to the
directory. -/
def pathBelow (path : String) (depth : Nat) (names : List String) : String :=
  Path.under path (Text.join "/" (names.drop depth))

theorem pathBelow_append (path : String) (above names : List String) :
    pathBelow path above.length (above ++ names) = Path.under path (Text.join "/" names) := by
  rw [pathBelow, List.drop_left]

theorem entriesBelow_of_file {bytes : Bytes} (found : tree.node working path = .ok (.file bytes)) :
    tree.entriesBelow working path = .ok [entry path .file] := by
  rw [entriesBelow, found]
  rfl

theorem entriesBelow_of_directory (found : tree.node working path = .ok .directory) :
    tree.entriesBelow working path =
      .ok (entry path .directory :: (tree.inside (Path.way working path)).map fun inner =>
        entry (pathBelow path (Path.way working path).length inner.1) inner.2.kind) := by
  rcases node_eq_directory_iff.mp found with ⟨place, located, -⟩
  rw [entriesBelow, found, ← locate_way located]
  simp only [bind, Except.bind, located, pure, Except.pure]
  rfl

theorem closed_entry_eq_none_iff {kind : EntryKind} :
    (entry path kind).closed = none ↔
      (kind = .directory → Text.byteLength path < pathLimit) := by
  simp [entry]

/-- Every directory below a root can be opened: its path is not too long. -/
def OpenBelow (tree : FileTree) (working root : String) : Prop :=
  ∀ names, names ≠ [] → tree.find? (Path.way working root ++ names) = some .directory →
    Text.byteLength (Path.under root (Text.join "/" names)) < pathLimit

theorem OpenBelow.of_hasDirectories {other : FileTree} {root : String}
    (opened : other.OpenBelow working root) (directories : tree.HasDirectories other) :
    tree.OpenBelow working root :=
  fun names below found => opened names below (directories _ found)

theorem openBelow_of_entries {root : String}
    (short : ∀ entry ∈ tree.entries, entry.2 = .directory →
      Text.byteLength (pathBelow root (Path.way working root).length entry.1) < pathLimit) :
    tree.OpenBelow working root := by
  intro names below found
  have fits := short _ (mem_of_find? (by simp [below]) found) rfl
  rwa [pathBelow_append] at fits

section Below

variable (wellFormed : tree.WellFormed)
include wellFormed

theorem mem_below_iff {above names : List String} {node : Node} :
    (names, node) ∈ tree.below above ↔
      names ≠ [] ∧ above <+: names ∧ tree.find? names = some node := by
  rw [below, List.mem_filter, List.isPrefixOf_iff_prefix]
  constructor
  · rintro ⟨member, isAbove⟩
    exact ⟨wellFormed.proper _ member, isAbove, wellFormed.find?_of_mem member⟩
  · rintro ⟨proper, isAbove, found⟩
    exact ⟨mem_of_find? proper found, isAbove⟩

/-- A file below a directory, by the names that lead to it from there. -/
theorem exists_names_below {above names : List String} {bytes : Bytes}
    (there : tree.find? above = some .directory)
    (member : (names, .file bytes) ∈ tree.below above) :
    ∃ inner, inner ≠ [] ∧ (∀ name ∈ inner, Path.IsPlain name) ∧ names = above ++ inner ∧
      tree.find? (above ++ inner) = some (.file bytes) := by
  rcases (mem_below_iff wellFormed).mp member with ⟨-, ⟨inner, rfl⟩, found⟩
  refine ⟨inner, ?_, ?_, rfl, found⟩
  · rintro rfl
    rw [List.append_nil, there] at found
    cases found
  · intro name inside
    exact wellFormed.plain_of_find? found name (List.mem_append_right _ inside)

variable {directory : String} {names : List String} (spelled : directory ≠ "")
  (plain : ∀ name ∈ names, Path.IsPlain name) (below : names ≠ [])
include spelled plain below

/-- A file below a directory can be read if no limit is in the way. -/
theorem read_below {bytes : Bytes}
    (found : tree.find? (Path.way working directory ++ names) = some (.file bytes)) :
    (tree.read working (Path.under directory (Text.join "/" names))).toOption =
      if Fits (Path.under directory (Text.join "/" names)) then some bytes else none := by
  split
  · next fits =>
    have spelling := Path.under_join plain below spelled
    rw [spelling] at fits ⊢
    have located := locate_append plain (by simp [below]) fits fun above isAbove apart =>
      wellFormed.find?_above found isAbove apart
    rw [read_eq_ok_iff.mpr ⟨_, located, rfl, found⟩]
    rfl
  · next limited =>
    cases result : tree.read working (Path.under directory (Text.join "/" names)) with
    | error refusal => rfl
    | ok other =>
        rcases read_eq_ok_iff.mp result with ⟨place, located, -⟩
        exact absurd (fits_of_locate located) limited

end Below

section Inside

variable (wellFormed : tree.WellFormed)
include wellFormed

/-- What stands inside a directory, by the names that lead to it from there. -/
theorem WellFormed.exists_names_of_mem_inside {above : List String}
    {entry : List String × Node} (member : entry ∈ tree.inside above) :
    ∃ names, names ≠ [] ∧ (∀ name ∈ names, Path.IsPlain name) ∧ entry.1 = above ++ names ∧
      tree.find? (above ++ names) = some entry.2 := by
  obtain ⟨below, apart⟩ := List.mem_filter.mp member
  obtain ⟨-, ⟨names, same⟩, found⟩ := (mem_below_iff wellFormed).mp below
  rw [← same] at found
  refine ⟨names, ?_, ?_, same.symm, found⟩
  · rintro rfl
    simp [← same] at apart
  · intro name inner
    exact wellFormed.plain_of_find? found name (List.mem_append_right _ inner)

theorem WellFormed.mem_inside {above names : List String} {node : Node}
    (proper : names ≠ []) (found : tree.find? (above ++ names) = some node) :
    (above ++ names, node) ∈ tree.inside above := by
  rw [inside, List.mem_filter, mem_below_iff wellFormed]
  exact ⟨⟨by simp [proper], List.prefix_append _ _, found⟩, by simp [proper]⟩

end Inside

/-! ## Scans -/

/-- The spelling of a file below a directory, by the names of the file and their number up
to the directory. -/
def fileBelow? (path : String) (depth : Nat) : List String × Node → Option String
  | (names, .file _) => some (pathBelow path depth names)
  | (_, .directory) => none

theorem scan?_of_file {bytes : Bytes} (found : tree.node working path = .ok (.file bytes)) :
    (tree.view working).scan? path = some [path] :=
  View.scan?_eq_some_iff.mpr
    ⟨[entry path .file], entriesBelow_of_file found, by simp [entry], by simp [entry]⟩

section Directory

variable (found : tree.node working path = .ok .directory)
include found

/-- Exactly if every directory below a root can be opened, a scan of the root comes to its
end. -/
theorem scannable_iff (wellFormed : tree.WellFormed) :
    (tree.view working).Scannable path ↔ tree.OpenBelow working path := by
  have listed : (tree.view working).entries path = _ := entriesBelow_of_directory found
  simp only [View.Scannable, listed, Except.ok.injEq, exists_eq_left', List.forall_mem_cons,
    List.forall_mem_map, closed_entry_eq_none_iff]
  constructor
  · rintro ⟨-, opened⟩ names below standing
    have short := opened _ (wellFormed.mem_inside below standing) rfl rfl
    rwa [pathBelow_append] at short
  · intro opened
    refine ⟨fun _ _ => (find?_way_of_node found).1.short, fun inner member kind _ => ?_⟩
    obtain ⟨names, below, -, same, standing⟩ := wellFormed.exists_names_of_mem_inside member
    rw [same, pathBelow_append]
    refine opened names below ?_
    cases node : inner.2 with
    | file bytes =>
        rw [node] at kind
        cases kind
    | directory => rw [standing, node]

/-- A scan that comes to its end finds the files below its root. -/
theorem scan?_of_directory (wellFormed : tree.WellFormed) (opened : tree.OpenBelow working path) :
    (tree.view working).scan? path =
      some ((tree.below (Path.way working path)).filterMap
        (fileBelow? path (Path.way working path).length)) := by
  obtain ⟨entries, listed, ends⟩ := (scannable_iff found wellFormed).mpr opened
  refine View.scan?_eq_some_iff.mpr ⟨entries, listed, ends, ?_⟩
  have same : tree.entriesBelow working path = .ok entries := listed
  rw [entriesBelow_of_directory found, Except.ok.injEq] at same
  rw [← same, List.filter_cons_of_neg (by simp [entry]), List.filter_map, List.map_map, inside,
    List.filter_filter, ← List.filterMap_eq_map, List.filterMap_filter]
  refine List.filterMap_congr fun inner member => ?_
  obtain ⟨names, node⟩ := inner
  cases node with
  | directory => simp [entry, fileBelow?, Node.kind]
  | file bytes =>
      have apart : names ≠ Path.way working path := by
        rintro rfl
        have standing := ((mem_below_iff wellFormed).mp member).2.2
        rw [(find?_way_of_node found).2] at standing
        cases standing
      simp [entry, fileBelow?, Node.kind, apart]

end Directory

/-- A scan comes to its end if something stands at its root and every directory below can be
opened. -/
theorem isSome_scan?_iff (wellFormed : tree.WellFormed) :
    ((tree.view working).scan? path).isSome ↔
      (∃ node, tree.node working path = .ok node) ∧ tree.OpenBelow working path := by
  cases found : tree.node working path with
  | error refusal =>
      have unlisted : (tree.view working).entries path = .error refusal := by
        change tree.entriesBelow working path = _
        rw [entriesBelow, found]
        rfl
      simp [View.scan?, unlisted, Except.toOption]
  | ok node =>
      cases node with
      | directory => simp [View.isSome_scan?_iff, scannable_iff found wellFormed]
      | file bytes =>
          have opened : tree.OpenBelow working path := by
            intro names below standing
            obtain ⟨place, located, -, file⟩ := read_eq_ok_iff.mp (node_eq_file_iff.mp found)
            rw [locate_way located] at file
            have directory := wellFormed.find?_above standing (List.prefix_append _ names)
              (by simp [below])
            rw [file] at directory
            cases directory
          simp [scan?_of_file found, opened]

end FileTree

end DomainGen
