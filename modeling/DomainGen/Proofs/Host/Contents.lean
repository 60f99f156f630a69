import DomainGen.Proofs.Host.Listing

/-!
# What a tree consists of

A file tree is known by the kinds of what stands in it and by the contents of its files
(`eq_of_contents`).  Most changes keep the kinds, so that the paths that could be followed
can be followed as before and lead to the same kind of node (`KeepsKinds.node`).
-/

namespace DomainGen.FileTree

variable {tree other third : FileTree} {working path : String} {names : List String}
  {bytes : Bytes}

/-- The contents of the files of a tree. -/
def contents (tree : FileTree) (names : List String) : Option Bytes :=
  match tree.find? names with
  | some (.file bytes) => some bytes
  | _ => none

theorem contents_eq_some_iff :
    tree.contents names = some bytes ↔ tree.find? names = some (.file bytes) := by
  unfold contents
  split
  · next found => rw [found, Option.some.injEq, Option.some.injEq, Node.file.injEq]
  · next other => exact ⟨nofun, fun found => absurd found (other bytes)⟩

theorem contents_put_file (proper : names ≠ []) :
    (tree.put names (.file bytes)).contents = Function.update tree.contents names (some bytes) := by
  funext way
  rw [contents, find?_put tree proper, Function.update_apply]
  by_cases same : names = way
  · rw [if_pos same, if_pos same.symm]
  · rw [if_neg same, if_neg (Ne.symm same)]
    rfl

theorem Grown.contents_eq (grown : tree.Grown other) : other.contents = tree.contents := by
  funext way
  apply Option.ext
  intro bytes
  rw [contents_eq_some_iff, contents_eq_some_iff]
  constructor
  · intro found
    obtain before | directory := grown.added _ _ found
    · exact before
    · cases directory
  · exact grown.kept _ _

/-! ## Kinds -/

theorem node_eq_directory_of_kind
    (found : (tree.node working path).map (·.kind) = .ok .directory) :
    tree.node working path = .ok .directory := by
  obtain ⟨node, found, kind⟩ := exists_of_map_eq_ok found
  cases node with
  | directory => exact found
  | file bytes => cases kind

/-- What stands in one tree stands in the other, as the same kind of node. -/
def KeepsKinds (tree other : FileTree) : Prop :=
  ∀ names node, tree.find? names = some node →
    (other.find? names).map Node.kind = some node.kind

namespace KeepsKinds

theorem refl (tree : FileTree) : tree.KeepsKinds tree := by
  intro names node found
  rw [found, Option.map_some]

theorem trans (one : tree.KeepsKinds other) (two : other.KeepsKinds third) :
    tree.KeepsKinds third := by
  intro names node found
  obtain ⟨middle, found, same⟩ := Option.map_eq_some_iff.mp (one names node found)
  rw [two names middle found, same]

variable (keeps : tree.KeepsKinds other)
include keeps

theorem hasDirectories : tree.HasDirectories other := by
  intro names found
  obtain ⟨node, found, kind⟩ := Option.map_eq_some_iff.mp (keeps names _ found)
  cases node with
  | directory => exact found
  | file bytes => cases kind

theorem exists_file (found : tree.find? names = some (.file bytes)) :
    ∃ later, other.find? names = some (.file later) := by
  obtain ⟨node, found, kind⟩ := Option.map_eq_some_iff.mp (keeps names _ found)
  cases node with
  | directory => cases kind
  | file later => exact ⟨later, found⟩

/-- A path leads to the same kind of node. -/
theorem node {kind : EntryKind} (found : (tree.node working path).map (·.kind) = .ok kind) :
    (other.node working path).map (·.kind) = .ok kind := by
  obtain ⟨node, stands, rfl⟩ := exists_of_map_eq_ok found
  cases node with
  | directory =>
      obtain ⟨place, located, found⟩ := node_eq_directory_iff.mp stands
      rw [node_eq_directory_iff.mpr
        ⟨place, locate_mono keeps.hasDirectories located, keeps.hasDirectories _ found⟩]
      rfl
  | file bytes =>
      obtain ⟨place, located, plain, found⟩ := read_eq_ok_iff.mp (node_eq_file_iff.mp stands)
      obtain ⟨later, found⟩ := keeps.exists_file found
      rw [node_eq_file_iff.mpr (read_eq_ok_iff.mpr
        ⟨place, locate_mono keeps.hasDirectories located, plain, found⟩)]
      rfl

end KeepsKinds

theorem Grown.keepsKinds (grown : tree.Grown other) : tree.KeepsKinds other := by
  intro names node found
  rw [grown.kept names node found, Option.map_some]

theorem keepsKinds_put_file (free : tree.find? names ≠ some .directory) :
    tree.KeepsKinds (tree.put names (.file bytes)) := by
  have proper : names ≠ [] := by
    rintro rfl
    exact free rfl
  intro way node found
  rw [find?_put tree proper]
  split
  · next same =>
    subst same
    cases node with
    | directory => exact absurd found free
    | file earlier => rfl
  · rw [found, Option.map_some]

/-- A file that takes the place of a file brings nothing new. -/
theorem keepsKinds_of_put_file {earlier : Bytes}
    (found : tree.find? names = some (.file earlier)) :
    (tree.put names (.file bytes)).KeepsKinds tree := by
  have proper : names ≠ [] := by
    rintro rfl
    cases found
  intro way node stands
  rw [find?_put tree proper] at stands
  split at stands
  · next same =>
    cases stands
    rw [← same, found]
    rfl
  · rw [stands, Option.map_some]

/-- Trees in which the same stands everywhere are the same. -/
theorem WellFormed.ext (one : tree.WellFormed) (two : other.WellFormed)
    (same : ∀ names, tree.find? names = other.find? names) : tree = other := by
  have member : ∀ entry, entry ∈ tree.entries ↔ entry ∈ other.entries := by
    rintro ⟨names, node⟩
    constructor
    · intro member
      exact mem_of_find? (one.proper _ member) ((same names) ▸ one.find?_of_mem member)
    · intro member
      exact mem_of_find? (two.proper _ member) ((same names) ▸ two.find?_of_mem member)
  have distinct : ∀ {tree : FileTree}, tree.WellFormed → tree.entries.Nodup := by
    intro tree wellFormed
    refine wellFormed.sorted.imp ?_
    rintro before after less rfl
    exact List.lt_irrefl _ less
  have ordered : tree.entries = other.entries := by
    refine List.Perm.eq_of_pairwise ?_ one.sorted two.sorted
      ((List.perm_ext_iff_of_nodup (distinct one) (distinct two)).mpr member)
    intro before after _ _ less more
    exact absurd (List.lt_trans less more) (List.lt_irrefl _)
  cases tree
  cases other
  exact congrArg FileTree.mk ordered

/-- Trees that have the same kinds of nodes and the same contents of files are the same. -/
theorem eq_of_contents (one : tree.WellFormed) (two : other.WellFormed)
    (keeps : tree.KeepsKinds other) (kept : other.KeepsKinds tree)
    (same : tree.contents = other.contents) : tree = other := by
  have files : ∀ names bytes, tree.find? names = some (.file bytes) ↔
      other.find? names = some (.file bytes) := by
    intro names bytes
    rw [← contents_eq_some_iff, ← contents_eq_some_iff, same]
  refine one.ext two fun names => Option.ext fun node => ?_
  cases node with
  | directory => exact ⟨keeps.hasDirectories names, kept.hasDirectories names⟩
  | file bytes => exact files names bytes

end DomainGen.FileTree
