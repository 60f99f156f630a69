import DomainGen.Proofs.Host.Confinement

/-!
# Files and the directory they are in

A path that leads to the place of a file has a name at its end (`exists_last_of_descend`), and
the other names of it lead to the directory of the file.  Taking a file away, writing it and
giving it another path change what stands at these places, and nothing else (`find?_erase_leaf`,
`rename_file`).
-/

namespace DomainGen

/-! ## The directory of a path -/

namespace Path

open DomainGen.Text

/-- The directory of a path is where all of its names but the last lead. -/
theorem way_dir {path last : String} {front : List String}
    (cutOut : segments '/' path = front ++ [last]) (working : String) :
    way working (dir path) = walk (origin working path) front := by
  have free : '/' ∉ last.toList := by
    have listed : last ∈ segments '/' path := by simp [cutOut]
    exact slashFree_of_mem_segments listed
  have spelled := join_segments_slash path
  rw [cutOut] at spelled
  rw [dir, way_clean]
  by_cases single : front = []
  · rw [single, List.nil_append, join, String.intercalate_singleton] at spelled
    have whole := dropWhile_name_reverse free []
    rw [List.append_nil, spelled] at whole
    have relative : isAbsolute path = false := by
      rw [← spelled]
      unfold isAbsolute
      split
      · next rest starts => simp [starts] at free
      · rfl
    rw [whole, single, walk, way, origin, origin, relative]
    rfl
  · rw [join_concat single] at spelled
    have text : String.ofList (path.toList.reverse.dropWhile (· ≠ '/')).reverse =
        join "/" front ++ "/" ++ "" := by
      have slash : "/".toList = ['/'] := rfl
      rw [← spelled, String.toList_append, String.toList_append, List.reverse_append,
        dropWhile_name_reverse free, slash, List.reverse_append, List.reverse_singleton,
        List.singleton_append, List.dropWhile_cons_of_neg (by simp), ← List.singleton_append,
        List.reverse_append, List.reverse_reverse, List.reverse_singleton, String.append_empty,
        ← slash, ← String.toList_append, String.ofList_toList]
    have filled : join "/" front ++ "/" ≠ "" := by
      intro empty
      have length := congrArg String.length empty
      rw [String.length_append] at length
      exact absurd length (by simp)
    have names : segments '/' (join "/" front) = front := by
      refine segments_intercalate single fun segment member => ?_
      have listed : segment ∈ segments '/' path := by simp [cutOut, member]
      exact slashFree_of_mem_segments listed
    have start : origin working (join "/" front ++ "/" ++ "") = origin working path := by
      rw [← spelled, origin, origin, isAbsolute_append filled, isAbsolute_append filled]
    have empty : segments '/' "" = [""] := rfl
    rw [text, way, start, segments_append_slash, names, empty, walk_append, walk]
    rfl

/-- A name stays one when something long is put behind it. -/
theorem IsPlain.append {name suffix : String} (plain : IsPlain name)
    (free : '/' ∉ suffix.toList) (long : 2 < suffix.length) : IsPlain (name ++ suffix) := by
  have apart : ∀ other : String, other.length ≤ 2 → name ++ suffix ≠ other := by
    rintro other short rfl
    rw [String.length_append] at short
    omega
  refine ⟨apart "" (by decide), apart "." (by decide), apart ".." (by decide), ?_⟩
  rw [String.toList_append, List.mem_append, not_or]
  exact ⟨plain.slashFree, free⟩

end Path

namespace FileTree

variable {tree : FileTree} {working path : String} {names : List String}

/-! ## Places of files -/

/-- A path that leads to a place where no directory stands has a name at its end. -/
theorem exists_last_of_descend (wellFormed : tree.WellFormed) {here segments : List String}
    (directory : tree.find? here = some .directory)
    (slashFree : ∀ segment ∈ segments, '/' ∉ segment.toList)
    (followed : tree.descend here segments = .ok ⟨names, false⟩)
    (free : tree.find? names ≠ some .directory) :
    ∃ front last, segments = front ++ [last] ∧ Path.IsPlain last ∧
      names = Path.walk here front ++ [last] := by
  fun_induction descend tree here segments with
  | case1 here =>
      cases followed
      exact absurd directory free
  | case2 here segment rest skipped ih =>
      obtain ⟨front, last, rfl, plain, rfl⟩ :=
        ih directory (List.forall_mem_cons.mp slashFree).2 followed
      exact ⟨segment :: front, last, rfl, plain, by rw [Path.walk, if_pos skipped]⟩
  | case3 here rest proper ih =>
      obtain ⟨front, last, rfl, plain, rfl⟩ := ih (wellFormed.find?_dropLast directory)
        (List.forall_mem_cons.mp slashFree).2 followed
      exact ⟨".." :: front, last, rfl, plain, by rw [Path.walk, if_neg proper, if_pos rfl]⟩
  | case4 => contradiction
  | case5 here segment rest proper down fits last =>
      cases rest with
      | cons next rest => cases followed
      | nil =>
          cases followed
          simp only [Bool.or_eq_true, decide_eq_true_eq, not_or] at proper
          exact ⟨[], segment, rfl, ⟨proper.1, proper.2, down, slashFree segment (by simp)⟩, rfl⟩
  | case6 => contradiction
  | case7 => contradiction
  | case8 here segment rest proper down fits more found ih =>
      obtain ⟨front, last, rfl, plain, rfl⟩ :=
        ih found (List.forall_mem_cons.mp slashFree).2 followed
      exact ⟨segment :: front, last, rfl, plain,
        by rw [Path.walk, if_neg proper, if_neg down]⟩

theorem descend_of_locate {place : Place} (located : tree.locate working path = .ok place) :
    path ≠ "" ∧
      tree.descend (Path.origin working path) (Text.segments '/' path) = .ok place := by
  unfold locate at located
  split at located
  · contradiction
  next filled =>
  split at located
  · contradiction
  split at located
  · contradiction
  exact ⟨filled, located⟩

theorem node_of_locate (located : tree.locate working path = .ok ⟨names, false⟩) :
    tree.node working path =
      match tree.find? names with
      | none => .error .missing
      | some node => .ok node := by
  unfold node
  simp only [located, bind, Except.bind]
  cases tree.find? names with
  | none => rfl
  | some node =>
      cases node with
      | directory => rfl
      | file bytes => rfl

/-! ## Where directories were added -/

namespace Grown

variable {other : FileTree} (grown : tree.Grown other)
include grown

/-- A name that is not that of a directory has nothing else than before. -/
theorem find?_eq (free : other.find? names ≠ some .directory) :
    other.find? names = tree.find? names := by
  cases found : tree.find? names with
  | some node => exact grown.kept names node found
  | none =>
      cases after : other.find? names with
      | none => rfl
      | some node =>
          rcases grown.added names node after with before | rfl
          · rw [found] at before
            cases before
          · exact absurd after free

theorem node_eq_ok {node : Node} (found : tree.node working path = .ok node) :
    other.node working path = .ok node := by
  unfold FileTree.node at found ⊢
  cases located : tree.locate working path with
  | error refusal =>
      rw [located] at found
      cases found
  | ok place =>
      rw [locate_mono (fun names => grown.kept names .directory) located]
      rw [located] at found
      simp only [bind, Except.bind] at found ⊢
      cases standing : tree.find? place.names with
      | none =>
          rw [standing] at found
          cases found
      | some there =>
          rw [grown.kept _ _ standing, ← standing]
          exact found

end Grown

/-! ## Changing one file -/

theorem WellFormed.erase_missing (wellFormed : tree.WellFormed)
    (missing : tree.find? names = none) : tree.erase names = tree := by
  have kept : tree.entries.filter (fun entry => !names.isPrefixOf entry.1) = tree.entries := by
    refine List.filter_eq_self.mpr fun entry member => ?_
    rw [Bool.not_eq_true', Bool.eq_false_iff, ne_eq, List.isPrefixOf_iff_prefix]
    intro isBelow
    have gone := wellFormed.find?_below_none missing isBelow
    rw [wellFormed.find?_of_mem member] at gone
    cases gone
  rw [erase, kept]

/-- Where no directory stands, nothing else is taken away. -/
theorem WellFormed.find?_erase_leaf (wellFormed : tree.WellFormed)
    (free : tree.find? names ≠ some .directory) (other : List String) :
    (tree.erase names).find? other = if other = names then none else tree.find? other := by
  cases found : tree.find? names with
  | none =>
      rw [wellFormed.erase_missing found]
      split
      · next same => rw [same, found]
      · rfl
  | some node =>
      cases node with
      | directory => exact absurd found free
      | file bytes => exact wellFormed.find?_erase_file found other

theorem WellFormed.erase_leaf (wellFormed : tree.WellFormed)
    (free : tree.find? names ≠ some .directory) : (tree.erase names).WellFormed := by
  cases found : tree.find? names with
  | none => rwa [wellFormed.erase_missing found]
  | some node =>
      cases node with
      | directory => exact absurd found free
      | file bytes => exact wellFormed.erase_file found

/-- Only the file itself stands at or below it. -/
theorem WellFormed.below_file (wellFormed : tree.WellFormed) {bytes : Bytes}
    (file : tree.find? names = some (.file bytes)) :
    tree.below names = [(names, .file bytes)] := by
  have proper : names ≠ [] := by
    rintro rfl
    cases file
  have only : ∀ entry ∈ tree.below names, entry = (names, .file bytes) := by
    intro entry member
    obtain ⟨listed, isBelow⟩ := List.mem_filter.mp member
    have found := wellFormed.find?_of_mem (show (entry.1, entry.2) ∈ tree.entries from listed)
    by_cases same : names = entry.1
    · rw [← same, file] at found
      exact Prod.ext same.symm (Option.some.inj found).symm
    · have above := wellFormed.find?_above found (List.isPrefixOf_iff_prefix.mp isBelow) same
      rw [file] at above
      cases above
  have listed : (names, .file bytes) ∈ tree.below names :=
    List.mem_filter.mpr
      ⟨mem_of_find? proper file, List.isPrefixOf_iff_prefix.mpr (List.prefix_refl _)⟩
  have sorted : (tree.below names).Pairwise (·.1 < ·.1) := wellFormed.sorted.filter _
  cases spelled : tree.below names with
  | nil =>
      rw [spelled] at listed
      cases listed
  | cons first rest =>
      rw [spelled] at only sorted
      rw [only first List.mem_cons_self]
      cases rest with
      | nil => rfl
      | cons second rest =>
          have less := (List.pairwise_cons.mp sorted).1 second List.mem_cons_self
          rw [only first List.mem_cons_self, only second (by simp)] at less
          exact absurd less (List.lt_irrefl _)

theorem remove_eq (located : tree.locate working path = .ok ⟨names, false⟩)
    (free : tree.find? names ≠ some .directory) :
    tree.remove working path =
      if tree.find? names = none then .error .missing else .ok (tree.erase names) := by
  unfold remove
  rw [node_of_locate located, located]
  cases found : tree.find? names with
  | none => rfl
  | some node =>
      cases node with
      | directory => exact absurd found free
      | file bytes => rfl

/-- A file that gets another path is found there, and no longer where it was. -/
theorem rename_file (wellFormed : tree.WellFormed) {source target : String}
    {origin goal : List String} {bytes : Bytes}
    (locatedSource : tree.locate working source = .ok ⟨origin, false⟩)
    (locatedTarget : tree.locate working target = .ok ⟨goal, false⟩)
    (file : tree.find? origin = some (.file bytes)) (apart : origin ≠ goal)
    (free : tree.find? goal ≠ some .directory)
    (inside : tree.find? goal.dropLast = some .directory)
    (plain : ∀ name ∈ goal, Path.IsPlain name) :
    ∃ other, tree.rename working source target = .ok other ∧ other.WellFormed ∧
      ∀ names, other.find? names =
        if names = goal then some (.file bytes)
        else if names = origin then none else tree.find? names := by
  have proper : goal ≠ [] := by
    rintro rfl
    exact free rfl
  have cleared := wellFormed.erase_leaf free
  have found := wellFormed.find?_erase_leaf free
  have there : (tree.erase goal).find? origin = some (.file bytes) := by
    rw [found, if_neg apart, file]
  have moved : (tree.erase goal).moved origin goal =
      ((tree.erase goal).erase origin).put goal (.file bytes) := by
    rw [FileTree.moved, cleared.below_file there, List.foldl_cons, List.foldl_nil]
    simp
  have after := cleared.find?_erase_file there
  have above : ((tree.erase goal).erase origin).find? goal.dropLast = some .directory := by
    have notFile : goal.dropLast ≠ origin := by
      intro same
      rw [same, file] at inside
      cases inside
    have notGoal : goal.dropLast ≠ goal := by
      intro same
      rw [same] at inside
      exact free inside
    rw [after, if_neg notFile, found, if_neg notGoal, inside]
  have gone : ((tree.erase goal).erase origin).find? goal = none := by
    rw [after, found, if_pos rfl, ite_self]
  refine ⟨((tree.erase goal).erase origin).put goal (.file bytes), ?_, ?_, ?_⟩
  · unfold rename
    rw [node_of_locate locatedSource, locatedSource, locatedTarget, file]
    simp only [bind, Except.bind, if_neg apart]
    rw [← moved]
    cases standing : tree.find? goal with
    | none => rfl
    | some node =>
        cases node with
        | directory => exact absurd standing free
        | file content => rfl
  · exact (cleared.erase_file there).put proper plain above (.inr (by simp [gone]))
  · intro names
    rw [find?_put _ proper, after, found]
    by_cases same : names = goal
    · rw [if_pos same.symm, if_pos same]
    · rw [if_neg (Ne.symm same), if_neg same, if_neg same]

end FileTree

namespace Machine

/-- A directory is found by its path when that is spelled without detours. -/
theorem Sound.node_clean {machine : Machine} (sound : machine.Sound) {path : String}
    (fits : FileTree.Fits (Path.clean path))
    (there : machine.tree.find? (Path.way machine.working (Path.clean path)) =
      some .directory) :
    machine.tree.node machine.working (Path.clean path) = .ok .directory := by
  by_cases top : Path.parts path = []
  · -- The path is that of the root or of the working directory.
    have located : ∃ names, machine.tree.locate machine.working (Path.clean path) =
        .ok ⟨names, false⟩ := by
      rw [Path.clean, top]
      cases Path.isAbsolute path with
      | true => exact ⟨[], rfl⟩
      | false => exact ⟨Path.parts machine.working, rfl⟩
    obtain ⟨names, located⟩ := located
    rw [← FileTree.locate_way located] at there
    exact FileTree.node_eq_directory_iff.mpr ⟨_, located, there⟩
  · rw [Path.way_clean] at there
    have spelled : Path.clean path =
        Path.ofParts (Path.isAbsolute path) (Path.parts path ++ []) := by
      rw [List.append_nil, Path.clean]
    rw [spelled] at fits ⊢
    exact FileTree.node_append (by simp) (by simpa using top) fits sound.tree
      (by rwa [List.append_nil])

end Machine

end DomainGen
