import DomainGen.Host.FileTree
import DomainGen.Proofs.Text.Paths
import Mathlib.Data.List.Induction

/-!
# File trees and the paths that lead into them

In a well-formed tree everything stands in a directory, so that all names on the
way to an entry are directories (`WellFormed.find?_above`).

A path that can be followed ends where its segments lead (`locate_way`), whatever
the tree.  Conversely, a path that is spelled by its parts can be followed if the
names on its way are directories and no limit is in the way
(`locate_of_directories`).
-/

namespace DomainGen.FileTree

/-- What a file system holds: entries in order, each with plain names and each in a
directory. -/
structure WellFormed (tree : FileTree) : Prop where
  sorted : tree.entries.Pairwise (·.1 < ·.1)
  proper : ∀ entry ∈ tree.entries, entry.1 ≠ []
  plain : ∀ entry ∈ tree.entries, ∀ name ∈ entry.1, Path.IsPlain name
  closed : ∀ entry ∈ tree.entries, tree.find? entry.1.dropLast = some .directory

instance (tree : FileTree) : Decidable tree.WellFormed :=
  decidable_of_iff (tree.entries.Pairwise (·.1 < ·.1) ∧ (∀ entry ∈ tree.entries, entry.1 ≠ []) ∧
    (∀ entry ∈ tree.entries, ∀ name ∈ entry.1, Path.IsPlain name) ∧
    ∀ entry ∈ tree.entries, tree.find? entry.1.dropLast = some .directory)
    ⟨fun ⟨sorted, proper, plain, closed⟩ => ⟨sorted, proper, plain, closed⟩,
      fun wellFormed =>
        ⟨wellFormed.sorted, wellFormed.proper, wellFormed.plain, wellFormed.closed⟩⟩

/-! ## Looking up -/

section Lookup

variable {tree : FileTree} {names : List String} {node : Node}

@[simp] theorem find?_nil : tree.find? [] = some .directory := rfl

theorem mem_of_find? (proper : names ≠ []) (found : tree.find? names = some node) :
    (names, node) ∈ tree.entries := by
  rw [find?, if_neg proper, Option.map_eq_some_iff] at found
  rcases found with ⟨⟨_, _⟩, found, rfl⟩
  have same := List.find?_some found
  rw [beq_iff_eq] at same
  rw [← same]
  exact List.mem_of_find?_eq_some found

theorem find?_of_mem_sorted {entries : List (List String × Node)}
    (sorted : entries.Pairwise (·.1 < ·.1)) (member : (names, node) ∈ entries) :
    entries.find? (·.1 == names) = some (names, node) := by
  induction entries with
  | nil => contradiction
  | cons first entries ih =>
      rw [List.pairwise_cons] at sorted
      rcases List.mem_cons.mp member with rfl | later
      · simp
      · have less : first.1 < names := sorted.1 (names, node) later
        have apart : first.1 ≠ names := by
          intro same
          rw [same] at less
          exact List.lt_irrefl names less
        rw [List.find?_cons_of_neg (by simpa using apart)]
        exact ih sorted.2 later

namespace WellFormed

variable (wellFormed : tree.WellFormed)
include wellFormed

theorem find?_of_mem (member : (names, node) ∈ tree.entries) : tree.find? names = some node := by
  rw [find?, if_neg (wellFormed.proper _ member), find?_of_mem_sorted wellFormed.sorted member]
  rfl

theorem find?_dropLast (found : tree.find? names = some node) :
    tree.find? names.dropLast = some .directory := by
  by_cases proper : names = []
  · rw [proper, List.dropLast_nil, find?_nil]
  · exact wellFormed.closed _ (mem_of_find? proper found)

/-- Whatever stands above an entry is a directory. -/
theorem find?_above (found : tree.find? names = some node) {above : List String}
    (isAbove : above <+: names) (apart : above ≠ names) :
    tree.find? above = some .directory := by
  induction names using List.reverseRecOn generalizing node with
  | nil => exact absurd (List.prefix_nil.mp isAbove) apart
  | append_singleton names last ih =>
      have parent := wellFormed.find?_dropLast found
      rw [List.dropLast_concat] at parent
      rcases List.prefix_concat_iff.mp isAbove with same | higher
      · exact absurd same apart
      · by_cases direct : above = names
        · rwa [direct]
        · exact ih parent higher direct

/-- Nothing stands below what is missing. -/
theorem find?_below_none (missing : tree.find? names = none) {below : List String}
    (isBelow : names <+: below) : tree.find? below = none := by
  by_cases same : names = below
  · rwa [← same]
  · cases found : tree.find? below with
    | none => rfl
    | some node =>
        rw [wellFormed.find?_above found isBelow same] at missing
        contradiction

theorem plain_of_find? (found : tree.find? names = some node) :
    ∀ name ∈ names, Path.IsPlain name := by
  by_cases proper : names = []
  · simp [proper]
  · exact wellFormed.plain _ (mem_of_find? proper found)

end WellFormed

end Lookup

/-! ## Putting -/

section Put

variable {names : List String} {node : Node} {entries : List (List String × Node)}

theorem mem_place {entry : List String × Node} (member : entry ∈ place names node entries) :
    entry = (names, node) ∨ entry ∈ entries := by
  fun_induction place names node entries with
  | case1 => exact .inl (List.mem_singleton.mp member)
  | case2 first rest found =>
      rcases List.mem_cons.mp member with same | later
      · exact .inl same
      · exact .inr (List.mem_cons_of_mem _ later)
  | case3 first rest apart before =>
      rcases List.mem_cons.mp member with same | later
      · exact .inl same
      · exact .inr later
  | case4 first rest apart behind ih =>
      rcases List.mem_cons.mp member with rfl | later
      · exact .inr List.mem_cons_self
      · rcases ih later with same | later
        · exact .inl same
        · exact .inr (List.mem_cons_of_mem _ later)

theorem pairwise_place (sorted : entries.Pairwise (·.1 < ·.1)) :
    (place names node entries).Pairwise (·.1 < ·.1) := by
  fun_induction place names node entries with
  | case1 => exact List.pairwise_singleton _ _
  | case2 first rest found =>
      rw [List.pairwise_cons] at sorted ⊢
      exact ⟨found ▸ sorted.1, sorted.2⟩
  | case3 first rest apart before =>
      rw [List.pairwise_cons]
      refine ⟨?_, sorted⟩
      intro entry member
      rcases List.mem_cons.mp member with rfl | later
      · exact before
      · exact List.lt_trans before ((List.pairwise_cons.mp sorted).1 entry later)
  | case4 first rest apart behind ih =>
      rw [List.pairwise_cons] at sorted ⊢
      refine ⟨?_, ih sorted.2⟩
      intro entry member
      rcases mem_place member with rfl | later
      · rcases Decidable.em (first.1 < names) with less | notLess
        · exact less
        · exact absurd (List.le_antisymm behind notLess) apart
      · exact sorted.1 entry later

/-- Putting a node into a directory keeps a tree well-formed, unless a file takes the
place of a directory. -/
theorem WellFormed.put {tree : FileTree} (wellFormed : tree.WellFormed) (proper : names ≠ [])
    (plain : ∀ name ∈ names, Path.IsPlain name)
    (inside : tree.find? names.dropLast = some .directory)
    (kept : node = .directory ∨ tree.find? names ≠ some .directory) :
    (tree.put names node).WellFormed := by
  have shorter : names ≠ names.dropLast := by
    intro same
    have := congrArg List.length same
    have := List.length_pos_iff.mpr proper
    simp only [List.length_dropLast] at *
    omega
  -- A directory of the tree is a directory after the change.
  have directory : ∀ way, tree.find? way = some .directory →
      (tree.put names node).find? way = some .directory := by
    intro way found
    rw [find?_put tree proper]
    split
    · next same =>
      subst same
      rcases kept with rfl | apart
      · rfl
      · exact absurd found apart
    · exact found
  constructor
  · exact pairwise_place wellFormed.sorted
  · intro entry member
    rcases mem_place member with rfl | member
    · exact proper
    · exact wellFormed.proper entry member
  · intro entry member
    rcases mem_place member with rfl | member
    · exact plain
    · exact wellFormed.plain entry member
  · intro entry member
    rcases mem_place member with rfl | member
    · exact directory _ inside
    · exact directory _ (wellFormed.closed entry member)

end Put

/-! ## Taking away a file -/

section Erase

variable {tree : FileTree} (wellFormed : tree.WellFormed) {names : List String} {bytes : Bytes}
  (file : tree.find? names = some (.file bytes))
include wellFormed file

/-- Nothing else goes with a file. -/
theorem WellFormed.find?_erase_file (other : List String) :
    (tree.erase names).find? other = if other = names then none else tree.find? other := by
  by_cases root : other = []
  · have apart : other ≠ names := by
      intro same
      rw [← same, root, find?_nil] at file
      cases file
    rw [if_neg apart, root, find?_nil, find?_nil]
  · rw [find?_erase tree names root]
    by_cases same : other = names
    · rw [if_pos (by simp [same]), if_pos same]
    · rw [if_neg same]
      split
      · next inside =>
        -- Whatever stood below the file would make it a directory.
        cases found : tree.find? other with
        | none => rfl
        | some node =>
            have directory := wellFormed.find?_above found (List.isPrefixOf_iff_prefix.mp inside)
              (Ne.symm same)
            rw [directory] at file
            cases file
      · rfl

theorem WellFormed.hasDirectories_erase_file (other : List String)
    (directory : tree.find? other = some .directory) :
    (tree.erase names).find? other = some .directory := by
  have apart : other ≠ names := by
    rintro rfl
    rw [directory] at file
    cases file
  rw [wellFormed.find?_erase_file file, if_neg apart, directory]

theorem WellFormed.hasDirectories_of_erase_file (other : List String)
    (directory : (tree.erase names).find? other = some .directory) :
    tree.find? other = some .directory := by
  rw [wellFormed.find?_erase_file file] at directory
  split at directory
  · contradiction
  · exact directory

theorem WellFormed.erase_file : (tree.erase names).WellFormed := by
  constructor
  · exact wellFormed.sorted.filter _
  · intro entry member
    exact wellFormed.proper entry (List.mem_filter.mp member).1
  · intro entry member
    exact wellFormed.plain entry (List.mem_filter.mp member).1
  · intro entry member
    exact wellFormed.hasDirectories_erase_file file _
      (wellFormed.closed entry (List.mem_filter.mp member).1)

theorem WellFormed.below_erase_file (above : List String) :
    (tree.erase names).below above = (tree.below above).filter (·.1 ≠ names) := by
  rw [below, below, erase, List.filter_filter, List.filter_filter]
  apply List.filter_congr
  intro entry member
  have gone : names.isPrefixOf entry.1 = decide (entry.1 = names) := by
    by_cases same : entry.1 = names
    · simp [same]
    · have kept := wellFormed.find?_erase_file file entry.1
      have proper := wellFormed.proper entry member
      rw [if_neg same, find?_erase tree names proper, wellFormed.find?_of_mem member] at kept
      split at kept
      · contradiction
      · next outside => rw [decide_eq_false same, Bool.eq_false_iff.mpr outside]
  rw [gone, Bool.and_comm]
  simp

end Erase

/-! ## Following a path -/

variable {tree : FileTree} {working path : String}

theorem walk_of_all_empty {rest : List String} (empty : rest.all (· = "")) (here : List String) :
    Path.walk here rest = here := by
  induction rest with
  | nil => rfl
  | cons segment rest ih =>
      simp only [List.all_cons, Bool.and_eq_true, decide_eq_true_eq] at empty
      rw [Path.walk, if_pos (by simp [empty.1]), ih empty.2]

theorem descend_walk {here segments : List String} {place : Place}
    (followed : tree.descend here segments = .ok place) :
    place.names = Path.walk here segments := by
  fun_induction descend tree here segments with
  | case1 here =>
      cases followed
      rfl
  | case2 here segment rest skipped ih => rw [ih followed, Path.walk, if_pos skipped]
  | case3 here rest kept ih => rw [ih followed, Path.walk, if_neg kept, if_pos rfl]
  | case4 => contradiction
  | case5 here segment rest kept down fits last =>
      cases followed
      rw [Path.walk, if_neg kept, if_neg down, walk_of_all_empty last]
  | case6 => contradiction
  | case7 => contradiction
  | case8 here segment rest kept down fits more found ih =>
      rw [ih followed, Path.walk, if_neg kept, if_neg down]

/-- A path that can be followed leads along its way. -/
theorem locate_way {place : Place} (located : tree.locate working path = .ok place) :
    place.names = Path.way working path := by
  unfold locate at located
  split at located
  · contradiction
  split at located
  · contradiction
  split at located
  · contradiction
  exact descend_walk located

/-- One tree has all directories of another. -/
def HasDirectories (tree other : FileTree) : Prop :=
  ∀ names, tree.find? names = some .directory → other.find? names = some .directory

/-- A path can still be followed when no directory was removed. -/
theorem locate_mono {other : FileTree} (kept : tree.HasDirectories other) {place : Place}
    (located : tree.locate working path = .ok place) :
    other.locate working path = .ok place := by
  have descended : ∀ here segments, tree.descend here segments = .ok place →
      other.descend here segments = .ok place := by
    intro here segments followed
    fun_induction descend tree here segments with
    | case1 here => exact followed
    | case2 here segment rest skipped ih => rw [descend, if_pos skipped, ih followed]
    | case3 here rest proper ih => rw [descend, if_neg proper, if_pos rfl, ih followed]
    | case4 => contradiction
    | case5 here segment rest proper down fits last =>
        rw [descend, if_neg proper, if_neg down, if_neg fits, if_pos last]
        exact followed
    | case6 => contradiction
    | case7 => contradiction
    | case8 here segment rest proper down fits more found ih =>
        rw [descend, if_neg proper, if_neg down, if_neg fits, if_neg more, kept _ found]
        exact ih followed
  unfold locate at located ⊢
  split at located
  · contradiction
  next some =>
  split at located
  · contradiction
  next clear =>
  split at located
  · contradiction
  next short =>
  rw [if_neg some, if_neg clear, if_neg short]
  exact descended _ _ located

/-- No limit of the file system is in the way of a path. -/
structure Fits (path : String) : Prop where
  clear : Char.ofNat 0 ∉ path.toList
  short : Text.byteLength path < pathLimit
  names : ∀ name ∈ Text.segments '/' path, Text.byteLength name ≤ nameLimit

instance (path : String) : Decidable (Fits path) :=
  decidable_of_iff (Char.ofNat 0 ∉ path.toList ∧ Text.byteLength path < pathLimit ∧
    ∀ name ∈ Text.segments '/' path, Text.byteLength name ≤ nameLimit)
    ⟨fun ⟨clear, short, names⟩ => ⟨clear, short, names⟩,
      fun fits => ⟨fits.clear, fits.short, fits.names⟩⟩

theorem Fits.nameLimit_of_mem {rooted : Bool} {parts : List String}
    (fits : Fits (Path.ofParts rooted parts)) (spelling : Path.IsSpelling rooted parts)
    {name : String} (member : name ∈ parts) : Text.byteLength name ≤ nameLimit := by
  apply fits.names
  rw [spelling.segments_ofParts]
  cases rooted with
  | true => simp [member]
  | false => simp [member]

theorem descend_plain {names : List String} (plain : ∀ name ∈ names, Path.IsPlain name)
    (fits : ∀ name ∈ names, Text.byteLength name ≤ nameLimit) {here : List String}
    (directories : ∀ above, above <+: names → above ≠ names → above ≠ [] →
      tree.find? (here ++ above) = some .directory) :
    tree.descend here names = .ok ⟨here ++ names, false⟩ := by
  induction names generalizing here with
  | nil => simp [descend]
  | cons name rest ih =>
      have first := plain name (by simp)
      have short : ¬ nameLimit < Text.byteLength name := Nat.not_lt.mpr (fits name (by simp))
      rw [descend, if_neg (by simp [first.ne_empty, first.ne_current]), if_neg first.ne_parent,
        if_neg short]
      cases rest with
      | nil => simp
      | cons next rest =>
          have further : ¬ (next :: rest).all (· = "") := by
            simp [(plain next (by simp)).ne_empty]
          have found : tree.find? (here ++ [name]) = some .directory :=
            directories [name] (by simp) (by simp) (by simp)
          rw [if_neg further, found]
          have whole : here ++ name :: next :: rest = here ++ [name] ++ next :: rest := by simp
          rw [whole]
          refine ih (fun other member => plain other (by simp [member]))
            (fun other member => fits other (by simp [member])) ?_
          intro above isAbove apart _
          have further := directories (name :: above)
            (List.prefix_cons_inj name |>.mpr isAbove) (by simpa using apart) (by simp)
          simpa using further

theorem descend_parents (here : List String) (ups : Nat) (names : List String) :
    tree.descend here (List.replicate ups ".." ++ names) =
      tree.descend (Path.walk here (List.replicate ups "..")) names := by
  induction ups generalizing here with
  | zero => rfl
  | succ ups ih =>
      rw [List.replicate_succ, List.cons_append, descend, if_neg (by simp), if_pos rfl, ih,
        Path.walk, if_neg (by simp), if_pos rfl]

/-- A path that is spelled by its parts is followed by its names, from where its parent
segments lead. -/
theorem locate_eq_descend {rooted : Bool} {parts names : List String} {ups : Nat}
    (spelling : Path.IsSpelling rooted parts) (shape : parts = List.replicate ups ".." ++ names)
    (clear : Char.ofNat 0 ∉ (Path.ofParts rooted parts).toList)
    (short : Text.byteLength (Path.ofParts rooted parts) < pathLimit) :
    tree.locate working (Path.ofParts rooted parts) =
      tree.descend (Path.walk (if rooted then [] else Path.parts working)
        (List.replicate ups "..")) names := by
  have skipped : ∀ here, tree.descend here (Text.segments '/' (Path.ofParts rooted parts)) =
      tree.descend here parts := by
    intro here
    rw [spelling.segments_ofParts]
    cases rooted with
    | true => rw [if_pos rfl, descend, if_pos (by simp)]
    | false => rfl
  rw [locate, if_neg spelling.ofParts_ne_empty, if_neg (by simpa using clear),
    if_neg (Nat.not_le.mpr short), skipped, spelling.isAbsolute_ofParts]
  conv =>
    lhs
    rw [shape, descend_parents]

/-- A path that is spelled by its parts can be followed if the names on its way are
directories. -/
theorem locate_of_directories {rooted : Bool} {parts : List String}
    (spelling : Path.IsSpelling rooted parts) (fits : Fits (Path.ofParts rooted parts))
    (directories : ∀ above, above <+: Path.way working (Path.ofParts rooted parts) →
      above ≠ Path.way working (Path.ofParts rooted parts) →
      tree.find? above = some .directory) :
    tree.locate working (Path.ofParts rooted parts) =
      .ok ⟨Path.way working (Path.ofParts rooted parts), false⟩ := by
  rcases spelling.shape with ⟨ups, names, shape, plain, -⟩
  have small : ∀ name ∈ names, Text.byteLength name ≤ nameLimit := fun name member =>
    fits.nameLimit_of_mem spelling (by simp [shape, member])
  have way := spelling.way_ofParts working
  rw [shape, Path.walk_append, Path.walk_plain plain, ← shape] at way
  rw [way] at directories ⊢
  rw [locate_eq_descend spelling shape fits.clear fits.short]
  refine descend_plain plain small ?_
  intro above isAbove apart _
  exact directories _ ((List.prefix_append_right_inj _).mpr isAbove) (by simpa using apart)

end DomainGen.FileTree
