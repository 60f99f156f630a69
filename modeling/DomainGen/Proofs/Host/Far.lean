import DomainGen.Proofs.Host.Listing

/-!
# Long ways round

The root is its own parent, so a path can go through parent directories as often as it likes
and still lead to where it would have led.  That makes it as long as a path may be, and what
stands below a directory that is reached in this way is out of reach (`not_openBelow_far`).
-/

namespace DomainGen

section Parents

variable {rest : List String} (some : rest ≠ [])
include some

theorem join_parents (ups : Nat) :
    Text.join "/" (List.replicate (ups + 1) ".." ++ rest) =
      "../" ++ Text.join "/" (List.replicate ups ".." ++ rest) := by
  cases parts : List.replicate ups ".." ++ rest with
  | nil => exact absurd (List.append_eq_nil_iff.mp parts).2 some
  | cons first others =>
      rw [List.replicate_succ, List.cons_append, parts, Text.join, String.intercalate_cons_cons]
      rfl

theorem byteLength_join_parents (ups : Nat) :
    Text.byteLength (Text.join "/" (List.replicate ups ".." ++ rest)) =
      3 * ups + Text.byteLength (Text.join "/" rest) := by
  induction ups with
  | zero => simp
  | succ ups ih =>
      have up : Text.byteLength "../" = 3 := by decide
      rw [join_parents some, Text.byteLength, String.utf8ByteSize_append, ← Text.byteLength,
        ← Text.byteLength, ih, up]
      omega

theorem not_mem_join_parents {mark : Char} (apart : mark ∉ "../".toList)
    (absent : mark ∉ (Text.join "/" rest).toList) (ups : Nat) :
    mark ∉ (Text.join "/" (List.replicate ups ".." ++ rest)).toList := by
  induction ups with
  | zero => exact absent
  | succ ups ih =>
      rw [join_parents some, String.toList_append, List.mem_append, not_or]
      exact ⟨apart, ih⟩

end Parents

/-- The root is its own parent. -/
theorem walk_parents_root (ups : Nat) : Path.walk [] (List.replicate ups "..") = [] := by
  induction ups with
  | zero => rfl
  | succ ups ih =>
      rw [List.replicate_succ, Path.walk, if_neg (by decide), if_pos rfl]
      exact ih

/-- A path that leads to a directory below the root by way of parent directories. -/
def farDirectory (ups : Nat) : String := Path.ofParts false (List.replicate ups ".." ++ ["gen"])

section Far

variable (ups : Nat)

theorem isSpelling_far : Path.IsSpelling false (List.replicate ups ".." ++ ["gen"]) :=
  ⟨⟨ups, ["gen"], rfl, by decide, nofun⟩, by simp⟩

theorem farDirectory_eq_join :
    farDirectory ups = Text.join "/" (List.replicate ups ".." ++ ["gen"]) := by
  simp [farDirectory, Path.ofParts]

theorem way_farDirectory : Path.way "/" (farDirectory ups) = ["gen"] := by
  have root : Path.parts "/" = [] := by decide
  rw [farDirectory, (isSpelling_far ups).way_ofParts, if_neg Bool.false_ne_true, root,
    Path.walk_append, walk_parents_root]
  rfl

theorem fits_farDirectory (short : ups ≤ 1364) : FileTree.Fits (farDirectory ups) := by
  constructor
  · rw [farDirectory_eq_join]
    exact not_mem_join_parents (List.cons_ne_nil _ _) (by decide) (by decide) ups
  · have last : Text.byteLength (Text.join "/" ["gen"]) = 3 := by decide
    rw [farDirectory_eq_join, byteLength_join_parents (List.cons_ne_nil _ _), last,
      FileTree.pathLimit]
    omega
  · intro name member
    rw [farDirectory, (isSpelling_far ups).segments_ofParts, if_neg Bool.false_ne_true,
      List.mem_append] at member
    rcases member with up | last
    · rw [List.eq_of_mem_replicate up]
      decide
    · rw [List.mem_singleton.mp last]
      decide

/-- What stands below the directory has a path that is longer by the same amount. -/
theorem byteLength_under_far {names : List String} (plain : ∀ name ∈ names, Path.IsPlain name)
    (below : names ≠ []) :
    Text.byteLength (Path.under (farDirectory ups) (Text.join "/" names)) =
      3 * ups + Text.byteLength (Text.join "/" ("gen" :: names)) := by
  have spelled : Path.ofParts false (List.replicate ups ".." ++ "gen" :: names) =
      Text.join "/" (List.replicate ups ".." ++ "gen" :: names) := by
    simp [Path.ofParts]
  rw [Path.under_join_ofParts plain below, farDirectory, (isSpelling_far ups).isAbsolute_ofParts,
    (isSpelling_far ups).parts_ofParts, List.append_assoc, List.singleton_append, spelled,
    byteLength_join_parents (List.cons_ne_nil _ _)]

variable {tree : FileTree} (wellFormed : tree.WellFormed)
include wellFormed

theorem node_farDirectory (short : ups ≤ 1364)
    (there : tree.find? ["gen"] = some .directory) :
    tree.node "/" (farDirectory ups) = .ok .directory := by
  refine FileTree.node_eq_directory_iff.mpr ⟨⟨["gen"], false⟩, ?_, there⟩
  rw [← way_farDirectory ups]
  refine FileTree.locate_of_directories (isSpelling_far ups) (fits_farDirectory ups short) ?_
  intro above isAbove apart
  rw [← farDirectory, way_farDirectory] at isAbove apart
  exact wellFormed.find?_above there isAbove apart

/-- A directory that would have too long a path cannot be opened. -/
theorem not_openBelow_far {name : String} (found : tree.find? ["gen", name] = some .directory)
    (long : FileTree.pathLimit ≤ 3 * ups + Text.byteLength (Text.join "/" ["gen", name])) :
    ¬ tree.OpenBelow "/" (farDirectory ups) := by
  intro opened
  have plain : ∀ other ∈ [name], Path.IsPlain other := fun other member =>
    wellFormed.plain_of_find? found other (List.mem_cons_of_mem _ member)
  have short := opened [name] (List.cons_ne_nil _ _) (by rw [way_farDirectory]; exact found)
  rw [byteLength_under_far ups plain (List.cons_ne_nil _ _)] at short
  exact absurd short (Nat.not_lt.mpr long)

end Far

end DomainGen
