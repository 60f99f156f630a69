import DomainGen.Proofs.Host.Directories
import DomainGen.Proofs.Text.Climbing

/-!
# What file operations leave alone

Creating a directory touches the directories that its path spells, and no others
(`makeDirectories_adds`).  Below a directory that is there, all of these are there or stand
below it, so that everything else is left as it is, whether the operation succeeds or is
refused on the way (`confined_makeDirectories`).
-/

namespace DomainGen

theorem prefix_append_iff {α : Type} {above front back : List α} :
    above <+: front ++ back ↔ above <+: front ∨ ∃ more, more <+: back ∧ front ++ more = above := by
  constructor
  · intro isAbove
    refine (List.prefix_or_prefix_of_prefix isAbove (List.prefix_append front back)).imp_right ?_
    rintro ⟨more, rfl⟩
    exact ⟨more, (List.prefix_append_right_inj front).mp isAbove, rfl⟩
  · rintro (higher | ⟨more, isFirst, rfl⟩)
    · exact higher.trans (List.prefix_append front back)
    · exact (List.prefix_append_right_inj front).mpr isFirst

/-! ## The directories that a path spells -/

namespace Disk

/-- A path, or one of the parents that are spelled in it. -/
inductive SpelledIn : List Char → List Char → Prop
  | here (path : List Char) : SpelledIn path path
  | above {path parent front : List Char} (found : spelledParent? path = some parent)
      (spelled : SpelledIn parent front) : SpelledIn path front

theorem SpelledIn.of_none {path front : List Char} (single : spelledParent? path = none)
    (spelled : SpelledIn path front) : front = path := by
  cases spelled with
  | here => rfl
  | above found =>
      rw [single] at found
      cases found

/-- The parents of a path that is spelled by its parts are spelled by the first of them. -/
theorem SpelledIn.exists_prefix {rooted : Bool} {parts : List String} {front : List Char}
    (spelling : Path.IsSpelling rooted parts)
    (spelled : SpelledIn (Path.ofParts rooted parts).toList front) :
    ∃ above, above <+: parts ∧ Path.IsSpelling rooted above ∧
      front = (Path.ofParts rooted above).toList := by
  generalize whole : (Path.ofParts rooted parts).toList = path at spelled
  induction spelled generalizing parts with
  | here path => exact ⟨parts, List.prefix_refl parts, spelling, whole.symm⟩
  | above found spelled ih =>
      subst whole
      obtain ⟨front, last, rfl⟩ := (List.eq_nil_or_concat parts).resolve_left spelling.ne_nil
      rw [List.concat_eq_append] at spelling found ⊢
      rw [spelledParent?_ofParts spelling] at found
      split at found
      · cases found
      · next several =>
        obtain ⟨above, isAbove, shape, same⟩ := ih (spelling.init several) (Option.some.inj found)
        exact ⟨above, isAbove.trans (List.prefix_append _ _), shape, same⟩

end Disk

namespace Path

theorem walk_parents_isPrefix (here : List String) (ups : Nat) :
    walk here (List.replicate ups "..") <+: here := by
  induction ups generalizing here with
  | zero => exact List.prefix_refl here
  | succ ups ih =>
      rw [List.replicate_succ, walk, if_neg (by decide), if_pos rfl]
      exact (ih here.dropLast).trans (List.dropLast_prefix here)

/-- The first parts of a path lead to a directory above where it starts, or above where it
ends. -/
theorem walk_parts_isPrefix (working : String) {path : String} {above : List String}
    (isAbove : above <+: parts path) :
    walk (origin working path) above <+: origin working path ∨
      walk (origin working path) above <+: way working path := by
  obtain ⟨ups, names, same, plain, -⟩ := exists_parts path
  have ends := walk_parts working path
  rw [same, walk_append, walk_plain plain] at ends
  rw [same] at isAbove
  cases prefix_append_iff.mp isAbove with
  | inl higher =>
      rw [(List.prefix_replicate_iff.mp higher).2]
      exact .inl (walk_parents_isPrefix _ _)
  | inr lower =>
      obtain ⟨more, isFirst, rfl⟩ := lower
      have plainMore : ∀ name ∈ more, IsPlain name :=
        fun name member => plain name (isFirst.subset member)
      rw [walk_append, walk_plain plainMore, ← ends]
      exact .inr ((List.prefix_append_right_inj _).mpr isFirst)

end Path

/-! ## What is left alone -/

namespace FileTree

theorem WellFormed.directory_above {tree : FileTree} (wellFormed : tree.WellFormed)
    {above names : List String} (isAbove : above <+: names)
    (directory : tree.find? names = some .directory) : tree.find? above = some .directory := by
  by_cases same : above = names
  · rwa [same]
  · exact wellFormed.find?_above directory isAbove same

/-- One tree is another with changes at or below a directory, and nowhere else. -/
structure Confined (base : List String) (tree other : FileTree) : Prop where
  wellFormed : other.WellFormed
  directories : tree.HasDirectories other
  outside : ∀ names, ¬ base <+: names → other.find? names = tree.find? names

namespace Confined

variable {base : List String} {tree other third : FileTree}

theorem refl (wellFormed : tree.WellFormed) : Confined base tree tree :=
  ⟨wellFormed, fun _ found => found, fun _ _ => rfl⟩

theorem trans (one : Confined base tree other) (two : Confined base other third) :
    Confined base tree third := by
  refine ⟨two.wellFormed, fun names found => two.directories _ (one.directories _ found), ?_⟩
  intro names outside
  rw [two.outside names outside, one.outside names outside]

/-- Adding directories is confined if all that are new stand below the base. -/
theorem ofGrown (grown : Grown tree other)
    (below : ∀ names node, other.find? names = some node →
      tree.find? names = some node ∨ base <+: names) : Confined base tree other := by
  refine ⟨grown.wellFormed, fun names found => grown.kept names _ found, ?_⟩
  intro names outside
  cases after : other.find? names with
  | some node => exact ((below names node after).resolve_right outside).symm
  | none =>
      cases before : tree.find? names with
      | none => rfl
      | some node =>
          rw [grown.kept names node before] at after
          cases after

end Confined

end FileTree

namespace Machine

variable {machine : Machine} (sound : machine.Sound)
include sound

theorem Sound.origin_directory (path : String) :
    machine.tree.find? (Path.origin machine.working path) = some .directory := by
  unfold Path.origin
  split
  · rfl
  · exact sound.working

/-- Writing a file is confined to what its path leads to. -/
theorem Sound.confined_write {path : String} {bytes : Bytes} {tree : FileTree}
    (written : machine.tree.write machine.working path bytes = .ok tree)
    {base : List String} (below : base <+: Path.way machine.working path) :
    machine.tree.Confined base tree := by
  obtain ⟨place, located, -, free, rfl⟩ := FileTree.write_eq_ok_iff.mp written
  obtain ⟨inside, plain⟩ := sound.locate_inside located
  have ends := FileTree.locate_way located
  have proper : place.names ≠ [] := by
    intro root
    rw [root] at free
    exact free rfl
  refine ⟨sound.tree.put proper plain inside (.inr free), ?_, ?_⟩
  · intro names directory
    rw [FileTree.find?_put _ proper, if_neg, directory]
    rintro rfl
    exact free directory
  · intro names outside
    rw [FileTree.find?_put _ proper, if_neg]
    rintro rfl
    rw [ends] at outside
    exact outside below

/-! ## Creating directories -/

theorem Sound.lastDirectory_adds (name : String) (outcome : Except Failure Unit)
    {tree : FileTree} (left : (lastDirectory name (outcome, machine)).2 = { machine with tree })
    {names : List String} {node : Node} (found : tree.find? names = some node) :
    machine.tree.find? names = some node ∨ names = Path.way machine.working name := by
  have unchanged : machine = { machine with tree } → machine.tree.find? names = some node := by
    intro same
    rw [same]
    exact found
  cases outcome with
  | error failure => exact .inl (unchanged left)
  | ok value =>
      cases made : machine.tree.makeDirectory machine.working name with
      | error refusal =>
          simp only [lastDirectory, made] at left
          split at left
          · exact .inl (unchanged left)
          · exact .inl (unchanged left)
      | ok other =>
          simp only [lastDirectory, made] at left
          obtain ⟨-, place, located, rfl, free⟩ := sound.makeDirectory_grown made
          have proper : place.names ≠ [] := by
            intro root
            rw [root] at free
            cases free
          have same : machine.tree.put place.names .directory = tree := congrArg Machine.tree left
          rw [← same, FileTree.find?_put _ proper] at found
          split at found
          · next here => exact .inr (here.symm.trans (FileTree.locate_way located))
          · exact .inl found

/-- Creating a directory adds directories that its path spells and nothing else, also when it
fails. -/
theorem Sound.makeDirectories_adds (path : List Char) {tree : FileTree}
    (left : (run (Disk.makeDirectories path) machine).2 = { machine with tree })
    {names : List String} {node : Node} (found : tree.find? names = some node) :
    machine.tree.find? names = some node ∨
      ∃ front, Disk.SpelledIn path front ∧
        names = Path.way machine.working (String.ofList front) := by
  induction bound : path.length using Nat.strongRecOn generalizing path tree node with
  | ind bound ih =>
      have unchanged : machine = { machine with tree } →
          machine.tree.find? names = some node := by
        intro same
        rw [same]
        exact found
      rw [run_makeDirectories] at left
      cases stands : machine.tree.node machine.working (String.ofList path) with
      | ok standing =>
          rw [stands] at left
          cases standing with
          | directory => exact .inl (unchanged left)
          | file content => exact .inl (unchanged left)
      | error refusal =>
          rw [stands] at left
          cases spelled : Disk.spelledParent? path with
          | none =>
              rw [spelled] at left
              exact (sound.lastDirectory_adds _ _ left found).imp_right
                fun same => ⟨path, .here path, same⟩
          | some parent =>
              have shorter := Disk.length_spelledParent? spelled
              obtain ⟨between, parentLeft, grown, -⟩ := sound.makeDirectories_grows parent
              have result : run (Disk.makeDirectories parent) machine =
                  ((run (Disk.makeDirectories parent) machine).1,
                    { machine with tree := between }) :=
                Prod.ext rfl parentLeft
              rw [spelled, Option.elim_some, result] at left
              cases (sound.grow grown).lastDirectory_adds _ _ left found with
              | inr same => exact .inr ⟨path, .here path, same⟩
              | inl before =>
                  exact (ih parent.length (by omega) parent parentLeft before rfl).imp_right
                    fun ⟨front, above, same⟩ => ⟨front, .above spelled above, same⟩

section Below

variable {directory path : String} {names : List String}
  (below : Path.IsBelow directory path names)
  (there : machine.tree.find? (Path.way machine.working directory) = some .directory)
include below there

/-- What a path below a directory spells is there already, or stands below that directory. -/
theorem Sound.directory_or_below {front : List Char}
    (spelled : Disk.SpelledIn path.toList front) :
    machine.tree.find? (Path.way machine.working (String.ofList front)) = some .directory ∨
      Path.way machine.working directory <+: Path.way machine.working (String.ofList front) := by
  rw [below.spelled] at spelled
  by_cases top : Path.parts directory ++ names = []
  · -- The root and the working directory have no parents.
    rw [top] at spelled
    have single : Disk.spelledParent? (Path.ofParts (Path.isAbsolute directory) []).toList =
        none := by
      cases Path.isAbsolute directory with
      | true => rfl
      | false => rfl
    rw [spelled.of_none single, String.ofList_toList]
    left
    cases Path.isAbsolute directory with
    | true => rfl
    | false => exact sound.working
  · obtain ⟨above, isAbove, shape, rfl⟩ :=
      spelled.exists_prefix (Path.isSpelling_append below.plain top)
    rw [String.ofList_toList]
    cases prefix_append_iff.mp isAbove with
    | inl higher =>
        left
        have start : (if Path.isAbsolute directory then [] else Path.parts machine.working) =
            Path.origin machine.working directory := rfl
        rw [shape.way_ofParts, start]
        cases Path.walk_parts_isPrefix machine.working higher with
        | inl higher => exact sound.tree.directory_above higher (sound.origin_directory directory)
        | inr higher => exact sound.tree.directory_above higher there
    | inr lower =>
        right
        obtain ⟨more, isFirst, rfl⟩ := lower
        have plain : ∀ name ∈ more, Path.IsPlain name :=
          fun name member => below.plain name (isFirst.subset member)
        rw [Path.way_append plain shape.ne_nil]
        exact List.prefix_append _ _

/-- Creating a directory below one that is there leaves everything else alone, also when it
fails. -/
theorem Sound.confined_makeDirectories :
    ∃ tree, (run (Disk.makeDirectories path.toList) machine).2 = { machine with tree } ∧
      machine.tree.Confined (Path.way machine.working directory) tree := by
  obtain ⟨tree, left, grown, -⟩ := sound.makeDirectories_grows path.toList
  refine ⟨tree, left, .ofGrown grown ?_⟩
  intro added node found
  cases sound.makeDirectories_adds _ left found with
  | inl before => exact .inl before
  | inr made =>
      obtain ⟨front, spelled, rfl⟩ := made
      refine (sound.directory_or_below below there spelled).imp_left ?_
      intro directory
      rw [grown.kept _ _ directory] at found
      rw [directory, found]

end Below

end Machine

end DomainGen
