import DomainGen.Proofs.Host.Listing
import Mathlib.Data.List.Basic

/-!
# Looking at everything below a directory

What is found at a path that is spelled by its parts can be told from the tree: what stands
there, that something on the way is missing, or that a file stands where a directory is
needed (`Machine.Sound.looked_node`).  Only a limit of the file system can change that.

A walk looks at all that stands below a directory.  It comes back with the files, unless it
finds a path that does not fit (`Machine.Sound.walkable_iff`, `Machine.Sound.walk_of_fits`).
-/

namespace DomainGen

namespace FileTree

variable {tree : FileTree} {working : String} {names : List String}

/-- A file stands where a directory is needed to go on. -/
def Blocked (tree : FileTree) (names : List String) : Prop :=
  ∃ above bytes, above <+: names ∧ above ≠ names ∧ tree.find? above = some (.file bytes)

/-- What looking for something can come to: it is reached, something on the way to it is
missing, a file stands in the way, or, unless everything fits, a limit is met. -/
inductive Looked {α : Type} (tree : FileTree) (names : List String) (fit : Prop)
    (reached : α → Prop) : Except Refusal α → Prop where
  | reached {value : α} : reached value → Looked tree names fit reached (.ok value)
  | missing : tree.find? names = none → ¬ tree.Blocked names →
      Looked tree names fit reached (.error .missing)
  | blocked : tree.find? names = none → tree.Blocked names →
      Looked tree names fit reached (.error .notDirectory)
  | limited {refusal : Refusal} : refusal ≠ .missing → ¬ fit →
      Looked tree names fit reached (.error refusal)

theorem Looked.imp {α : Type} {fit whole : Prop} {reached : α → Prop}
    {outcome : Except Refusal α} (looked : Looked tree names fit reached outcome)
    (fits : whole → fit) : Looked tree names whole reached outcome := by
  cases looked with
  | reached there => exact .reached there
  | missing absent free => exact .missing absent free
  | blocked absent blocked => exact .blocked absent blocked
  | limited other limited => exact .limited other (mt fits limited)

namespace WellFormed

variable (wellFormed : tree.WellFormed)
include wellFormed

theorem find?_of_blocked (blocked : tree.Blocked names) : tree.find? names = none := by
  obtain ⟨above, bytes, isAbove, apart, file⟩ := blocked
  cases found : tree.find? names with
  | none => rfl
  | some node =>
      rw [wellFormed.find?_above found isAbove apart] at file
      cases file

/-- Nothing is in the way to what stands in a directory. -/
theorem not_blocked_of_parent (directory : tree.find? names.dropLast = some .directory) :
    ¬ tree.Blocked names := by
  rintro ⟨above, bytes, isAbove, apart, file⟩
  by_cases parent : above = names.dropLast
  · rw [parent, directory] at file
    cases file
  · rw [wellFormed.find?_above directory (prefix_dropLast isAbove apart) parent] at file
    cases file

/-- Nothing is in the way to what is missing in a directory, nor further on. -/
theorem not_blocked_of_missing {above : List String} (absent : tree.find? above = none)
    (directory : tree.find? above.dropLast = some .directory) (isAbove : above <+: names) :
    ¬ tree.Blocked names := by
  rintro ⟨other, bytes, higher, -, file⟩
  rcases List.prefix_or_prefix_of_prefix isAbove higher with lower | upper
  · rw [wellFormed.find?_below_none absent lower] at file
    cases file
  by_cases same : other = above
  · rw [same, absent] at file
    cases file
  · exact wellFormed.not_blocked_of_parent directory ⟨other, bytes, upper, same, file⟩

theorem find?_walk_parents {here : List String} (directory : tree.find? here = some .directory)
    (ups : Nat) : tree.find? (Path.walk here (List.replicate ups "..")) = some .directory := by
  induction ups generalizing here with
  | zero => exact directory
  | succ ups ih =>
      rw [List.replicate_succ, Path.walk, if_neg (by decide), if_pos rfl]
      exact ih (wellFormed.find?_dropLast directory)

/-- Plain names lead to what they name, unless something is in the way. -/
theorem looked_descend (plain : ∀ name ∈ names, Path.IsPlain name) {here : List String}
    (directory : tree.find? here = some .directory) :
    tree.Looked (here ++ names) (∀ name ∈ names, Text.byteLength name ≤ nameLimit)
      (fun place => place = ⟨here ++ names, false⟩ ∧
        tree.find? (here ++ names).dropLast = some .directory)
      (tree.descend here names) := by
  induction names generalizing here with
  | nil =>
      rw [descend, List.append_nil]
      exact .reached ⟨rfl, wellFormed.find?_dropLast directory⟩
  | cons name rest ih =>
      have first := plain name List.mem_cons_self
      have later : ∀ other ∈ rest, Path.IsPlain other := fun other member =>
        plain other (List.mem_cons_of_mem _ member)
      rw [descend, if_neg (by simp [first.ne_empty, first.ne_current]), if_neg first.ne_parent]
      split
      · next tooLong =>
        refine .limited (by decide) ?_
        intro fit
        exact absurd (fit name List.mem_cons_self) (Nat.not_le.mpr tooLong)
      cases rest with
      | nil => exact .reached ⟨rfl, by rwa [List.dropLast_concat]⟩
      | cons next rest =>
          have further : ¬ (next :: rest).all (· = "") := by
            simp [(later next List.mem_cons_self).ne_empty]
          have whole : here ++ name :: next :: rest = here ++ [name] ++ next :: rest := by simp
          have isAbove : here ++ [name] <+: here ++ name :: next :: rest := by
            rw [whole]
            exact List.prefix_append _ _
          rw [if_neg further]
          cases found : tree.find? (here ++ [name]) with
          | none =>
              refine .missing (wellFormed.find?_below_none found isAbove)
                (wellFormed.not_blocked_of_missing found ?_ isAbove)
              rwa [List.dropLast_concat]
          | some node =>
              cases node with
              | file bytes =>
                  have blocked : tree.Blocked (here ++ name :: next :: rest) :=
                    ⟨_, bytes, isAbove, by simp, found⟩
                  exact .blocked (wellFormed.find?_of_blocked blocked) blocked
              | directory =>
                  rw [whole]
                  exact (ih later found).imp fun fit other member =>
                    fit other (List.mem_cons_of_mem _ member)

section Spelled

variable {rooted : Bool} {parts : List String} (spelling : Path.IsSpelling rooted parts)
  (start : tree.find? (if rooted then [] else Path.parts working) = some .directory)
include spelling start

/-- What looking for a path comes to that is spelled by its parts. -/
theorem looked_node :
    tree.Looked (Path.way working (Path.ofParts rooted parts)) (Fits (Path.ofParts rooted parts))
      (fun node => tree.find? (Path.way working (Path.ofParts rooted parts)) = some node)
      (tree.node working (Path.ofParts rooted parts)) := by
  obtain ⟨ups, names, shape, plain, -⟩ := spelling.shape
  have way := spelling.way_ofParts working
  rw [shape, Path.walk_append, Path.walk_plain plain, ← shape] at way
  unfold node
  by_cases clear : Char.ofNat 0 ∈ (Path.ofParts rooted parts).toList
  · rw [locate, if_neg spelling.ofParts_ne_empty, if_pos (by simpa using clear)]
    exact .limited (by decide) fun fits => fits.clear clear
  by_cases short : Text.byteLength (Path.ofParts rooted parts) < pathLimit
  swap
  · rw [locate, if_neg spelling.ofParts_ne_empty, if_neg (by simpa using clear),
      if_pos (Nat.not_lt.mp short)]
    exact .limited (by decide) fun fits => short fits.short
  rw [locate_eq_descend spelling shape clear short]
  have short : Fits (Path.ofParts rooted parts) →
      ∀ name ∈ names, Text.byteLength name ≤ nameLimit := fun fits name member =>
    fits.nameLimit_of_mem spelling (by simp [shape, member])
  have descended := (wellFormed.looked_descend plain
    (wellFormed.find?_walk_parents start ups)).imp short
  rw [← way] at descended
  generalize tree.descend _ names = outcome at descended
  cases descended with
  | missing absent free => exact .missing absent free
  | blocked absent blocked => exact .blocked absent blocked
  | limited other limited => exact .limited other limited
  | reached there =>
      obtain ⟨rfl, parent⟩ := there
      simp only [bind, Except.bind]
      cases found : tree.find? (Path.way working (Path.ofParts rooted parts)) with
      | none => exact .missing found (wellFormed.not_blocked_of_parent parent)
      | some node =>
          cases node with
          | file bytes => exact .reached rfl
          | directory => exact .reached rfl

end Spelled

end WellFormed

theorem fits_of_node {path : String} {node : Node} (found : tree.node working path = .ok node) :
    Fits path := by
  cases located : tree.locate working path with
  | ok place => exact fits_of_locate located
  | error refusal =>
      rw [FileTree.node, located] at found
      cases found

/-- A file below a directory, by the names of an entry and their number up to the directory. -/
def fileIn? (depth : Nat) : List String × Node → Option (List String × Bytes)
  | (names, .file bytes) => some (names.drop depth, bytes)
  | (_, .directory) => none

theorem fileIn?_append_eq_some_iff {above : List String} {node : Node}
    {file : List String × Bytes} :
    fileIn? above.length (above ++ names, node) = some file ↔
      names = file.1 ∧ node = .file file.2 := by
  cases node with
  | directory => simp [fileIn?]
  | file bytes => simp [fileIn?, Prod.ext_iff]

/-- The files below a directory, by the names that lead to them from there. -/
def filesIn (tree : FileTree) (above : List String) : List (List String × Bytes) :=
  (tree.inside above).filterMap (fileIn? above.length)

section FilesIn

variable (wellFormed : tree.WellFormed) {above : List String} {file : List String × Bytes}
include wellFormed

theorem find?_of_mem_filesIn (member : file ∈ tree.filesIn above) :
    file.1 ≠ [] ∧ (∀ name ∈ file.1, Path.IsPlain name) ∧
      tree.find? (above ++ file.1) = some (.file file.2) := by
  obtain ⟨⟨whole, node⟩, inside, same⟩ := List.mem_filterMap.mp member
  obtain ⟨inner, proper, plain, rfl, found⟩ := wellFormed.exists_names_of_mem_inside inside
  obtain ⟨rfl, rfl⟩ := fileIn?_append_eq_some_iff.mp same
  exact ⟨proper, plain, found⟩

theorem mem_filesIn_iff (directory : tree.find? above = some .directory) :
    file ∈ tree.filesIn above ↔ tree.find? (above ++ file.1) = some (.file file.2) := by
  constructor
  · intro member
    exact (find?_of_mem_filesIn wellFormed member).2.2
  · intro found
    have proper : file.1 ≠ [] := by
      intro empty
      rw [empty, List.append_nil, directory] at found
      cases found
    exact List.mem_filterMap.mpr
      ⟨_, wellFormed.mem_inside proper found, fileIn?_append_eq_some_iff.mpr ⟨rfl, rfl⟩⟩

/-- Different files below a directory have different names. -/
theorem pairwise_filesIn : (tree.filesIn above).Pairwise (·.1 ≠ ·.1) := by
  rw [filesIn, List.pairwise_filterMap]
  have sorted : (tree.inside above).Pairwise (·.1 < ·.1) :=
    (wellFormed.sorted.filter _).filter _
  refine sorted.imp_of_mem ?_
  rintro ⟨one, node⟩ ⟨two, other⟩ first second less file same final sameToo
  obtain ⟨inner, -, -, rfl, -⟩ := wellFormed.exists_names_of_mem_inside first
  obtain ⟨outer, -, -, rfl, -⟩ := wellFormed.exists_names_of_mem_inside second
  obtain ⟨rfl, -⟩ := fileIn?_append_eq_some_iff.mp same
  obtain ⟨rfl, -⟩ := fileIn?_append_eq_some_iff.mp sameToo
  intro alike
  rw [alike] at less
  exact List.lt_irrefl _ less

end FilesIn

end FileTree

namespace Machine

variable {machine : Machine}

/-- What looking for a path below a directory comes to. -/
theorem Sound.looked_under (sound : machine.Sound) (directory : String) {names : List String}
    (plain : ∀ name ∈ names, Path.IsPlain name) (below : names ≠ []) :
    machine.tree.Looked (Path.way machine.working directory ++ names)
      (FileTree.Fits (Path.under directory (Text.join "/" names)))
      (fun node => machine.tree.find? (Path.way machine.working directory ++ names) = some node)
      (machine.tree.node machine.working (Path.under directory (Text.join "/" names))) := by
  have proper : Path.parts directory ++ names ≠ [] := by simp [below]
  have start : machine.tree.find? (if Path.isAbsolute directory then [] else
      Path.parts machine.working) = some .directory := by
    split
    · rfl
    · exact sound.working
  have looked := sound.tree.looked_node (Path.isSpelling_append plain proper) start
  rwa [Path.way_append plain proper, ← Path.under_join_ofParts plain below] at looked

/-- What stands below a directory can be looked at if no limit is in the way. -/
theorem Sound.node_under_eq_ok_iff (sound : machine.Sound) (directory : String)
    {names : List String} (plain : ∀ name ∈ names, Path.IsPlain name) (below : names ≠ [])
    {node : Node}
    (found : machine.tree.find? (Path.way machine.working directory ++ names) = some node) :
    machine.tree.node machine.working (Path.under directory (Text.join "/" names)) = .ok node ↔
      FileTree.Fits (Path.under directory (Text.join "/" names)) := by
  refine ⟨FileTree.fits_of_node, ?_⟩
  intro fits
  have looked := sound.looked_under directory plain below
  generalize machine.tree.node machine.working (Path.under directory (Text.join "/" names)) =
    outcome at looked
  cases looked with
  | reached there =>
      rw [found] at there
      cases there
      rfl
  | missing absent =>
      rw [found] at absent
      cases absent
  | blocked absent =>
      rw [found] at absent
      cases absent
  | limited _ limited => exact absurd fits limited

/-! ## Walks -/

/-- All that stands below a directory has a path that fits. -/
def FitsBelow (machine : Machine) (directory : String) : Prop :=
  ∀ names, names ≠ [] →
    (machine.tree.find? (Path.way machine.working directory ++ names)).isSome →
      FileTree.Fits (Path.under directory (Text.join "/" names))

theorem fitsBelow_of_entries {directory : String}
    (fits : ∀ entry ∈ machine.tree.entries, FileTree.Fits (FileTree.pathBelow directory
      (Path.way machine.working directory).length entry.1)) : machine.FitsBelow directory := by
  intro names below found
  obtain ⟨node, found⟩ := Option.isSome_iff_exists.mp found
  have fitting := fits _ (FileTree.mem_of_find? (by simp [below]) found)
  rwa [FileTree.pathBelow_append] at fitting

/-- A walk that starts at a file finds this file. -/
theorem walk_of_file {path : String} {bytes : Bytes}
    (file : machine.tree.node machine.working path = .ok (.file bytes)) :
    (machine.tree.view machine.working).walk path = .ok [path] := by
  have looked : (machine.tree.view machine.working).look path = .ok .file :=
    FileTree.look_view file
  refine View.walk_eq_ok_iff.mpr
    ⟨[FileTree.entry path .file], FileTree.entriesBelow_of_file file, ?_, ?_⟩
  · intro entry member
    rw [List.mem_singleton.mp member]
    exact .inl looked
  · simp [View.isFile, FileTree.entry, looked, Except.toOption]

section Walk

variable (sound : machine.Sound) {directory : String}
include sound

/-- A walk goes on behind what stands below a directory if its path fits. -/
theorem Sound.passes_entry_iff {names : List String}
    (plain : ∀ name ∈ names, Path.IsPlain name) (below : names ≠ []) {node : Node}
    (found : machine.tree.find? (Path.way machine.working directory ++ names) = some node) :
    (machine.tree.view machine.working).Passes
        (FileTree.entry (Path.under directory (Text.join "/" names)) node.kind) ↔
      FileTree.Fits (Path.under directory (Text.join "/" names)) := by
  constructor
  · rintro (looked | ⟨looked, -⟩)
    · obtain ⟨there, stands, -⟩ := exists_of_map_eq_ok looked
      exact FileTree.fits_of_node stands
    · obtain ⟨there, stands, -⟩ := exists_of_map_eq_ok looked
      exact FileTree.fits_of_node stands
  · intro fits
    have stands := (sound.node_under_eq_ok_iff directory plain below found).mpr fits
    have looked : (machine.tree.view machine.working).look
        (Path.under directory (Text.join "/" names)) = .ok node.kind :=
      FileTree.look_view stands
    cases node with
    | file bytes => exact .inl looked
    | directory => exact .inr ⟨looked, FileTree.closed_entry_eq_none_iff.mpr fun _ => fits.short⟩

variable (there : machine.tree.node machine.working directory = .ok .directory)
include there

/-- A walk comes to its end if all that stands below the directory has a path that fits. -/
theorem Sound.walkable_iff :
    (machine.tree.view machine.working).Walkable directory ↔ machine.FitsBelow directory := by
  have listed : (machine.tree.view machine.working).entries directory = _ :=
    FileTree.entriesBelow_of_directory there
  have looked : (machine.tree.view machine.working).look directory = .ok .directory :=
    FileTree.look_view there
  simp only [View.Walkable, listed, Except.ok.injEq, exists_eq_left', List.forall_mem_cons,
    List.forall_mem_map]
  constructor
  · rintro ⟨-, passed⟩ names below found
    obtain ⟨node, found⟩ := Option.isSome_iff_exists.mp found
    have plain : ∀ name ∈ names, Path.IsPlain name := fun name member =>
      sound.tree.plain_of_find? found name (List.mem_append_right _ member)
    have passes := passed _ (sound.tree.mem_inside below found)
    rw [FileTree.pathBelow_append] at passes
    exact (sound.passes_entry_iff plain below found).mp passes
  · intro fits
    constructor
    · exact .inr ⟨looked, FileTree.closed_entry_eq_none_iff.mpr fun _ =>
        (FileTree.fits_of_node there).short⟩
    · intro inner member
      obtain ⟨names, below, plain, same, found⟩ := sound.tree.exists_names_of_mem_inside member
      rw [same, FileTree.pathBelow_append]
      exact (sound.passes_entry_iff plain below found).mpr (fits names below (by rw [found]; rfl))

/-- A walk that comes to its end finds the files below the directory. -/
theorem Sound.walk_of_fits (fits : machine.FitsBelow directory) :
    (machine.tree.view machine.working).walk directory =
      .ok ((machine.tree.filesIn (Path.way machine.working directory)).map fun file =>
        Path.under directory (Text.join "/" file.1)) := by
  obtain ⟨entries, listed, passed⟩ := (sound.walkable_iff there).mpr fits
  refine View.walk_eq_ok_iff.mpr ⟨entries, listed, passed, ?_⟩
  have same : machine.tree.entriesBelow machine.working directory = .ok entries := listed
  rw [FileTree.entriesBelow_of_directory there, Except.ok.injEq] at same
  have looked : (machine.tree.view machine.working).isFile directory = false := by
    simp [View.isFile, FileTree.view, there, Except.map, Except.toOption, Node.kind]
  rw [← same, List.filter_cons_of_neg (by simp [FileTree.entry, looked]), List.filter_map,
    List.map_map, FileTree.filesIn, List.map_filterMap, ← List.filterMap_eq_map,
    List.filterMap_filter]
  refine List.filterMap_congr fun inner member => ?_
  obtain ⟨names, below, plain, same, found⟩ := sound.tree.exists_names_of_mem_inside member
  have stands := (sound.node_under_eq_ok_iff directory plain below found).mpr
    (fits names below (by rw [found]; rfl))
  obtain ⟨whole, node⟩ := inner
  cases same
  cases node with
  | file bytes =>
      simp [FileTree.entry, FileTree.pathBelow_append, View.isFile, FileTree.view, stands,
        Except.map, Except.toOption, Node.kind, FileTree.fileIn?]
  | directory =>
      simp [FileTree.entry, FileTree.pathBelow_append, View.isFile, FileTree.view, stands,
        Except.map, Except.toOption, Node.kind, FileTree.fileIn?]

end Walk

end Machine

end DomainGen
