import DomainGen.Generate.Compare
import DomainGen.Proofs.Host.Walking
import Mathlib.Data.List.Basic

/-!
# What a comparison says

Comparing reads and changes nothing, and what it says is determined by what the host shows of
its files (`Viewed.run_compareDirectories`): it fails where looking at the generated directory
fails, and of each file that a walk finds there it says what is read at its counterpart
(`View.differenceOf?_eq_none_iff`).

In a file tree where all that was generated can be looked at, the files are those below the
generated directory (`run_compareDirectories_of_fits`).  Where the counterparts can be looked at
too, the files that are missing or have other contents are named in order and each once
(`exists_run_compareDirectories`).
-/

namespace DomainGen

theorem relativePath_under {directory : String} {names : List String}
    (plain : ∀ name ∈ names, Path.IsPlain name) (below : names ≠ []) (spelled : directory ≠ "") :
    relativePath directory (Path.under directory (Text.join "/" names)) = Text.join "/" names := by
  have isAbove : (Path.parts directory).isPrefixOf (Path.parts directory ++ names) := by simp
  simp only [relativePath, Path.parts_under plain below spelled, if_pos isAbove, List.drop_left]
  simp [Path.ofParts, below]

/-- The failure of reading a file. -/
def unreadable (path : String) (refusal : Refusal) : Failure :=
  .context ("failed to read " ++ path) (Disk.readFailure path refusal)

theorem isMissingFile_unreadable (path : String) (refusal : Refusal) :
    (unreadable path refusal).isMissingFile = decide (refusal = .missing) := by
  cases refusal with
  | missing => rfl
  | _ => rfl

/-- What is said about a file, by the outcome of a comparison of its contents. -/
def differenceText? (name : String) : Except Failure Bool → Option String
  | .ok false => none
  | .ok true => some name
  | .error failure =>
      if failure.isMissingFile then some (name ++ " (missing)")
      else some (name ++ " (error: " ++ failure.text ++ ")")

/-! ## What a host shows -/

/-- Texts that are sorted. -/
theorem pairwise_le_mergeSort (texts : List String) :
    (texts.mergeSort fun first second => first ≤ second).Pairwise (· ≤ ·) := by
  have sorted : (texts.mergeSort fun first second => first ≤ second).Pairwise
      fun first second => decide (first ≤ second) := by
    refine List.pairwise_mergeSort ?_ ?_ texts
    · intro first second third one two
      exact decide_eq_true (String.le_trans (of_decide_eq_true one) (of_decide_eq_true two))
    · intro first second
      simpa using String.le_total first second
  exact sorted.imp fun less => of_decide_eq_true less

/-- The place below another directory that a generated file is compared with. -/
def counterpart (generated existing file : String) : String :=
  Path.under existing (relativePath generated file)

namespace View

variable (view : View)

/-- Whether two files have different contents. -/
def filesDiffer (first second : String) : Except Failure Bool := do
  let one ← (view.read first).mapError (unreadable first)
  let other ← (view.read second).mapError (unreadable second)
  return one != other

/-- What there is to say about a generated file. -/
def differenceOf? (generated existing file : String) : Option String :=
  differenceText? (relativePath generated file)
    (view.filesDiffer file (counterpart generated existing file))

/-- The outcome of a comparison. -/
def compare (generated existing : String) : Except Failure (List String) := do
  let _ ← (view.kind generated).mapError fun refusal =>
    .context ("failed to read generated output " ++ generated)
      (.system "stat" [generated] refusal)
  let files ← (view.walk generated).mapError
    (.context ("failed to compare " ++ generated ++ " with " ++ existing))
  return (files.filterMap (view.differenceOf? generated existing)).mergeSort
    fun first second => first ≤ second

variable {view}

/-- What reading a generated file and its counterpart comes to, and what is said about it:
nothing if both can be read and are the same, its path if they differ, and otherwise what the
first refusal calls for. -/
inductive Said (view : View) (generated existing file : String) : Option String → Prop where
  | same (bytes : Bytes) (one : view.read file = .ok bytes)
      (other : view.read (counterpart generated existing file) = .ok bytes) :
      Said view generated existing file none
  | changed (bytes content : Bytes) (one : view.read file = .ok bytes)
      (other : view.read (counterpart generated existing file) = .ok content)
      (differ : content ≠ bytes) :
      Said view generated existing file (some (relativePath generated file))
  | refused (path : String) (refusal : Refusal)
      (failed : path = file ∧ view.read file = .error refusal ∨
        path = counterpart generated existing file ∧ (∃ bytes, view.read file = .ok bytes) ∧
          view.read path = .error refusal) :
      Said view generated existing file (some (relativePath generated file ++
        if refusal = .missing then " (missing)"
        else " (error: " ++ (unreadable path refusal).text ++ ")"))

/-- A refusal is told as a missing file or as an error. -/
theorem differenceText?_unreadable (name path : String) (refusal : Refusal) :
    differenceText? name (.error (unreadable path refusal)) = some (name ++
      if refusal = .missing then " (missing)"
      else " (error: " ++ (unreadable path refusal).text ++ ")") := by
  rw [differenceText?, isMissingFile_unreadable]
  by_cases missing : refusal = .missing
  · rw [decide_eq_true missing, if_pos rfl, if_pos missing]
  · rw [decide_eq_false missing, if_neg Bool.false_ne_true, if_neg missing]
    simp only [String.append_assoc]

theorem said_differenceOf? (view : View) (generated existing file : String) :
    view.Said generated existing file (view.differenceOf? generated existing file) := by
  unfold differenceOf? filesDiffer
  cases one : view.read file with
  | error refusal =>
      have said := differenceText?_unreadable (relativePath generated file) file refusal
      simp only [mapError_error, bind, Except.bind, said]
      exact .refused file refusal (.inl ⟨rfl, one⟩)
  | ok bytes =>
      cases other : view.read (counterpart generated existing file) with
      | error refusal =>
          have said := differenceText?_unreadable (relativePath generated file)
            (counterpart generated existing file) refusal
          simp only [mapError_ok, mapError_error, bind, Except.bind, said]
          exact .refused _ refusal (.inr ⟨rfl, ⟨bytes, one⟩, other⟩)
      | ok content =>
          simp only [mapError_ok, bind, Except.bind, pure, Except.pure]
          by_cases same : content = bytes
          · have alike : (bytes != content) = false := by simp [same]
            rw [alike]
            exact .same bytes one (same ▸ other)
          · have differ : (bytes != content) = true := bne_iff_ne.mpr (Ne.symm same)
            rw [differ]
            exact .changed bytes content one other same

/-- Nothing is said about a file if it can be read and its counterpart has the same contents. -/
theorem Said.eq_none_iff {generated existing file : String} {said : Option String}
    (told : view.Said generated existing file said) :
    said = none ↔ ∃ bytes, view.read file = .ok bytes ∧
      view.read (counterpart generated existing file) = .ok bytes := by
  cases told with
  | same bytes one other => exact ⟨fun _ => ⟨bytes, one, other⟩, fun _ => rfl⟩
  | changed bytes content one other differ =>
      refine ⟨nofun, ?_⟩
      rintro ⟨both, first, second⟩
      rw [one] at first
      rw [other] at second
      cases first
      cases second
      exact absurd rfl differ
  | refused path refusal failed =>
      refine ⟨nofun, ?_⟩
      rintro ⟨both, first, second⟩
      rcases failed with ⟨-, failed⟩ | ⟨rfl, -, failed⟩
      · rw [first] at failed
        cases failed
      · rw [second] at failed
        cases failed

/-- A comparison fails where looking at the generated path or walking it fails. -/
theorem exists_compare_eq_error_iff {generated existing : String} :
    (∃ failure, view.compare generated existing = .error failure) ↔
      (∃ refusal, view.kind generated = .error refusal) ∨ ¬ view.Walkable generated := by
  rw [← exists_walk_iff, compare]
  cases view.kind generated with
  | error refusal => simp [bind, Except.bind]
  | ok kind =>
      cases view.walk generated with
      | error failure => simp [bind, Except.bind]
      | ok files => simp [bind, Except.bind, pure, Except.pure]

theorem compare_of_walk {generated existing : String} {kind : EntryKind} {files : List String}
    (there : view.kind generated = .ok kind) (walked : view.walk generated = .ok files) :
    view.compare generated existing =
      .ok ((files.filterMap (view.differenceOf? generated existing)).mergeSort
        fun first second => first ≤ second) := by
  rw [compare, there, walked]
  rfl

/-- A comparison finds nothing if every file that a walk comes to can be read and has a
counterpart with the same contents. -/
theorem mergeSort_differences_eq_nil_iff {generated existing : String} {files : List String} :
    (files.filterMap (view.differenceOf? generated existing)).mergeSort
        (fun first second => first ≤ second) = [] ↔
      ∀ file ∈ files, ∃ bytes, view.read file = .ok bytes ∧
        view.read (counterpart generated existing file) = .ok bytes := by
  rw [← List.perm_nil, (List.mergeSort_perm _ _).congr_left, List.perm_nil,
    List.filterMap_eq_nil_iff]
  refine forall₂_congr fun file _ => ?_
  exact (said_differenceOf? view generated existing file).eq_none_iff

end View

namespace Viewed

variable {σ : Type} [Disk (StateM σ)] [Process (StateM σ)] [Journal (StateM σ)] [Viewed σ]
  (generated existing : String) (state : σ)

theorem run_filesDiffer (first second : String) :
    (filesDiffer first second : ExceptT Failure (StateM σ) Bool).run state =
      ((view state).filesDiffer first second, state) := by
  rw [filesDiffer, run_bind_stateM, run_adapt_stateM, run_readFile, View.filesDiffer]
  cases (view state).read first with
  | error refusal => rfl
  | ok one =>
      simp only [mapError_ok]
      rw [run_bind_stateM, run_adapt_stateM, run_readFile]
      cases (view state).read second with
      | error refusal => rfl
      | ok other => rfl

theorem run_difference? (file : String) :
    (difference? generated existing file : StateM σ (Option String)) state =
      ((view state).differenceOf? generated existing file, state) := by
  have ran := run_filesDiffer state file (counterpart generated existing file)
  simp only [ExceptT.run, counterpart] at ran
  unfold difference? View.differenceOf?
  simp only [bind, StateT.bind, ExceptT.run, ran, counterpart]
  cases (view state).filesDiffer file (Path.under existing (relativePath generated file)) with
  | error failure =>
      simp only [differenceText?]
      cases failure.isMissingFile with
      | false => rfl
      | true => rfl
  | ok differ =>
      cases differ with
      | false => rfl
      | true => rfl

theorem run_differencesOf (files : List String) :
    (differencesOf generated existing files : StateM σ (List String)) state =
      (files.filterMap ((view state).differenceOf? generated existing), state) := by
  induction files with
  | nil => rfl
  | cons file files ih =>
      rw [differencesOf]
      simp only [bind, StateT.bind, run_difference?, ih, List.filterMap_cons]
      cases (view state).differenceOf? generated existing file with
      | none => rfl
      | some text => rfl

/-- What a comparison comes to is determined by what the host shows, and it changes nothing. -/
theorem run_compareDirectories :
    (compareDirectories generated existing : ExceptT Failure (StateM σ) (List String)).run state =
      ((view state).compare generated existing, state) := by
  rw [compareDirectories, run_bind_stateM, run_adapt_stateM, run_status, View.compare]
  cases (view state).kind generated with
  | error refusal => rfl
  | ok kind =>
      simp only [mapError_ok]
      rw [run_bind_stateM, run_adapt_stateM, run_walk]
      cases (view state).walk generated with
      | error failure => rfl
      | ok files =>
          simp only [mapError_ok]
          rw [run_bind_stateM, run_lift_stateM, run_differencesOf]
          rfl

end Viewed

/-! ## What is said about a file -/

/-- What is said about a generated file, by what is read at its counterpart. -/
def FileTree.differenceAt? (tree : FileTree) (working existing : String) (names : List String)
    (bytes : Bytes) : Option String :=
  let name := Text.join "/" names
  let path := Path.under existing name
  match tree.read working path with
  | .ok other => if other = bytes then none else some name
  | .error .missing => some (name ++ " (missing)")
  | .error refusal => some (name ++ " (error: " ++ (unreadable path refusal).text ++ ")")

namespace Machine

section Fitting

variable {machine : Machine} {generated : String} (sound : machine.Sound)
  (there : machine.tree.node machine.working generated = .ok .directory)
  (fits : machine.FitsBelow generated) (existing : String)
include sound there fits

theorem differenceOf?_eq_differenceAt? {names : List String} {bytes : Bytes}
    (plain : ∀ name ∈ names, Path.IsPlain name) (below : names ≠ [])
    (found : machine.tree.find? (Path.way machine.working generated ++ names) =
      some (.file bytes)) :
    (machine.tree.view machine.working).differenceOf? generated existing
        (Path.under generated (Text.join "/" names)) =
      machine.tree.differenceAt? machine.working existing names bytes := by
  have spelled : generated ≠ "" := by
    rintro rfl
    contradiction
  have one : (machine.tree.view machine.working).read
      (Path.under generated (Text.join "/" names)) = .ok bytes := by
    have result := FileTree.read_below sound.tree spelled plain below found
    rw [if_pos (fits names below (by rw [found]; rfl))] at result
    exact eq_ok_of_toOption result
  have same : (machine.tree.view machine.working).read = machine.tree.read machine.working := rfl
  rw [View.differenceOf?, counterpart, relativePath_under plain below spelled, View.filesDiffer,
    one, same, FileTree.differenceAt?]
  cases machine.tree.read machine.working (Path.under existing (Text.join "/" names)) with
  | ok other =>
      by_cases same : other = bytes
      · simp [bind, Except.bind, pure, Except.pure, same, differenceText?]
      · have differ : (bytes != other) = true := bne_iff_ne.mpr (Ne.symm same)
        simp [bind, Except.bind, pure, Except.pure, differ, differenceText?, same]
  | error refusal =>
      simp only [mapError_ok, mapError_error, bind, Except.bind, differenceText?,
        isMissingFile_unreadable, decide_eq_true_eq]
      cases refusal with
      | missing => rfl
      | _ => rfl

/-- A comparison says of each file below the generated directory what is read at its
counterpart. -/
theorem run_compareDirectories_of_fits :
    run (compareDirectories generated existing) machine =
      (.ok (((machine.tree.filesIn (Path.way machine.working generated)).filterMap fun file =>
        machine.tree.differenceAt? machine.working existing file.1 file.2).mergeSort
          fun first second => first ≤ second), machine) := by
  have kind : (machine.tree.view machine.working).kind generated = .ok .directory :=
    FileTree.look_view there
  have compared : run (compareDirectories generated existing) machine = _ :=
    Viewed.run_compareDirectories generated existing machine
  have outcome : (Viewed.view machine).compare generated existing = _ :=
    View.compare_of_walk kind (sound.walk_of_fits there fits)
  rw [compared, outcome, List.filterMap_map]
  congr 3
  refine List.filterMap_congr ?_
  intro file member
  obtain ⟨below, plain, found⟩ := FileTree.find?_of_mem_filesIn sound.tree member
  exact differenceOf?_eq_differenceAt? sound there fits existing plain below found

end Fitting

end Machine

/-! ## Changed files -/

/-- What there is to say about a file below a directory that should have some contents. -/
def FileTree.changeAt? (tree : FileTree) (base names : List String) (bytes : Bytes) :
    Option String :=
  match tree.find? (base ++ names) with
  | none => some (Text.join "/" names ++ " (missing)")
  | some node => if node = .file bytes then none else some (Text.join "/" names)

theorem FileTree.changeAt?_eq_some {tree : FileTree} {base names : List String} {bytes : Bytes}
    {text : String} (found : tree.changeAt? base names bytes = some text) :
    text = Text.join "/" names ∨ text = Text.join "/" names ++ " (missing)" := by
  unfold changeAt? at found
  split at found
  · exact .inr (Option.some.inj found).symm
  · split at found
    · cases found
    · exact .inl (Option.some.inj found).symm

theorem FileTree.changeAt?_eq_none_iff {tree : FileTree} {base names : List String}
    {bytes : Bytes} :
    tree.changeAt? base names bytes = none ↔ tree.find? (base ++ names) = some (.file bytes) := by
  unfold changeAt?
  cases tree.find? (base ++ names) with
  | none => simp
  | some node => simp

/-- Texts that are sorted, each of them once. -/
theorem pairwise_lt_mergeSort {texts : List String} (distinct : texts.Nodup) :
    (texts.mergeSort fun first second => first ≤ second).Pairwise (· < ·) := by
  have distinct := (List.mergeSort_perm texts fun first second => first ≤ second).nodup_iff.mpr
    distinct
  refine ((pairwise_le_mergeSort texts).and distinct).imp ?_
  rintro first second ⟨less, apart⟩
  rw [← String.not_le]
  exact fun more => apart (String.le_antisymm less more)

/-- A place below a directory that can be looked at: its path fits, and what can be missing
there is a file. -/
structure FileTree.Visible (tree : FileTree) (working directory : String) (names : List String) :
    Prop where
  fits : Fits (Path.under directory (Text.join "/" names))
  parent : tree.find? (Path.way working directory ++ names.dropLast) = some .directory
  file : tree.find? (Path.way working directory ++ names) ≠ some .directory

theorem FileTree.Visible.read {tree : FileTree} {working directory : String}
    {names : List String} (visible : tree.Visible working directory names)
    (wellFormed : tree.WellFormed) (spelled : directory ≠ "")
    (plain : ∀ name ∈ names, Path.IsPlain name) (below : names ≠ []) :
    tree.read working (Path.under directory (Text.join "/" names)) =
      match tree.find? (Path.way working directory ++ names) with
      | some (.file bytes) => .ok bytes
      | _ => .error .missing := by
  have fits := visible.fits
  rw [Path.under_join plain below spelled] at fits ⊢
  have located : tree.locate working (Path.ofParts (Path.isAbsolute directory)
      (Path.parts directory ++ names)) = .ok ⟨Path.way working directory ++ names, false⟩ := by
    refine locate_append plain (by simp [below]) fits ?_
    intro above isAbove apart
    have higher := prefix_dropLast isAbove apart
    rw [List.dropLast_append_of_ne_nil below] at higher
    by_cases same : above = Path.way working directory ++ names.dropLast
    · rw [same, visible.parent]
    · exact wellFormed.find?_above visible.parent higher same
  unfold FileTree.read FileTree.node
  simp only [located, bind, Except.bind]
  cases found : tree.find? (Path.way working directory ++ names) with
  | none => rfl
  | some node =>
      cases node with
      | directory => exact absurd found visible.file
      | file bytes => rfl

namespace Machine

section Compare

variable {machine : Machine} {generated existing : String} (sound : machine.Sound)
  (there : machine.tree.node machine.working generated = .ok .directory)
  (spelled : existing ≠ "") (fits : machine.FitsBelow generated)
  (readable : ∀ names bytes,
    machine.tree.find? (Path.way machine.working generated ++ names) = some (.file bytes) →
      machine.tree.Visible machine.working existing names)
include sound there spelled fits readable

omit there fits in
/-- What is said about a generated file is what has changed. -/
theorem differenceAt?_eq_changeAt? {names : List String} {bytes : Bytes}
    (plain : ∀ name ∈ names, Path.IsPlain name) (below : names ≠ [])
    (found : machine.tree.find? (Path.way machine.working generated ++ names) =
      some (.file bytes)) :
    machine.tree.differenceAt? machine.working existing names bytes =
      machine.tree.changeAt? (Path.way machine.working existing) names bytes := by
  have visible := readable names bytes found
  rw [FileTree.differenceAt?, visible.read sound.tree spelled plain below, FileTree.changeAt?]
  cases standing : machine.tree.find? (Path.way machine.working existing ++ names) with
  | none => rfl
  | some node =>
      cases node with
      | directory => exact absurd standing visible.file
      | file other => simp

omit there spelled fits readable in
/-- Different files are not spoken of alike. -/
theorem nodup_changes
    (unambiguous : ∀ names bytes,
      machine.tree.find? (Path.way machine.working generated ++ names) = some (.file bytes) →
        ∀ text, Text.join "/" names ≠ text ++ " (missing)") :
    ((machine.tree.filesIn (Path.way machine.working generated)).filterMap fun file =>
      machine.tree.changeAt? (Path.way machine.working existing) file.1 file.2).Nodup := by
  rw [List.Nodup, List.pairwise_filterMap]
  refine (FileTree.pairwise_filesIn sound.tree).imp_of_mem ?_
  rintro ⟨inner, bytes⟩ ⟨outer, content⟩ one two apart text said different saidToo rfl
  obtain ⟨some, plain, found⟩ := FileTree.find?_of_mem_filesIn sound.tree one
  obtain ⟨someOuter, plainOuter, foundOuter⟩ := FileTree.find?_of_mem_filesIn sound.tree two
  have same : Text.join "/" inner = Text.join "/" outer := by
    rcases FileTree.changeAt?_eq_some said with rfl | rfl
    · rcases FileTree.changeAt?_eq_some saidToo with same | same
      · exact same
      · exact absurd same (unambiguous inner bytes found _)
    · rcases FileTree.changeAt?_eq_some saidToo with same | same
      · exact absurd same.symm (unambiguous outer content foundOuter _)
      · have same := congrArg String.toList same
        rw [String.toList_append, String.toList_append] at same
        exact String.toList_injective (List.append_cancel_right same)
  have names := congrArg (Text.segments '/') same
  rw [Path.segments_join_plain some plain, Path.segments_join_plain someOuter plainOuter]
    at names
  exact apart names

/-- What a comparison says: every file that is missing or has other contents is named once,
in order. -/
theorem exists_run_compareDirectories
    (unambiguous : ∀ names bytes,
      machine.tree.find? (Path.way machine.working generated ++ names) = some (.file bytes) →
        ∀ text, Text.join "/" names ≠ text ++ " (missing)") :
    ∃ changes, run (compareDirectories generated existing) machine = (.ok changes, machine) ∧
      changes.Pairwise (· < ·) ∧
      ∀ text, text ∈ changes ↔ ∃ names bytes,
        machine.tree.find? (Path.way machine.working generated ++ names) = some (.file bytes) ∧
          machine.tree.changeAt? (Path.way machine.working existing) names bytes = some text := by
  have changed : (machine.tree.filesIn (Path.way machine.working generated)).filterMap
        (fun file => machine.tree.differenceAt? machine.working existing file.1 file.2) =
      (machine.tree.filesIn (Path.way machine.working generated)).filterMap fun file =>
        machine.tree.changeAt? (Path.way machine.working existing) file.1 file.2 := by
    refine List.filterMap_congr ?_
    intro file member
    obtain ⟨below, plain, found⟩ := FileTree.find?_of_mem_filesIn sound.tree member
    exact differenceAt?_eq_changeAt? sound spelled readable plain below found
  have directory := (FileTree.find?_way_of_node there).2
  refine ⟨_, run_compareDirectories_of_fits sound there fits existing, ?_, ?_⟩
  · rw [changed]
    exact pairwise_lt_mergeSort (nodup_changes sound unambiguous)
  · intro text
    rw [List.mem_mergeSort, changed, List.mem_filterMap]
    constructor
    · rintro ⟨⟨names, bytes⟩, member, said⟩
      exact ⟨names, bytes, (FileTree.mem_filesIn_iff sound.tree directory).mp member, said⟩
    · rintro ⟨names, bytes, found, said⟩
      exact ⟨(names, bytes), (FileTree.mem_filesIn_iff sound.tree directory).mpr found, said⟩

end Compare

end Machine

end DomainGen
