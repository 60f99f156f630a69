import DomainGen.Proofs.Generate.Comparing
import DomainGen.Proofs.Host.Far

/-!
# When one tree contains another

A comparison decides whether one tree of files is contained in another
(`compareDirectories_decides`).  On any host it fails exactly where the generated path cannot be
looked at or a walk from there is refused something, and otherwise says of each file it comes to
what reading it and its counterpart comes to.  In a file tree that is what stands at its place
below the other directory, so that the kinds of nodes there and on the way decide between files
that are missing, that cannot be read, and that have other contents.

That a directory exists is not enough for a walk to get through.  It fails where the path of
something that was generated does not fit (`compareDirectories_farMachine`), or where a
directory may not be opened.
-/

namespace DomainGen

/-- What is said about a generated file, by what stands at its place below another directory. -/
inductive FileTree.Verdict (tree : FileTree) (working existing : String) (names : List String)
    (bytes : Bytes) : Option String → Prop where
  | same : Fits (Path.under existing (Text.join "/" names)) →
      tree.find? (Path.way working existing ++ names) = some (.file bytes) →
        Verdict tree working existing names bytes none
  | changed (other : Bytes) : Fits (Path.under existing (Text.join "/" names)) →
      tree.find? (Path.way working existing ++ names) = some (.file other) → other ≠ bytes →
        Verdict tree working existing names bytes (some (Text.join "/" names))
  /-- What stands there or a directory on the way is missing. -/
  | missing : tree.find? (Path.way working existing ++ names) = none →
      ¬ tree.Blocked (Path.way working existing ++ names) →
        Verdict tree working existing names bytes (some (Text.join "/" names ++ " (missing)"))
  /-- A directory stands there, a file is used as a directory, or the path does not fit. -/
  | unreadable (reason : String) :
      tree.find? (Path.way working existing ++ names) = some .directory ∨
        tree.Blocked (Path.way working existing ++ names) ∨
          ¬ Fits (Path.under existing (Text.join "/" names)) →
        Verdict tree working existing names bytes
          (some (Text.join "/" names ++ " (error: " ++ reason ++ ")"))

namespace FileTree.Verdict

variable {tree : FileTree} {working existing : String} {names : List String} {bytes : Bytes}
  {said : Option String}

/-- Nothing is said if the same contents stand at the place and can be read. -/
theorem eq_none_iff (wellFormed : tree.WellFormed)
    (verdict : tree.Verdict working existing names bytes said) :
    said = none ↔ Fits (Path.under existing (Text.join "/" names)) ∧
      tree.find? (Path.way working existing ++ names) = some (.file bytes) := by
  cases verdict with
  | same fits found => exact ⟨fun _ => ⟨fits, found⟩, fun _ => rfl⟩
  | changed other fits found differ =>
      refine ⟨nofun, ?_⟩
      rintro ⟨-, same⟩
      rw [found] at same
      cases same
      exact absurd rfl differ
  | missing absent free =>
      refine ⟨nofun, ?_⟩
      rintro ⟨-, found⟩
      rw [absent] at found
      cases found
  | unreadable reason why =>
      refine ⟨nofun, ?_⟩
      rintro ⟨fits, found⟩
      rcases why with directory | blocked | limited
      · rw [directory] at found
        cases found
      · rw [wellFormed.find?_of_blocked blocked] at found
        cases found
      · exact absurd fits limited

end FileTree.Verdict

namespace Machine

variable {machine : Machine} {generated : String}

/-- What is said about a file follows from what stands at its place below the other
directory. -/
theorem Sound.verdict (sound : machine.Sound) (existing : String) {names : List String}
    (plain : ∀ name ∈ names, Path.IsPlain name) (below : names ≠ []) (bytes : Bytes) :
    machine.tree.Verdict machine.working existing names bytes
      (machine.tree.differenceAt? machine.working existing names bytes) := by
  have looked := sound.looked_under existing plain below
  unfold FileTree.differenceAt? FileTree.read
  dsimp only
  generalize seen : machine.tree.node machine.working (Path.under existing (Text.join "/" names)) =
    outcome at looked
  cases looked with
  | missing absent free => exact .missing absent free
  | blocked absent blocked => exact .unreadable _ (.inr (.inl blocked))
  | @limited refusal other limited =>
      cases refusal with
      | missing => contradiction
      | _ => exact .unreadable _ (.inr (.inr limited))
  | @reached node found =>
      have fits := FileTree.fits_of_node seen
      cases node with
      | directory => exact .unreadable _ (.inl found)
      | file other =>
          simp only [bind, Except.bind, pure, Except.pure]
          split
          · next same => exact .same fits (same ▸ found)
          · next differ => exact .changed other fits found differ

/-- A comparison fails where a walk fails. -/
theorem exists_run_compareDirectories_eq_error_iff (sound : machine.Sound)
    (there : machine.tree.node machine.working generated = .ok .directory) (existing : String) :
    (∃ failure, (run (compareDirectories generated existing) machine).1 = .error failure) ↔
      ¬ machine.FitsBelow generated := by
  have compared : run (compareDirectories generated existing) machine = _ :=
    Viewed.run_compareDirectories generated existing machine
  have kind : (Viewed.view machine).kind generated = .ok .directory := FileTree.look_view there
  have walkable : (Viewed.view machine).Walkable generated ↔ _ := sound.walkable_iff there
  rw [compared, View.exists_compare_eq_error_iff, kind, walkable]
  simp

end Machine

open Machine

/-- What a comparison comes to on a host that shows a view. -/
structure View.Compares (view : View) (generated existing : String)
    (outcome : Except Failure (List String)) : Prop where
  /-- It fails iff the generated path cannot be looked at, or a walk from there on is refused
  to look at something or to open a directory. -/
  fails : (∃ failure, outcome = .error failure) ↔
    (∃ refusal, view.kind generated = .error refusal) ∨ ¬ view.Walkable generated
  /-- Otherwise it lists what there is to say about each file that the walk comes to. -/
  lists (kind : EntryKind) (entries : List Entry) : view.kind generated = .ok kind →
    view.entries generated = .ok entries → (∀ entry ∈ entries, view.Passes entry) →
    let files := (entries.filter (view.isFile ·.path)).map (·.path)
    ∃ changes, outcome = .ok changes ∧ changes.Pairwise (· ≤ ·) ∧
      (changes = [] ↔ ∀ file ∈ files, ∃ bytes, view.read file = .ok bytes ∧
        view.read (counterpart generated existing file) = .ok bytes) ∧
      ∃ said : String → Option String,
        (∀ file ∈ files, view.Said generated existing file (said file)) ∧
        changes.Perm (files.filterMap said)

theorem View.compares_compare (view : View) (generated existing : String) :
    view.Compares generated existing (view.compare generated existing) where
  fails := exists_compare_eq_error_iff
  lists kind entries there listed passed := by
    have walked := walk_eq_ok_iff.mpr ⟨entries, listed, passed, rfl⟩
    exact ⟨_, compare_of_walk there walked, pairwise_le_mergeSort _,
      mergeSort_differences_eq_nil_iff, _,
      fun file _ => said_differenceOf? view generated existing file, List.mergeSort_perm _ _⟩

/-- Comparing decides whether the files below one directory stand below another too, and changes
nothing.  On any host it fails exactly where the generated path or something below it cannot be
looked at or opened.  In a file tree this is so if nothing can be found at the generated path, or
if the path of something below it does not fit.  Otherwise the sorted entries that it lists are
one for each generated file that is missing, cannot be read or has other contents. -/
theorem compareDirectories_decides :
    (∀ (σ : Type) [Disk (StateM σ)] [Process (StateM σ)] [Journal (StateM σ)] [Viewed σ]
      (state : σ) (generated existing : String),
      let outcome := (compareDirectories generated existing :
        ExceptT Failure (StateM σ) (List String)).run state
      outcome.2 = state ∧ (Viewed.view state).Compares generated existing outcome.1) ∧
    (∀ machine : Machine, machine.Sound → ∀ generated existing : String,
      let tree := machine.tree
      let place := Path.way machine.working generated
      let outcome := Machine.run (compareDirectories generated existing) machine
      outcome.2 = machine ∧
        ((∃ failure, outcome.1 = .error failure) ↔
          (∃ refusal, tree.node machine.working generated = .error refusal) ∨
            tree.node machine.working generated = .ok .directory ∧
              ¬ machine.FitsBelow generated) ∧
        (tree.node machine.working generated = .ok .directory → machine.FitsBelow generated →
          ∃ changes, outcome.1 = .ok changes ∧ changes.Pairwise (· ≤ ·) ∧
            (changes = [] ↔ ∀ names bytes, tree.find? (place ++ names) = some (.file bytes) →
              FileTree.Fits (Path.under existing (Text.join "/" names)) ∧
                tree.find? (Path.way machine.working existing ++ names) = some (.file bytes)) ∧
            ∃ (files : List (List String × Bytes)) (said : List String × Bytes → Option String),
              files.Pairwise (·.1 ≠ ·.1) ∧
              (∀ file, file ∈ files ↔ tree.find? (place ++ file.1) = some (.file file.2)) ∧
              (∀ file ∈ files,
                tree.Verdict machine.working existing file.1 file.2 (said file)) ∧
              changes.Perm (files.filterMap said))) := by
  constructor
  · intro σ _ _ _ _ state generated existing outcome
    have compared : outcome = _ := Viewed.run_compareDirectories generated existing state
    rw [compared]
    exact ⟨rfl, View.compares_compare _ _ _⟩
  intro machine sound generated existing tree place outcome
  have compared : outcome = _ := Viewed.run_compareDirectories generated existing machine
  refine ⟨congrArg Prod.snd compared, ?_, ?_⟩
  · cases standing : tree.node machine.working generated with
    | error refusal =>
        have kind : (Viewed.view machine).kind generated = .error refusal :=
          congrArg (Except.map Node.kind) standing
        have fails : ∃ failure, outcome.1 = .error failure := by
          rw [compared, View.exists_compare_eq_error_iff]
          exact .inl ⟨refusal, kind⟩
        exact ⟨fun _ => .inl ⟨refusal, rfl⟩, fun _ => fails⟩
    | ok node =>
        cases node with
        | file bytes =>
            have kind : (Viewed.view machine).kind generated = .ok .file :=
              FileTree.look_view standing
            have succeeds : outcome.1 = _ := (congrArg Prod.fst compared).trans
              (View.compare_of_walk kind (walk_of_file standing))
            rw [succeeds]
            simp
        | directory =>
            rw [exists_run_compareDirectories_eq_error_iff sound standing existing]
            simp
  · intro there fits
    have listed : outcome = _ := run_compareDirectories_of_fits sound there fits existing
    have directory := (FileTree.find?_way_of_node there).2
    let said := fun file : List String × Bytes =>
      tree.differenceAt? machine.working existing file.1 file.2
    have verdict : ∀ file ∈ tree.filesIn place,
        tree.Verdict machine.working existing file.1 file.2 (said file) := by
      intro file member
      obtain ⟨below, plain, -⟩ := FileTree.find?_of_mem_filesIn sound.tree member
      exact sound.verdict existing plain below file.2
    let changes := ((tree.filesIn place).filterMap said).mergeSort fun first second =>
      first ≤ second
    have silent : changes = [] ↔ ∀ file ∈ tree.filesIn place, said file = none := by
      rw [← List.perm_nil, (List.mergeSort_perm _ _).congr_left, List.perm_nil,
        List.filterMap_eq_nil_iff]
    refine ⟨changes, by rw [listed], pairwise_le_mergeSort _, ?_, tree.filesIn place, said,
      FileTree.pairwise_filesIn sound.tree,
      fun file => FileTree.mem_filesIn_iff sound.tree directory, verdict, List.mergeSort_perm _ _⟩
    rw [silent]
    constructor
    · intro none names bytes found
      have member : (names, bytes) ∈ tree.filesIn place :=
        (FileTree.mem_filesIn_iff sound.tree directory).mpr found
      exact ((verdict _ member).eq_none_iff sound.tree).mp (none _ member)
    · intro contained file member
      refine ((verdict file member).eq_none_iff sound.tree).mpr (contained file.1 file.2 ?_)
      exact (FileTree.mem_filesIn_iff sound.tree directory).mp member

/-- Output of which one file is as it was, and of the others one was changed, one is missing
together with its directory, one has become a directory, and one is in a directory that has
become a file. -/
def clashMachine : Machine where
  tree := ⟨[(["gen"], .directory), (["gen", "a"], .file [1]), (["gen", "b"], .file [2]),
    (["gen", "c"], .directory), (["gen", "c", "d"], .file [3]), (["gen", "e"], .file [4]),
    (["gen", "f"], .directory), (["gen", "f", "g"], .file [5]), (["out"], .directory),
    (["out", "a"], .file [1]), (["out", "b"], .file []), (["out", "e"], .directory),
    (["out", "f"], .file []), (["out", "more"], .file [])]⟩

theorem compareDirectories_decides_clashMachine :
    clashMachine.Sound ∧ clashMachine.tree.node clashMachine.working "gen" = .ok .directory ∧
      clashMachine.FitsBelow "gen" ∧
      ∃ changes, Machine.run (compareDirectories "gen" "out") clashMachine =
          (.ok changes, clashMachine) ∧
        changes.Pairwise (· ≤ ·) ∧ changes ≠ [] ∧ "c/d (missing)" ∈ changes := by
  have sound : clashMachine.Sound := by decide +kernel
  have there : clashMachine.tree.node clashMachine.working "gen" = .ok .directory := by
    decide +kernel
  have fits : clashMachine.FitsBelow "gen" := fitsBelow_of_entries (by decide +kernel)
  obtain ⟨unchanged, -, decides⟩ := compareDirectories_decides.2 clashMachine sound "gen" "out"
  obtain ⟨changes, compared, sorted, -, files, said, -, listed, verdicts, whole⟩ :=
    decides there fits
  have member : (["c", "d"], [3]) ∈ files := (listed _).mpr (by decide +kernel)
  have absent : clashMachine.tree.find? (Path.way clashMachine.working "out" ++ ["c", "d"]) =
      none := by
    decide +kernel
  have absentParent : clashMachine.tree.find? ["out", "c"] = none := by decide +kernel
  have free : ¬ clashMachine.tree.Blocked (Path.way clashMachine.working "out" ++ ["c", "d"]) :=
    sound.tree.not_blocked_of_missing absentParent (by decide +kernel) (by decide +kernel)
  have missing : said (["c", "d"], [3]) = some "c/d (missing)" := by
    have verdict := verdicts _ member
    generalize said _ = text at verdict ⊢
    cases verdict with
    | same _ found =>
        rw [absent] at found
        cases found
    | changed _ _ found =>
        rw [absent] at found
        cases found
    | missing => decide
    | unreadable _ why =>
        rcases why with directory | blocked | limited
        · rw [absent] at directory
          cases directory
        · exact absurd blocked free
        · exact absurd (by decide +kernel) limited
  have mentioned : "c/d (missing)" ∈ changes :=
    whole.mem_iff.mpr (List.mem_filterMap.mpr ⟨_, member, missing⟩)
  exact ⟨sound, there, fits, changes, Prod.ext compared unchanged, sorted,
    List.ne_nil_of_mem mentioned, mentioned⟩

/-! ## A walk that meets a limit -/

/-- A machine with the same file in two directories. -/
def farMachine : Machine where
  tree := ⟨[(["gen"], .directory), (["gen", "A.java"], .file []), (["out"], .directory),
    (["out", "A.java"], .file [])]⟩

theorem sound_farMachine : farMachine.Sound := by decide +kernel

theorem not_fitsBelow_farDirectory {ups : Nat} (long : 1362 ≤ ups) :
    ¬ farMachine.FitsBelow (farDirectory ups) := by
  intro fits
  have way : Path.way farMachine.working (farDirectory ups) = ["gen"] := way_farDirectory ups
  have plain : ∀ name ∈ ["A.java"], Path.IsPlain name := by decide +kernel
  have tail : Text.byteLength (Text.join "/" ["gen", "A.java"]) = 10 := by decide +kernel
  have short := (fits ["A.java"] (List.cons_ne_nil _ _) (by rw [way]; decide +kernel)).short
  rw [byteLength_under_far ups plain (List.cons_ne_nil _ _), tail, FileTree.pathLimit] at short
  omega

/-- The directory exists and another holds the same file, and yet the comparison fails. -/
theorem compareDirectories_farMachine :
    farMachine.tree.node farMachine.working (farDirectory 1363) = .ok .directory ∧
      (∀ names bytes, farMachine.tree.find? (["gen"] ++ names) = some (.file bytes) →
        farMachine.tree.find? (["out"] ++ names) = some (.file bytes)) ∧
      ¬ ((∃ failure, (Machine.run (compareDirectories (farDirectory 1363) "out") farMachine).1 =
          .error failure) ↔
        ∃ refusal,
          farMachine.tree.node farMachine.working (farDirectory 1363) = .error refusal) := by
  have there : farMachine.tree.node farMachine.working (farDirectory 1363) = .ok .directory :=
    node_farDirectory 1363 sound_farMachine.tree (by decide) (by decide)
  have fails := (exists_run_compareDirectories_eq_error_iff sound_farMachine there "out").mpr
    (not_fitsBelow_farDirectory (by decide))
  refine ⟨there, ?_, ?_⟩
  · intro names bytes found
    have member := FileTree.mem_of_find? (by simp) found
    simp only [farMachine, List.singleton_append, List.mem_cons, List.not_mem_nil, or_false,
      Prod.mk.injEq, List.cons.injEq, true_and, Node.file.injEq] at member
    rcases member with ⟨-, directory⟩ | ⟨rfl, rfl⟩ | ⟨⟨other, -⟩, -⟩ | ⟨⟨other, -⟩, -⟩
    · cases directory
    · decide +kernel
    · exact absurd other (by decide)
    · exact absurd other (by decide)
  · intro same
    obtain ⟨refusal, missing⟩ := same.mp fails
    rw [there] at missing
    cases missing

end DomainGen
