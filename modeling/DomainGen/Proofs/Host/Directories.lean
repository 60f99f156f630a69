import DomainGen.Proofs.Host.Running
import DomainGen.Proofs.Host.Tree

/-!
# Creating directories

Creating a directory together with those it stands in adds directories and
nothing else (`makeDirectories_grows`).  Below a directory that is there already
it adds those on the way, unless a file stands there or a limit of the file system
is in the way (`run_makeDirectories_under`).
-/

namespace DomainGen

/-! ## Where a path can lead -/

theorem prefix_dropLast {above names : List String} (isAbove : above <+: names)
    (apart : above ≠ names) : above <+: names.dropLast := by
  rcases List.eq_nil_or_concat names with rfl | ⟨front, last, rfl⟩
  · exact absurd (List.prefix_nil.mp isAbove) apart
  · rw [List.concat_eq_append] at isAbove apart ⊢
    rw [List.dropLast_concat]
    exact (List.prefix_concat_iff.mp isAbove).resolve_left apart

namespace FileTree

variable {tree : FileTree} {working path : String} {place : Place}

theorem nameLimit_of_all_empty {rest : List String} (empty : rest.all (· = "")) :
    ∀ name ∈ rest, Text.byteLength name ≤ nameLimit := by
  intro name member
  have none : name = "" := by simpa using List.all_eq_true.mp empty name member
  rw [none]
  decide

theorem descend_nameLimit {here segments : List String}
    (followed : tree.descend here segments = .ok place) :
    ∀ name ∈ segments, Text.byteLength name ≤ nameLimit := by
  fun_induction descend tree here segments with
  | case1 here => simp
  | case2 here segment rest skipped ih =>
      have short : Text.byteLength segment ≤ nameLimit := by
        rcases Bool.or_eq_true _ _ ▸ skipped with same | same
        · rw [of_decide_eq_true same]
          decide
        · rw [of_decide_eq_true same]
          decide
      exact List.forall_mem_cons.mpr ⟨short, ih followed⟩
  | case3 here rest proper ih => exact List.forall_mem_cons.mpr ⟨by decide, ih followed⟩
  | case4 => contradiction
  | case5 here segment rest proper down fits last =>
      exact List.forall_mem_cons.mpr ⟨Nat.not_lt.mp fits, nameLimit_of_all_empty last⟩
  | case6 => contradiction
  | case7 => contradiction
  | case8 here segment rest proper down fits more found ih =>
      exact List.forall_mem_cons.mpr ⟨Nat.not_lt.mp fits, ih followed⟩

/-- No limit was in the way of a path that could be followed. -/
theorem fits_of_locate (located : tree.locate working path = .ok place) : Fits path := by
  unfold locate at located
  split at located
  · contradiction
  split at located
  · contradiction
  next clear =>
  split at located
  · contradiction
  next short =>
  exact ⟨by simpa using clear, Nat.not_le.mp short, descend_nameLimit located⟩

/-- A path from one directory leads into another, by plain names. -/
theorem descend_inside (wellFormed : tree.WellFormed) {here segments : List String}
    (directory : tree.find? here = some .directory)
    (slashFree : ∀ segment ∈ segments, '/' ∉ segment.toList)
    (followed : tree.descend here segments = .ok place) :
    tree.find? place.names.dropLast = some .directory ∧
      ∀ name ∈ place.names, Path.IsPlain name := by
  fun_induction descend tree here segments with
  | case1 here =>
      cases followed
      exact ⟨wellFormed.find?_dropLast directory, wellFormed.plain_of_find? directory⟩
  | case2 here segment rest skipped ih =>
      exact ih directory (List.forall_mem_cons.mp slashFree).2 followed
  | case3 here rest proper ih =>
      exact ih (wellFormed.find?_dropLast directory) (List.forall_mem_cons.mp slashFree).2 followed
  | case4 => contradiction
  | case5 here segment rest proper down fits last =>
      cases followed
      rw [List.dropLast_concat]
      refine ⟨directory, ?_⟩
      intro name member
      rcases List.mem_append.mp member with member | member
      · exact wellFormed.plain_of_find? directory name member
      · simp only [Bool.or_eq_true, decide_eq_true_eq, not_or] at proper
        rw [List.mem_singleton.mp member]
        exact ⟨proper.1, proper.2, down, slashFree segment (by simp)⟩
  | case6 => contradiction
  | case7 => contradiction
  | case8 here segment rest proper down fits more found ih =>
      exact ih found (List.forall_mem_cons.mp slashFree).2 followed

theorem node_eq_directory_iff :
    tree.node working path = .ok .directory ↔
      ∃ place, tree.locate working path = .ok place ∧
        tree.find? place.names = some .directory := by
  unfold node
  cases tree.locate working path with
  | error refusal => simp [bind, Except.bind]
  | ok place =>
      simp only [bind, Except.bind, Except.ok.injEq, exists_eq_left']
      cases tree.find? place.names with
      | none => simp
      | some node =>
          cases node with
          | directory => simp [pure, Except.pure]
          | file content =>
              simp only [pure, Except.pure, Option.some.injEq]
              split
              · simp
              · simp

theorem write_eq_ok_iff {other : FileTree} {bytes : Bytes} :
    tree.write working path bytes = .ok other ↔
      ∃ place, tree.locate working path = .ok place ∧ place.slash = false ∧
        tree.find? place.names ≠ some .directory ∧ other = tree.put place.names (.file bytes) := by
  unfold write
  cases tree.locate working path with
  | error refusal => simp [bind, Except.bind]
  | ok place =>
      simp only [bind, Except.bind, pure, Except.pure, Except.ok.injEq, exists_eq_left']
      by_cases refused : place.slash || tree.find? place.names = some .directory
      · rw [if_pos refused]
        simp only [Bool.or_eq_true, decide_eq_true_eq] at refused
        constructor
        · intro written
          contradiction
        · rintro ⟨plain, free, -⟩
          rcases refused with slash | directory
          · rw [plain] at slash
            contradiction
          · exact absurd directory free
      · rw [if_neg refused]
        simp only [Bool.or_eq_true, decide_eq_true_eq, not_or, Bool.not_eq_true] at refused
        constructor
        · intro written
          exact ⟨refused.1, refused.2, (Except.ok.inj written).symm⟩
        · rintro ⟨-, -, rfl⟩
          rfl

/-- A path that leads to a directory fits, and the directory stands at the end of its
way. -/
theorem find?_way_of_node (found : tree.node working path = .ok .directory) :
    Fits path ∧ tree.find? (Path.way working path) = some .directory := by
  rcases node_eq_directory_iff.mp found with ⟨place, located, found⟩
  rw [locate_way located] at found
  exact ⟨fits_of_locate located, found⟩

end FileTree

namespace Machine

/-- A machine that programs can run on: its files form a tree, and it works in one of
the directories. -/
structure Sound (machine : Machine) : Prop where
  tree : machine.tree.WellFormed
  absolute : Path.isAbsolute machine.working
  working : machine.tree.find? (Path.parts machine.working) = some .directory

instance (machine : Machine) : Decidable machine.Sound :=
  decidable_of_iff (machine.tree.WellFormed ∧ Path.isAbsolute machine.working ∧
    machine.tree.find? (Path.parts machine.working) = some .directory)
    ⟨fun ⟨tree, absolute, working⟩ => ⟨tree, absolute, working⟩,
      fun sound => ⟨sound.tree, sound.absolute, sound.working⟩⟩

/-- A run that keeps the files a tree and removes no directory leaves a machine that programs
can run on. -/
theorem Sound.of_directories {machine after : Machine} (sound : machine.Sound) {tree : FileTree}
    (wellFormed : tree.WellFormed) (kept : machine.tree.HasDirectories tree) {output : String}
    (left : Leaves machine tree output after) : after.Sound := by
  refine ⟨left.tree ▸ wellFormed, left.working ▸ sound.absolute, ?_⟩
  rw [left.tree, left.working]
  exact kept _ sound.working

theorem Sound.locate_inside {machine : Machine} (sound : machine.Sound) {path : String}
    {place : FileTree.Place} (located : machine.tree.locate machine.working path = .ok place) :
    machine.tree.find? place.names.dropLast = some .directory ∧
      ∀ name ∈ place.names, Path.IsPlain name := by
  have start : machine.tree.find? (Path.origin machine.working path) = some .directory := by
    unfold Path.origin
    split
    · rfl
    · exact sound.working
  unfold FileTree.locate at located
  split at located
  · contradiction
  split at located
  · contradiction
  split at located
  · contradiction
  exact FileTree.descend_inside sound.tree start (fun _ => Path.slashFree_of_mem_segments) located

end Machine

/-! ## What is added -/

namespace FileTree

/-- Nothing but directories were added to a tree. -/
structure Grown (tree other : FileTree) : Prop where
  wellFormed : other.WellFormed
  kept : ∀ names node, tree.find? names = some node → other.find? names = some node
  added : ∀ names node, other.find? names = some node →
    tree.find? names = some node ∨ node = .directory

namespace Grown

variable {tree other third : FileTree}

theorem refl (wellFormed : tree.WellFormed) : Grown tree tree :=
  ⟨wellFormed, fun _ _ found => found, fun _ _ found => .inl found⟩

theorem trans (one : Grown tree other) (two : Grown other third) : Grown tree third := by
  refine ⟨two.wellFormed, fun names node found => two.kept _ _ (one.kept names node found), ?_⟩
  intro names node found
  rcases two.added names node found with found | directory
  · exact one.added names node found
  · exact .inr directory

end Grown

theorem WellFormed.grown_put {tree : FileTree} (wellFormed : tree.WellFormed)
    {names : List String} (free : tree.find? names = none)
    (plain : ∀ name ∈ names, Path.IsPlain name)
    (inside : tree.find? names.dropLast = some .directory) :
    Grown tree (tree.put names .directory) := by
  have proper : names ≠ [] := by
    rintro rfl
    contradiction
  refine ⟨wellFormed.put proper plain inside (.inl rfl), ?_, ?_⟩
  · intro other node found
    rw [find?_put tree proper]
    split
    · next same =>
      rw [same, found] at free
      contradiction
    · exact found
  · intro other node found
    rw [find?_put tree proper] at found
    split at found
    · exact .inr (Option.some.inj found).symm
    · exact .inl found

end FileTree

namespace Machine

theorem Sound.grow {machine : Machine} (sound : machine.Sound) {tree : FileTree}
    (grown : machine.tree.Grown tree) : Sound { machine with tree } :=
  ⟨grown.wellFormed, sound.absolute, grown.kept _ _ sound.working⟩

theorem Sound.makeDirectory_grown {machine : Machine} (sound : machine.Sound) {path : String}
    {tree : FileTree} (made : machine.tree.makeDirectory machine.working path = .ok tree) :
    machine.tree.Grown tree ∧ ∃ place, machine.tree.locate machine.working path = .ok place ∧
      tree = machine.tree.put place.names .directory ∧ machine.tree.find? place.names = none := by
  unfold FileTree.makeDirectory at made
  cases located : machine.tree.locate machine.working path with
  | error refusal =>
      rw [located] at made
      cases made
  | ok place =>
      rw [located] at made
      cases found : machine.tree.find? place.names with
      | some node =>
          simp only [bind, Except.bind, found] at made
          cases made
      | none =>
          simp only [bind, Except.bind, found] at made
          cases made
          have inside := sound.locate_inside located
          exact ⟨sound.tree.grown_put found inside.2 inside.1, place, rfl, rfl, found⟩

/-- A directory that was made is where its path leads. -/
theorem Sound.node_of_makeDirectory {machine : Machine} (sound : machine.Sound) {path : String}
    {tree : FileTree} (made : machine.tree.makeDirectory machine.working path = .ok tree) :
    machine.tree.Grown tree ∧ tree.node machine.working path = .ok .directory := by
  rcases sound.makeDirectory_grown made with ⟨grown, place, located, rfl, free⟩
  refine ⟨grown, ?_⟩
  have proper : place.names ≠ [] := by
    intro empty
    rw [empty] at free
    contradiction
  have directories : machine.tree.HasDirectories (machine.tree.put place.names .directory) :=
    fun names found => grown.kept names .directory found
  rw [FileTree.node_eq_directory_iff]
  refine ⟨place, FileTree.locate_mono directories located, ?_⟩
  rw [FileTree.find?_put _ proper, if_pos rfl]

/-! ## Creating a directory and those it stands in -/

/-- Create the last directory of a path on the machine that is left when those above it
were asked for. -/
def lastDirectory (name : String) :
    Except Failure Unit × Machine → Except Failure Unit × Machine
  | (.error failure, between) => (.error failure, between)
  | (.ok _, between) =>
      match between.tree.makeDirectory between.working name with
      | .ok tree => (.ok (), { between with tree })
      | .error refusal =>
          match between.tree.node between.working name with
          | .ok .directory => (.ok (), between)
          | _ => (.error (.system "mkdir" [name] refusal), between)

theorem lastDirectory_eq (name : String) (between : Machine) :
    (StateT.bind (change fun tree working => tree.makeDirectory working name)
      (fun made => match made with
        | .ok _ => StateT.pure (.ok ())
        | .error refusal =>
            StateT.bind (ask fun tree working => (tree.node working name).map (·.kind))
              fun kind => match kind with
                | .ok EntryKind.directory => StateT.pure (.ok ())
                | _ => StateT.pure (.error (.system "mkdir" [name] refusal))) :
      StateM Machine (Except Failure Unit)) between = lastDirectory name (.ok (), between) := by
  simp only [StateT.bind, change, lastDirectory]
  cases between.tree.makeDirectory between.working name with
  | ok tree => rfl
  | error refusal =>
      change (match (between.tree.node between.working name).map (·.kind) with
        | .ok EntryKind.directory => StateT.pure (.ok ())
        | _ => StateT.pure (.error (.system "mkdir" [name] refusal)) :
        StateM Machine (Except Failure Unit)) between = _
      cases between.tree.node between.working name with
      | error refusal => rfl
      | ok node =>
          cases node with
          | directory => rfl
          | file content => rfl

theorem run_makeDirectories (path : List Char) (machine : Machine) :
    run (Disk.makeDirectories path) machine =
      match machine.tree.node machine.working (String.ofList path) with
      | .ok .directory => (.ok (), machine)
      | .ok (.file _) =>
          (.error (.system "mkdir" [String.ofList path] .notDirectory), machine)
      | .error _ =>
          lastDirectory (String.ofList path)
            ((Disk.spelledParent? path).elim (.ok (), machine) fun parent =>
              run (Disk.makeDirectories parent) machine) := by
  rw [Disk.makeDirectories]
  unfold run
  simp only [ExceptT.run, ExceptT.mk, bind, StateT.bind, pure, Disk.kind, ask, Disk.makeDirectory]
  cases machine.tree.node machine.working (String.ofList path) with
  | ok node =>
      cases node with
      | directory => rfl
      | file content => rfl
  | error refusal =>
      simp only [Except.map]
      cases spelled : Disk.spelledParent? path with
      | none => exact lastDirectory_eq _ machine
      | some parent =>
          simp only [StateT.bind, Option.elim_some]
          generalize Disk.makeDirectories (m := StateM Machine) parent machine = result
          rcases result with ⟨outcome, between⟩
          cases outcome with
          | error failure => rfl
          | ok value => exact lastDirectory_eq _ between

theorem run_makeDirectories_of_node {machine : Machine} {path : String}
    (there : machine.tree.node machine.working path = .ok .directory) :
    run (Disk.makeDirectories path.toList) machine = (.ok (), machine) := by
  rw [run_makeDirectories, String.ofList_toList, there]

theorem Sound.lastDirectory_grows {machine : Machine} (sound : machine.Sound) (name : String)
    (outcome : Except Failure Unit) :
    ∃ tree, (lastDirectory name (outcome, machine)).2 = { machine with tree } ∧
      machine.tree.Grown tree ∧
      ((lastDirectory name (outcome, machine)).1 = .ok () →
        tree.node machine.working name = .ok .directory) := by
  have unchanged := FileTree.Grown.refl sound.tree
  cases outcome with
  | error failure => exact ⟨machine.tree, rfl, unchanged, fun succeeded => by cases succeeded⟩
  | ok value =>
      cases made : machine.tree.makeDirectory machine.working name with
      | ok tree =>
          simp only [lastDirectory, made]
          rcases sound.node_of_makeDirectory made with ⟨grown, ends⟩
          exact ⟨tree, rfl, grown, fun _ => ends⟩
      | error refusal =>
          simp only [lastDirectory, made]
          refine ⟨machine.tree, ?_, unchanged, ?_⟩
          · split
            · rfl
            · rfl
          · split
            · next found => exact fun _ => found
            · intro succeeded
              cases succeeded

/-- Creating directories adds nothing else, also when it fails.  If it does not fail,
the path leads to a directory. -/
theorem Sound.makeDirectories_grows {machine : Machine} (sound : machine.Sound)
    (path : List Char) :
    ∃ tree, (run (Disk.makeDirectories path) machine).2 = { machine with tree } ∧
      machine.tree.Grown tree ∧
      ((run (Disk.makeDirectories path) machine).1 = .ok () →
        tree.node machine.working (String.ofList path) = .ok .directory) := by
  -- The induction follows the recursion to the spelled parent.
  induction bound : path.length using Nat.strongRecOn generalizing path with
  | ind bound ih =>
      have unchanged := FileTree.Grown.refl sound.tree
      rw [run_makeDirectories]
      cases found : machine.tree.node machine.working (String.ofList path) with
      | ok node =>
          cases node with
          | directory => exact ⟨machine.tree, rfl, unchanged, fun _ => found⟩
          | file content =>
              exact ⟨machine.tree, rfl, unchanged, fun succeeded => by cases succeeded⟩
      | error refusal =>
          cases spelled : Disk.spelledParent? path with
          | none => exact sound.lastDirectory_grows (String.ofList path) (.ok ())
          | some parent =>
              have shorter := Disk.length_spelledParent? spelled
              rcases ih parent.length (by omega) parent rfl with ⟨between, left, grown, -⟩
              have result : run (Disk.makeDirectories parent) machine =
                  ((run (Disk.makeDirectories parent) machine).1,
                    { machine with tree := between }) :=
                Prod.ext rfl left
              rw [Option.elim_some, result]
              rcases (sound.grow grown).lastDirectory_grows (String.ofList path)
                (run (Disk.makeDirectories parent) machine).1 with ⟨tree, left, more, ends⟩
              exact ⟨tree, left, grown.trans more, ends⟩

end Machine

/-! ## Below a directory -/

section Spelled

variable {front name : List Char} (free : '/' ∉ name)
include free

theorem dropWhile_name_reverse (before : List Char) :
    (name.reverse ++ before).dropWhile (· ≠ '/') = before.dropWhile (· ≠ '/') := by
  refine List.dropWhile_append_of_pos ?_
  intro c member
  have apart : c ≠ '/' := by
    rintro rfl
    exact free (List.mem_reverse.mp member)
  simpa using apart

variable (filled : name ≠ [])
include filled

theorem dropWhile_slash_reverse (before : List Char) :
    (name.reverse ++ before).dropWhile (· = '/') = name.reverse ++ before := by
  cases spelled : name.reverse with
  | nil => exact absurd (List.reverse_eq_nil_iff.mp spelled) filled
  | cons c text =>
      have apart : c ≠ '/' := by
        rintro rfl
        exact free (List.mem_reverse.mp (by simp [spelled]))
      rw [List.cons_append, List.dropWhile_cons_of_neg (by simpa using apart)]

theorem spelledParent?_name : Disk.spelledParent? name = none := by
  have whole := dropWhile_slash_reverse free filled []
  have rest := dropWhile_name_reverse free []
  rw [List.append_nil] at whole rest
  rw [Disk.spelledParent?, whole, rest]
  rfl

theorem spelledParent?_append :
    Disk.spelledParent? (front ++ '/' :: name) = if front = [] then none else some front := by
  have spelled : (front ++ '/' :: name).reverse = name.reverse ++ '/' :: front.reverse := by simp
  rw [Disk.spelledParent?, spelled, dropWhile_slash_reverse free filled,
    dropWhile_name_reverse free, List.dropWhile_cons_of_neg (by simp)]
  cases back : front.reverse with
  | nil =>
      rw [if_pos (List.reverse_eq_nil_iff.mp back)]
  | cons c text =>
      have some : front ≠ [] := by
        rintro rfl
        contradiction
      rw [if_neg some]
      simp only [← back, List.reverse_reverse]

end Spelled

section Parents

variable {rooted : Bool} {parts : List String} {last : String}

/-- The spelled parent of a path that is spelled by its parts lacks the last part. -/
theorem spelledParent?_ofParts (spelling : Path.IsSpelling rooted (parts ++ [last])) :
    Disk.spelledParent? (Path.ofParts rooted (parts ++ [last])).toList =
      if parts = [] then none else some (Path.ofParts rooted parts).toList := by
  have free := spelling.slashFree last (by simp)
  have filled : last.toList ≠ [] := by
    rw [ne_eq, String.toList_eq_nil_iff]
    exact spelling.ne_empty last (by simp)
  have slash : "/".toList = ['/'] := rfl
  by_cases single : parts = []
  · rw [single, if_pos rfl, List.nil_append]
    cases rooted with
    | true =>
        have spelled : (Path.ofParts true [last]).toList = [] ++ '/' :: last.toList := by
          simp [Path.ofParts, Text.join]
        rw [spelled, spelledParent?_append free filled, if_pos rfl]
    | false =>
        have spelled : (Path.ofParts false [last]).toList = last.toList := by
          simp [Path.ofParts, Text.join]
        rw [spelled, spelledParent?_name free filled]
  · have above : (Path.ofParts rooted parts).toList ≠ [] := by
      rw [ne_eq, String.toList_eq_nil_iff]
      exact (spelling.init single).ofParts_ne_empty
    rw [if_neg single, Path.ofParts_concat single, String.toList_append, String.toList_append,
      slash, List.append_assoc, List.singleton_append, spelledParent?_append free filled,
      if_neg above]

theorem Fits.parent (some : parts ≠ [])
    (fits : FileTree.Fits (Path.ofParts rooted (parts ++ [last]))) :
    FileTree.Fits (Path.ofParts rooted parts) := by
  rw [Path.ofParts_concat some] at fits
  constructor
  · intro member
    exact fits.clear (by simp [member])
  · refine Nat.lt_of_le_of_lt ?_ fits.short
    simp only [Text.byteLength, String.utf8ByteSize_append]
    omega
  · intro name member
    apply fits.names
    rw [Path.segments_append_slash]
    exact List.mem_append_left _ member

end Parents

/-- Whatever is on the way of a path that fits has a path that fits. -/
theorem Fits.above {rooted : Bool} {parts names : List String} (some : parts ≠ [])
    (fits : FileTree.Fits (Path.ofParts rooted (parts ++ names))) :
    FileTree.Fits (Path.ofParts rooted parts) := by
  induction names using List.reverseRecOn with
  | nil => rwa [List.append_nil] at fits
  | append_singleton names last ih =>
      rw [← List.append_assoc] at fits
      exact ih (Fits.parent (by simp [some]) fits)

namespace FileTree

/-- The directories on a way were made, and nothing else. -/
structure Made (tree : FileTree) (way : List String) (other : FileTree) : Prop
    extends Grown tree other where
  find? : ∀ names,
    other.find? names = if names <+: way then some .directory else tree.find? names

theorem Made.refl {tree : FileTree} {way : List String} (wellFormed : tree.WellFormed)
    (there : tree.find? way = some .directory) : Made tree way tree := by
  refine ⟨.refl wellFormed, ?_⟩
  intro names
  split
  · next above =>
    by_cases same : names = way
    · rw [same, there]
    · exact wellFormed.find?_above there above same
  · rfl

/-- One more directory is made. -/
theorem Made.put {tree other : FileTree} {way : List String} {last : String}
    (made : Made tree way other) (plain : ∀ name ∈ way ++ [last], Path.IsPlain name)
    (vacant : other.find? (way ++ [last]) = none) :
    Made tree (way ++ [last]) (other.put (way ++ [last]) .directory) := by
  have inside : other.find? (way ++ [last]).dropLast = some .directory := by
    rw [List.dropLast_concat, made.find?, if_pos (List.prefix_refl way)]
  refine ⟨made.toGrown.trans (made.wellFormed.grown_put vacant plain inside), ?_⟩
  intro names
  rw [find?_put other (by simp), made.find?]
  by_cases same : way ++ [last] = names
  · rw [if_pos same, ← same, if_pos (List.prefix_refl _)]
  · rw [if_neg same]
    by_cases above : names <+: way
    · rw [if_pos above, if_pos (above.trans (List.prefix_append _ _))]
    · rw [if_neg above, if_neg]
      intro more
      rcases List.prefix_concat_iff.mp more with whole | higher
      · exact same whole.symm
      · exact above higher

section Below

variable {tree : FileTree} {working directory : String} {names : List String}
  (plain : ∀ name ∈ names, Path.IsPlain name) (proper : Path.parts directory ++ names ≠ [])
  (fits : Fits (Path.ofParts (Path.isAbsolute directory) (Path.parts directory ++ names)))
include plain proper fits

theorem locate_append
    (directories : ∀ above, above <+: Path.way working directory ++ names →
      above ≠ Path.way working directory ++ names → tree.find? above = some .directory) :
    tree.locate working
        (Path.ofParts (Path.isAbsolute directory) (Path.parts directory ++ names)) =
      .ok ⟨Path.way working directory ++ names, false⟩ := by
  have spelling := Path.isSpelling_append plain proper
  have way := Path.way_append plain proper working
  rw [← way] at directories ⊢
  exact locate_of_directories spelling fits directories

theorem node_append (wellFormed : tree.WellFormed)
    (there : tree.find? (Path.way working directory ++ names) = some .directory) :
    tree.node working
      (Path.ofParts (Path.isAbsolute directory) (Path.parts directory ++ names)) =
        .ok .directory :=
  node_eq_directory_iff.mpr ⟨_,
    locate_append plain proper fits fun _ above apart => wellFormed.find?_above there above apart,
    there⟩

omit fits in
theorem find?_append_of_node {node : Node}
    (found : tree.node working
      (Path.ofParts (Path.isAbsolute directory) (Path.parts directory ++ names)) = .ok node) :
    tree.find? (Path.way working directory ++ names) = some node := by
  unfold FileTree.node at found
  cases located : tree.locate working
      (Path.ofParts (Path.isAbsolute directory) (Path.parts directory ++ names)) with
  | error refusal =>
      rw [located] at found
      cases found
  | ok place =>
      rw [← Path.way_append plain proper, ← locate_way located]
      simp only [located, bind, Except.bind] at found
      cases standing : tree.find? place.names with
      | none =>
          rw [standing] at found
          cases found
      | some other =>
          rw [standing] at found
          cases other with
          | directory =>
              cases found
              rfl
          | file content =>
              simp only at found
              split at found
              · cases found
              · cases found
                rfl

end Below

end FileTree

namespace Machine

section Below

variable {machine : Machine} (sound : machine.Sound) {directory : String} {names : List String}
  (plain : ∀ name ∈ names, Path.IsPlain name) (proper : Path.parts directory ++ names ≠ [])
  (fits : FileTree.Fits (Path.ofParts (Path.isAbsolute directory) (Path.parts directory ++ names)))
include sound plain proper fits

/-- Nothing is done for a directory that is there. -/
theorem run_makeDirectories_there
    (there : machine.tree.find? (Path.way machine.working directory ++ names) = some .directory) :
    run (Disk.makeDirectories (Path.ofParts (Path.isAbsolute directory)
      (Path.parts directory ++ names)).toList) machine = (.ok (), machine) :=
  run_makeDirectories_of_node (FileTree.node_append plain proper fits sound.tree there)

/-- Creating a directory below one that is there makes the directories on its way, if no
file stands there and the path fits. -/
theorem run_makeDirectories_ofParts
    (there : machine.tree.find? (Path.way machine.working directory) = some .directory)
    (free : ∀ above, above <+: Path.way machine.working directory ++ names →
      ∀ bytes, machine.tree.find? above ≠ some (.file bytes)) :
    ∃ tree, run (Disk.makeDirectories (Path.ofParts (Path.isAbsolute directory)
        (Path.parts directory ++ names)).toList) machine = (.ok (), { machine with tree }) ∧
      machine.tree.Made (Path.way machine.working directory ++ names) tree := by
  induction names using List.reverseRecOn with
  | nil =>
      rw [List.append_nil (Path.way _ _)]
      refine ⟨machine.tree, ?_, .refl sound.tree there⟩
      exact run_makeDirectories_there sound plain proper fits (by rwa [List.append_nil])
  | append_singleton names last ih =>
      cases found : machine.tree.find?
          (Path.way machine.working directory ++ (names ++ [last])) with
      | some node =>
          cases node with
          | directory =>
              exact ⟨machine.tree, run_makeDirectories_there sound plain proper fits found,
                .refl sound.tree found⟩
          | file bytes => exact absurd found (free _ (List.prefix_refl _) bytes)
      | none =>
          have spelling := Path.isSpelling_append plain proper
          have fitsAbove := fits
          rw [← List.append_assoc] at spelling fitsAbove
          -- The directories above are made first.
          obtain ⟨between, above, made⟩ : ∃ between,
              (Disk.spelledParent? (Path.ofParts (Path.isAbsolute directory)
                (Path.parts directory ++ names ++ [last])).toList).elim (.ok (), machine)
                (fun parent => run (Disk.makeDirectories parent) machine) =
                  (.ok (), { machine with tree := between }) ∧
              machine.tree.Made (Path.way machine.working directory ++ names) between := by
            rw [spelledParent?_ofParts spelling]
            split
            · next single =>
              rw [(List.append_eq_nil_iff.mp single).2, List.append_nil]
              exact ⟨machine.tree, rfl, .refl sound.tree there⟩
            · next several =>
              refine ih (fun name member => plain name (by simp [member])) several
                (Fits.parent several fitsAbove) ?_
              intro above isAbove
              exact free above (isAbove.trans (by simp [← List.append_assoc]))
          have whole : ∀ name ∈ Path.way machine.working directory ++ names ++ [last],
              Path.IsPlain name := by
            intro name member
            rw [List.append_assoc] at member
            rcases List.mem_append.mp member with member | member
            · exact sound.tree.plain_of_find? there name member
            · exact plain name member
          have located : between.locate machine.working (Path.ofParts (Path.isAbsolute directory)
              (Path.parts directory ++ (names ++ [last]))) =
                .ok ⟨Path.way machine.working directory ++ (names ++ [last]), false⟩ := by
            refine FileTree.locate_append plain proper fits ?_
            intro above isAbove apart
            rw [← List.append_assoc] at isAbove apart
            rcases List.prefix_concat_iff.mp isAbove with same | isAbove
            · exact absurd same apart
            · rw [made.find?, if_pos isAbove]
          have vacant : between.find? (Path.way machine.working directory ++ (names ++ [last])) =
              none := by
            rw [made.find?, if_neg, found]
            intro above
            have := above.length_le
            simp only [List.length_append, List.length_singleton] at this
            omega
          refine ⟨between.put (Path.way machine.working directory ++ names ++ [last]) .directory,
            ?_, ?_⟩
          · cases missing : machine.tree.node machine.working (Path.ofParts
                (Path.isAbsolute directory) (Path.parts directory ++ (names ++ [last]))) with
            | ok node =>
                rw [FileTree.find?_append_of_node plain proper missing] at found
                contradiction
            | error refusal =>
                rw [run_makeDirectories, String.ofList_toList, missing]
                rw [List.append_assoc] at above
                simp only [above, lastDirectory, FileTree.makeDirectory, located, bind,
                  Except.bind, vacant, pure, Except.pure, List.append_assoc]
          · rw [← List.append_assoc] at vacant ⊢
            exact made.put whole vacant

end Below

section Under

variable {machine : Machine} (sound : machine.Sound) {directory : String} {names : List String}
  (plain : ∀ name ∈ names, Path.IsPlain name) (below : names ≠ []) (spelled : directory ≠ "")
  (there : machine.tree.find? (Path.way machine.working directory) = some .directory)
include sound plain below spelled there

theorem run_makeDirectories_under
    (fits : FileTree.Fits (Path.under directory (Text.join "/" names)))
    (free : ∀ above, above <+: Path.way machine.working directory ++ names →
      ∀ bytes, machine.tree.find? above ≠ some (.file bytes)) :
    ∃ tree, run (Disk.makeDirectories (Path.under directory (Text.join "/" names)).toList)
        machine = (.ok (), { machine with tree }) ∧
      machine.tree.Made (Path.way machine.working directory ++ names) tree := by
  rw [Path.under_join plain below spelled] at fits ⊢
  exact run_makeDirectories_ofParts sound plain (by simp [below]) fits there free

/-- Where directories could be created, the path fits and no file was in the way. -/
theorem made_of_run_makeDirectories {after : Machine}
    (ran : run (Disk.makeDirectories (Path.under directory (Text.join "/" names)).toList)
      machine = (.ok (), after)) :
    FileTree.Fits (Path.under directory (Text.join "/" names)) ∧
      ∃ tree, after = { machine with tree } ∧
        machine.tree.Made (Path.way machine.working directory ++ names) tree := by
  rcases sound.makeDirectories_grows (Path.under directory (Text.join "/" names)).toList with
    ⟨tree, left, grown, ends⟩
  rw [ran, String.ofList_toList] at ends
  rcases FileTree.find?_way_of_node (ends rfl) with ⟨fits, found⟩
  rw [Path.way_under plain below spelled] at found
  have free : ∀ above, above <+: Path.way machine.working directory ++ names →
      ∀ bytes, machine.tree.find? above ≠ some (.file bytes) := by
    intro above isAbove bytes file
    have file := grown.kept above _ file
    by_cases same : above = Path.way machine.working directory ++ names
    · rw [same, found] at file
      cases file
    · rw [grown.wellFormed.find?_above found isAbove same] at file
      cases file
  rcases run_makeDirectories_under sound plain below spelled there fits free with
    ⟨tree, again, made⟩
  rw [ran] at again
  exact ⟨fits, tree, (Prod.mk.inj again).2, made⟩

end Under

end Machine

end DomainGen
