import DomainGen.Proofs.Config.Loading
import DomainGen.Proofs.Config.Shelf
import Mathlib.Data.Fin.VecNotation

/-!
# Backups of a configuration file

Writing the default configuration over a file moves what stands at each place on to the next,
absence included, and forgets the last (`Slots.rotated`).  So it is after any history of such
calls and of changes by others: no call does anything else, and what was written over is lost
only after three more calls, or if somebody takes it away (`backups_shift`).
-/

namespace DomainGen

open Config (Slots slotPath)

namespace Machine

variable {machine after : Machine} {path : String}

/-! ## Asking whether something stands at a path -/

theorem occupied_eq (path : String) (machine : Machine) :
    (Disk.occupied path : StateM Machine Bool) machine = (machine.occupied path, machine) := by
  rw [Disk.occupied, stateM_bind, kind_eq, occupied]
  cases machine.tree.node machine.working path with
  | ok node => rfl
  | error refusal => rfl

theorem isFree_eq (path : String) (machine : Machine) :
    (Disk.isFree path : StateM Machine Bool) machine =
      (decide (machine.tree.node machine.working path = .error .missing), machine) := by
  rw [Disk.isFree, stateM_bind, kind_eq]
  cases machine.tree.node machine.working path with
  | ok node => rfl
  | error refusal => cases refusal <;> rfl

namespace Shelf

variable (shelf : machine.Shelf path)
include shelf

theorem occupied_eq_isSome (slot : Fin 4) :
    machine.occupied (slotPath path slot) = (machine.slots path slot).isSome := by
  rw [occupied, shelf.node_eq]
  cases machine.slots path slot with
  | none => rfl
  | some bytes => rfl

/-! ## The steps of a rotation -/

theorem exists_shiftBackup (number : Nat) (slot next : Fin 4) (isSource : slot.val = number)
    (isTarget : next.val = number + 1) (behind : slot ≠ 0)
    (vacant : machine.slots path next = none) :
    ∃ after, run (Config.shiftBackup path number) machine = (.ok (), after) ∧
      machine.Stored path ((machine.slots path).shifted slot next) after := by
  have source : Config.backupPath path number = slotPath path slot := by
    rw [slotPath, if_neg behind, isSource]
  have target : Config.backupPath path (number + 1) = slotPath path next := by
    have last : next ≠ 0 := by
      rintro rfl
      simp at isTarget
    rw [slotPath, if_neg last, isTarget]
  have apart : slot ≠ next := by
    rintro rfl
    omega
  unfold Config.shiftBackup
  rw [source, target]
  simp only [run_bind, run_lift, occupied_eq, shelf.occupied_eq_isSome]
  cases standing : machine.slots path slot with
  | none =>
      refine ⟨machine, rfl, ?_⟩
      rw [Slots.shifted, standing, ← vacant, Function.update_eq_self, vacant, ← standing,
        Function.update_eq_self]
      exact shelf.unchanged
  | some bytes =>
      obtain ⟨tree, renamed, stored⟩ := shelf.exists_rename apart standing
      rw [← standing] at stored
      refine ⟨_, ?_, stored⟩
      simp only [Option.isSome_some, if_true, run_adapt, run_attempt]
      simp only [Disk.rename, change, renamed]
      rfl

/-- The oldest backup is gone afterwards, and there is nothing to note. -/
theorem exists_dropBackup :
    ∃ after, run (liftM (Config.dropBackup path : StateM Machine Unit)) machine =
        (.ok (), after) ∧
      machine.Stored path (Function.update (machine.slots path) 3 none) after := by
  obtain ⟨after, removed, stored⟩ := shelf.exists_remove 3
  refine ⟨after, ?_, stored⟩
  have oldest : Config.backupPath path 3 = slotPath path 3 := rfl
  rw [run_lift, Config.dropBackup, oldest, stateM_bind, removed]
  by_cases vacant : machine.slots path 3 = none
  · rw [if_pos vacant]
    rfl
  · rw [if_neg vacant]
    rfl

/-- A file becomes its first backup, and each backup the next. -/
theorem exists_rotate {bytes : Bytes} (standing : machine.slots path 0 = some bytes) :
    ∃ after slots, run (Config.rotate path) machine = (.ok (), after) ∧
      machine.Stored path slots after ∧
      Function.update slots 0 (some Config.defaultBytes) = (machine.slots path).rotated := by
  have top : slotPath path 0 = path := rfl
  have newest : slotPath path 1 = Config.backupPath path 1 := rfl
  have taken : machine.tree.node machine.working path = .ok (.file bytes) := by
    rw [← top, shelf.node_eq, standing]
  obtain ⟨dropped, dropping, stored⟩ := shelf.exists_dropBackup
  have shelf₁ := stored.shelf shelf
  obtain ⟨second, shifting, stored₂⟩ := shelf₁.exists_shiftBackup 2 2 3 rfl rfl
    (by decide) (by rw [stored.slots_eq, Function.update_self])
  have shelf₂ := stored₂.shelf shelf₁
  obtain ⟨first, shifting₁, stored₃⟩ := shelf₂.exists_shiftBackup 1 1 2 rfl rfl
    (by decide) (by rw [stored₂.slots_eq, Slots.shifted, Function.update_self])
  have shelf₃ := stored₃.shelf shelf₂
  rw [stored₂.slots_eq, stored.slots_eq] at stored₃
  have kept : first.slots path 0 = some bytes := by
    rw [stored₃.slots_eq, ← standing]
    simp [Slots.shifted]
  have reading : run (Disk.readFile path) first = (.ok bytes, first) := by
    have node := shelf₃.node_eq 0
    rw [top, kept] at node
    rw [run_readFile, FileTree.read, node]
    rfl
  obtain ⟨after, writing, stored₄⟩ := shelf₃.exists_writeFile 1 bytes
  have all := ((stored.trans stored₂).trans stored₃).trans stored₄
  refine ⟨after, _, ?_, all, ?_⟩
  · unfold Config.rotate
    rw [run_bind, run_lift, isFree_eq, taken]
    simp only [reduceCtorEq, decide_false, Bool.false_eq_true, if_false]
    rw [run_bind_ok dropping, run_bind_ok shifting, run_bind_ok shifting₁,
      run_bind_ok (run_adapt_ok reading), ← newest, run_adapt_ok writing]
  · rw [stored₃.slots_eq, ← standing, Slots.rotated_eq]

end Shelf

/-! ## Making room for a configuration file -/

/-- The directory of the four paths is there, or can be created. -/
structure HasPlaces (machine : Machine) (path : String) : Prop where
  sound : machine.Sound
  made : ∃ after, run (Disk.makeDirectories (Path.dir path).toList) machine = (.ok (), after) ∧
    after.Shelf path

theorem Shelf.hasPlaces (shelf : machine.Shelf path) : machine.HasPlaces path :=
  ⟨shelf.sound, machine, run_makeDirectories_of_node shelf.directory, shelf⟩

/-- A machine where these files have come to stand at the four places.  Directories may have
been created, and nothing else has changed. -/
structure Shelved (machine : Machine) (path : String) (slots : Slots) (after : Machine) :
    Prop where
  same : after = { machine with tree := after.tree }
  ready : after.HasPlaces path
  here : after.slots path = slots
  elsewhere : ∀ names, (∀ slot, names ≠ machine.place path slot) →
    after.tree.find? names = machine.tree.find? names ∨
      machine.tree.find? names = none ∧ after.tree.find? names = some .directory

theorem HasPlaces.unchanged (ready : machine.HasPlaces path) :
    machine.Shelved path (machine.slots path) machine :=
  ⟨rfl, ready, rfl, fun _ _ => .inl rfl⟩

theorem Stored.shelved {slots : Slots} (stored : machine.Stored path slots after)
    (shelf : machine.Shelf path) : machine.Shelved path slots after :=
  ⟨stored.same, (stored.shelf shelf).hasPlaces, stored.slots_eq,
    fun names outside => .inl (stored.elsewhere names outside)⟩

theorem Shelved.trans {slots others : Slots} {last : Machine}
    (one : machine.Shelved path slots after) (two : after.Shelved path others last) :
    machine.Shelved path others last := by
  have place : after.place path = machine.place path := by
    funext slot
    rw [Machine.place, Machine.place, one.same]
  refine ⟨?_, two.ready, two.here, fun names outside => ?_⟩
  · rw [two.same, one.same]
  rcases two.elsewhere names (by rwa [place]) with kept | ⟨missing, directory⟩
  · rw [kept]
    exact one.elsewhere names outside
  · rcases one.elsewhere names outside with kept | ⟨-, made⟩
    · exact .inr ⟨kept ▸ missing, directory⟩
    · rw [missing] at made
      cases made

/-- Directories that were added are at none of the four places. -/
theorem Shelf.slots_grown {tree : FileTree} (shelf : Shelf { machine with tree } path)
    (grown : machine.tree.Grown tree) :
    slots { machine with tree } path = machine.slots path := by
  funext slot
  have same := grown.find?_eq (shelf.free slot)
  unfold slots
  rw [same]
  rfl

namespace HasPlaces

variable (ready : machine.HasPlaces path)
include ready

theorem exists_grown :
    ∃ tree, run (Disk.makeDirectories (Path.dir path).toList) machine =
        (.ok (), { machine with tree }) ∧
      machine.tree.Grown tree ∧ Shelf { machine with tree } path := by
  obtain ⟨after, making, shelf⟩ := ready.made
  obtain ⟨tree, left, grown, -⟩ := ready.sound.makeDirectories_grows (Path.dir path).toList
  rw [making] at left
  obtain rfl : after = { machine with tree } := left
  exact ⟨tree, making, grown, shelf⟩

/-- Creating the directory changes nothing at the four places. -/
theorem exists_makeDirectories :
    ∃ after, run (Disk.makeDirectories (Path.dir path).toList) machine = (.ok (), after) ∧
      after.Shelf path ∧ machine.Shelved path (machine.slots path) after := by
  obtain ⟨tree, making, grown, shelf⟩ := ready.exists_grown
  refine ⟨_, making, shelf, rfl, shelf.hasPlaces, shelf.slots_grown grown, fun names _ => ?_⟩
  by_cases directory : tree.find? names = some .directory
  · cases before : machine.tree.find? names with
    | none => exact .inr ⟨rfl, directory⟩
    | some node => exact .inl (grown.kept names node before)
  · exact .inl (grown.find?_eq directory)

/-- Where there is a file, there is its directory. -/
theorem shelf {slot : Fin 4} {bytes : Bytes} (standing : machine.slots path slot = some bytes) :
    machine.Shelf path := by
  obtain ⟨tree, making, grown, shelf⟩ := ready.exists_grown
  obtain ⟨front, last, cutOut, spelled⟩ := shelf.exists_place_eq
  have file : machine.tree.find? (machine.place path slot) = some (.file bytes) := by
    unfold slots at standing
    split at standing
    · next found => rwa [Option.some.inj standing] at found
    · cases standing
  have above : machine.tree.find? (Path.way machine.working (Path.dir path)) =
      some .directory := by
    have place : machine.place path slot =
        Path.walk (Path.origin machine.working path) front ++ [last ++ Config.mark slot] :=
      spelled slot
    have inside := ready.sound.tree.find?_dropLast file
    rwa [place, List.dropLast_concat, ← Path.way_dir cutOut] at inside
  have fits := (FileTree.find?_way_of_node shelf.directory).1
  have there := ready.sound.node_clean fits above
  have unchanged := (run_makeDirectories_of_node there).symm.trans making
  rwa [← (Prod.mk.inj unchanged).2] at shelf

theorem exists_refusal {slot : Fin 4} (vacant : machine.slots path slot = none) :
    ∃ refusal, machine.tree.node machine.working (slotPath path slot) = .error refusal := by
  obtain ⟨tree, -, grown, shelf⟩ := ready.exists_grown
  cases found : machine.tree.node machine.working (slotPath path slot) with
  | error refusal => exact ⟨refusal, rfl⟩
  | ok node =>
      have missing := shelf.node_eq slot
      rw [shelf.slots_grown grown, vacant, grown.node_eq_ok found] at missing
      cases missing

/-- What stands at the four places is what can be read at the four paths. -/
theorem slots_eq_some_iff {slot : Fin 4} {bytes : Bytes} :
    machine.slots path slot = some bytes ↔
      machine.tree.read machine.working (slotPath path slot) = .ok bytes := by
  rw [FileTree.read]
  cases standing : machine.slots path slot with
  | none =>
      obtain ⟨refusal, refused⟩ := ready.exists_refusal standing
      rw [refused]
      exact ⟨nofun, nofun⟩
  | some content =>
      have node := (ready.shelf standing).node_eq slot
      rw [standing] at node
      rw [node]
      exact ⟨fun same => congrArg Except.ok (Option.some.inj same),
        fun same => congrArg some (Except.ok.inj same)⟩

theorem occupied_eq_isSome :
    machine.occupied path = (machine.slots path 0).isSome := by
  cases standing : machine.slots path 0 with
  | none =>
      obtain ⟨refusal, refused⟩ := ready.exists_refusal standing
      have top : slotPath path 0 = path := rfl
      rw [occupied, ← top, refused]
      rfl
  | some bytes =>
      rw [← standing]
      exact (ready.shelf standing).occupied_eq_isSome 0

/-! ## One call -/

/-- Where no configuration file is, one is written and the backups stay. -/
theorem exists_writeDefault_absent (absent : machine.slots path 0 = none) (overwrite : Bool) :
    ∃ after, run (Config.writeDefault path overwrite) machine = (.ok (), after) ∧
      machine.Shelved path
        (Function.update (machine.slots path) 0 (some Config.defaultBytes)) after := by
  have top : slotPath path 0 = path := rfl
  obtain ⟨between, making, shelf, shelved⟩ := ready.exists_makeDirectories
  obtain ⟨after, writing, stored⟩ := shelf.exists_writeFile 0 Config.defaultBytes
  have free : between.tree.node between.working path = .error .missing := by
    have node := shelf.node_eq 0
    rwa [shelved.here, absent] at node
  have rotating : run (Config.rotate path) between = (.ok (), between) := by
    rw [Config.rotate, run_bind, run_lift, isFree_eq, free]
    rfl
  refine ⟨after, ?_, ?_⟩
  · rw [Config.writeDefault, run_bind, run_lift, occupied_eq, ready.occupied_eq_isSome, absent]
    simp only [Option.isSome_none, Bool.false_and, Bool.false_eq_true, if_false]
    rw [run_bind_ok (run_adapt_ok making), run_bind_ok (run_adapt_ok rotating)]
    exact run_adapt_ok writing
  · have further := stored.shelved shelf
    rw [shelved.here] at further
    exact shelved.trans further

/-- A configuration file that may not be overwritten is left alone. -/
theorem run_writeDefault_refused (present : machine.slots path 0 ≠ none) :
    run (Config.writeDefault path false) machine =
      (.error (.hint "pass --force to overwrite it (the old file is kept as .back1)"
        (.message ("config file " ++ path ++ " already exists"))), machine) := by
  rw [Config.writeDefault, run_bind, run_lift, occupied_eq, ready.occupied_eq_isSome,
    Option.isSome_iff_ne_none.mpr present]
  rfl

/-- A configuration file that may be overwritten becomes the first backup. -/
theorem exists_writeDefault_rotated (present : machine.slots path 0 ≠ none) :
    ∃ after, run (Config.writeDefault path true) machine = (.ok (), after) ∧
      machine.Shelved path (machine.slots path).rotated after := by
  obtain ⟨bytes, standing⟩ := Option.ne_none_iff_exists'.mp present
  have shelf := ready.shelf standing
  obtain ⟨between, slots, rotating, stored, rotated⟩ := shelf.exists_rotate standing
  have shelf' := stored.shelf shelf
  obtain ⟨after, writing, stored'⟩ := shelf'.exists_writeFile 0 Config.defaultBytes
  refine ⟨after, ?_, ?_⟩
  · rw [Config.writeDefault, run_bind, run_lift]
    simp only [Bool.not_true, Bool.and_false, Bool.false_eq_true, if_false, occupied_eq]
    rw [run_bind_ok (run_adapt_ok (run_makeDirectories_of_node shelf.directory)),
      run_bind_ok (run_adapt_ok rotating)]
    exact run_adapt_ok writing
  · rw [stored.slots_eq, rotated] at stored'
    exact (stored.trans stored').shelved shelf

end HasPlaces

end Machine

/-! ## Histories -/

namespace Config

/-- Do what an event is.  Whoever writes a file creates its directory first. -/
def Event.perform (path : String) : Event → ExceptT Failure (StateM Machine) Unit
  | .writeDefault overwrite => Config.writeDefault path overwrite
  | .put slot bytes => do
      Disk.makeDirectories (Path.dir path).toList
      Disk.writeFile (slotPath path slot) bytes
  | .delete slot =>
      Disk.attempt "remove" [slotPath path slot] (Disk.remove (slotPath path slot))

/-- A machine after a history.  What fails leaves it as it is then. -/
def replay (path : String) (machine : Machine) (history : List Event) : Machine :=
  history.foldl (fun machine event => (Machine.run (event.perform path) machine).2) machine

end Config

namespace Machine

variable {machine : Machine} {path : String}

/-- What one event does to the four files. -/
theorem HasPlaces.shelved_perform (ready : machine.HasPlaces path) (event : Config.Event) :
    machine.Shelved path ((machine.slots path).after event)
      (run (event.perform path) machine).2 := by
  cases event with
  | writeDefault overwrite =>
      rw [Slots.after, Config.Event.perform]
      by_cases absent : machine.slots path 0 = none
      · obtain ⟨after, ran, shelved⟩ := ready.exists_writeDefault_absent absent overwrite
        rwa [if_pos absent, ran]
      · rw [if_neg absent]
        cases overwrite with
        | false =>
            rw [ready.run_writeDefault_refused absent]
            exact ready.unchanged
        | true =>
            obtain ⟨after, ran, shelved⟩ := ready.exists_writeDefault_rotated absent
            rwa [if_pos rfl, ran]
  | put slot bytes =>
      obtain ⟨between, making, shelf, shelved⟩ := ready.exists_makeDirectories
      obtain ⟨after, writing, stored⟩ := shelf.exists_writeFile slot bytes
      have further := stored.shelved shelf
      rw [shelved.here] at further
      rw [Config.Event.perform, run_bind_ok making, writing]
      exact shelved.trans further
  | delete slot =>
      rw [Slots.after, Config.Event.perform, run_attempt]
      cases standing : machine.slots path slot with
      | none =>
          obtain ⟨refusal, refused⟩ := ready.exists_refusal standing
          rw [← standing, Function.update_eq_self]
          simp only [Disk.remove, change, FileTree.remove, refused, bind, Except.bind]
          exact ready.unchanged
      | some bytes =>
          have shelf := ready.shelf standing
          obtain ⟨after, removed, stored⟩ := shelf.exists_remove slot
          rw [removed]
          exact stored.shelved shelf

/-- A history does to the four files what its events do to them, one after the other. -/
theorem HasPlaces.shelved_replay (ready : machine.HasPlaces path) (history : List Config.Event) :
    machine.Shelved path (history.foldl Slots.after (machine.slots path))
      (Config.replay path machine history) := by
  induction history generalizing machine with
  | nil => exact ready.unchanged
  | cons event later ih =>
      have first := ready.shelved_perform event
      have rest := ih first.ready
      rw [first.here] at rest
      exact first.trans rest

end Machine

namespace Config

/-- After any history, the four files are what its events make of them one after the other, and no
other file was created or changed.  What a call does then depends on the configuration file alone:
it is written where there is none, left alone where it may not be overwritten, and otherwise it
becomes the first backup and every backup the next.  So what was written over can still be read,
at the place that counts the calls since, unless these are more than two or somebody wrote or
deleted it. -/
theorem backups_shift {machine : Machine} {path : String} (ready : machine.HasPlaces path)
    (history : List Event) :
    let now := replay path machine history
    machine.Shelved path (history.foldl Slots.after (machine.slots path)) now ∧
      (now.slots path 0 = none → ∀ overwrite, ∃ after,
        Machine.run (writeDefault path overwrite) now = (.ok (), after) ∧
          now.Shelved path (Function.update (now.slots path) 0 (some defaultBytes)) after) ∧
      (now.slots path 0 ≠ none →
        Machine.run (writeDefault path false) now =
          (.error (.hint "pass --force to overwrite it (the old file is kept as .back1)"
            (.message ("config file " ++ path ++ " already exists"))), now)) ∧
      (now.slots path 0 ≠ none → ∃ after,
        Machine.run (writeDefault path true) now = (.ok (), after) ∧
          now.Shelved path (now.slots path).rotated after) ∧
      ∀ before later content, history = before ++ .writeDefault true :: later →
        let shifted := ((replay path machine before).slots path).rotated
        (replay path machine before).slots path 0 = some content →
        shifted.Spared 1 later → shifted.overwrites later ≤ 2 →
        ∃ slot : Fin 4, slot.val = 1 + shifted.overwrites later ∧
          Machine.run (Disk.readFile (slotPath path slot)) now = (.ok content, now) := by
  intro now
  have shelved := ready.shelved_replay history
  have readyNow := shelved.ready
  refine ⟨shelved, readyNow.exists_writeDefault_absent, readyNow.run_writeDefault_refused,
    readyNow.exists_writeDefault_rotated, ?_⟩
  intro before later content isHistory shifted standing spared few
  have earlier := ready.shelved_replay before
  have present : (before.foldl Slots.after (machine.slots path)) 0 ≠ none := by
    rw [← earlier.here, standing]
    simp
  have split : history.foldl Slots.after (machine.slots path) =
      later.foldl Slots.after shifted := by
    rw [isHistory, List.foldl_append, List.foldl_cons, Slots.after, if_neg present, if_pos rfl,
      ← earlier.here]
  have moved : shifted 1 = some content := standing
  obtain ⟨slot, isAt, found⟩ :=
    Slots.exists_foldl_after_eq later (by decide) moved spared (Nat.add_le_add_left few 1)
  rw [← split, ← shelved.here] at found
  refine ⟨slot, isAt, ?_⟩
  rw [Machine.run_readFile, readyNow.slots_eq_some_iff.mp found]
  rfl

/-- A backup is missing and the file is deleted between the calls: what it was when it was first
written over is the second backup in the end. -/
theorem backups_shift_gap :
    let path := "work/ddgen.toml"
    let machine : Machine :=
      { tree := ⟨[(["work"], .directory), (["work", "ddgen.toml"], .file [97]),
          (["work", "ddgen.toml.back2"], .file [98])]⟩ }
    let history : List Event := [.put 0 [99], .writeDefault true, .writeDefault false, .delete 0,
      .writeDefault true, .writeDefault true]
    machine.HasPlaces path ∧
      ∃ slots : Slots, slots 0 = some defaultBytes ∧ slots 1 = some defaultBytes ∧
        slots 2 = some [99] ∧ slots 3 = none ∧
        machine.Shelved path slots (replay path machine history) ∧
        Machine.run (Disk.readFile "work/ddgen.toml.back2") (replay path machine history) =
          (.ok [99], replay path machine history) := by
  intro path machine history
  have shelf : machine.Shelf path := by
    refine ⟨by decide +kernel, ?_, ?_, ?_⟩
    · decide +kernel
    · decide +kernel
    · decide +kernel
  obtain ⟨shelved, -, -, -, kept⟩ := backups_shift shelf.hasPlaces history
  have start : machine.slots path = ![some [97], none, some [98], none] := by
    funext slot
    revert slot
    decide +kernel
  rw [start] at shelved
  refine ⟨shelf.hasPlaces, _, rfl, rfl, rfl, rfl, shelved, ?_⟩
  have written : (replay path machine [.put 0 [99]]).slots path =
      ![some [99], none, some [98], none] := by
    rw [(backups_shift shelf.hasPlaces [.put 0 [99]]).1.here, start]
    funext slot
    revert slot
    decide +kernel
  have later := kept [.put 0 [99]]
    [.writeDefault false, .delete 0, .writeDefault true, .writeDefault true] [99] rfl
  rw [written] at later
  have spared : Slots.Spared (Slots.rotated ![some [99], none, some [98], none]) 1
      [.writeDefault false, .delete 0, .writeDefault true, .writeDefault true] :=
    ⟨by decide, by decide, by decide, by decide, trivial⟩
  obtain ⟨slot, isAt, available⟩ := later rfl spared (by decide)
  have second : slot = 2 := Fin.ext isAt
  rw [second] at available
  exact available

end Config

end DomainGen
