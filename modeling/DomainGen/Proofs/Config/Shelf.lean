import DomainGen.Proofs.Config.Slots
import DomainGen.Proofs.Host.Files

/-!
# A configuration file and its backups

A configuration file and its three backups are four places for files, in one directory
(`Machine.Shelf`).  Writing a file at one of them, taking it away and giving it the path of
another change what stands there and nothing else (`Machine.Stored`).
-/

namespace DomainGen

open Config (Slots slotPath)

namespace Machine

/-- Where a configuration file or a backup of it stands. -/
def place (machine : Machine) (path : String) (slot : Fin 4) : List String :=
  Path.way machine.working (slotPath path slot)

/-- The files at the four places. -/
def slots (machine : Machine) (path : String) : Slots := fun slot =>
  match machine.tree.find? (machine.place path slot) with
  | some (.file bytes) => some bytes
  | _ => none

/-- The four paths lead to places for files, in a directory that is there. -/
structure Shelf (machine : Machine) (path : String) : Prop where
  sound : machine.Sound
  directory : machine.tree.node machine.working (Path.dir path) = .ok .directory
  located : ∀ slot, machine.tree.locate machine.working (slotPath path slot) =
    .ok ⟨machine.place path slot, false⟩
  free : ∀ slot, machine.tree.find? (machine.place path slot) ≠ some .directory

variable {machine after : Machine} {path : String}

/-! ## What the places are -/

namespace Shelf

variable (shelf : machine.Shelf path)
include shelf

theorem find?_place (slot : Fin 4) :
    machine.tree.find? (machine.place path slot) = (machine.slots path slot).map .file := by
  have free := shelf.free slot
  unfold slots
  cases found : machine.tree.find? (machine.place path slot) with
  | none => rfl
  | some node =>
      cases node with
      | directory => exact absurd found free
      | file bytes => rfl

theorem node_eq (slot : Fin 4) :
    machine.tree.node machine.working (slotPath path slot) =
      match machine.slots path slot with
      | none => .error .missing
      | some bytes => .ok (.file bytes) := by
  rw [FileTree.node_of_locate (shelf.located slot), shelf.find?_place]
  cases machine.slots path slot with
  | none => rfl
  | some bytes => rfl

theorem inside (slot : Fin 4) :
    machine.tree.find? (machine.place path slot).dropLast = some .directory :=
  (shelf.sound.locate_inside (shelf.located slot)).1

theorem plain (slot : Fin 4) : ∀ name ∈ machine.place path slot, Path.IsPlain name :=
  (shelf.sound.locate_inside (shelf.located slot)).2

theorem place_ne_nil (slot : Fin 4) : machine.place path slot ≠ [] := by
  intro root
  have free := shelf.free slot
  rw [root] at free
  exact free rfl

/-- The places are in one directory, under names that differ in their marks. -/
theorem exists_place_eq :
    ∃ front last, Text.segments '/' path = front ++ [last] ∧
      ∀ slot, machine.place path slot =
        Path.walk (Path.origin machine.working path) front ++ [last ++ Config.mark slot] := by
  have top : slotPath path 0 = path := rfl
  obtain ⟨filled, followed⟩ := FileTree.descend_of_locate (shelf.located 0)
  rw [top] at filled followed
  obtain ⟨front, last, cutOut, plain, -⟩ := FileTree.exists_last_of_descend shelf.sound.tree
    (shelf.sound.origin_directory path) (fun _ => Path.slashFree_of_mem_segments) followed
    (shelf.free 0)
  refine ⟨front, last, cutOut, fun slot => ?_⟩
  have named : Path.IsPlain (last ++ Config.mark slot) := by
    by_cases top : slot = 0
    · rwa [top, Config.mark, if_pos rfl, String.append_empty]
    · exact plain.append (Config.slashFree_mark slot) (Config.length_mark top)
  rw [place, Config.slotPath_eq, Path.way, Path.origin, Path.isAbsolute_append filled,
    ← Path.origin, Path.segments_append_suffix cutOut (Config.slashFree_mark slot),
    Path.walk_append, Path.walk_cons_plain named, Path.walk]

theorem place_injective : Function.Injective (machine.place path) := by
  obtain ⟨front, last, -, same⟩ := shelf.exists_place_eq
  intro one other equal
  rw [same, same, List.append_cancel_left_eq, List.singleton_inj] at equal
  exact Config.mark_injective (String.append_right_inj last |>.mp equal)

end Shelf

/-! ## Changing what stands there -/

/-- A machine with other files at the four places, and nothing else changed. -/
structure Stored (machine : Machine) (path : String) (slots : Slots) (after : Machine) :
    Prop where
  same : after = { machine with tree := after.tree }
  wellFormed : after.tree.WellFormed
  here : ∀ slot, after.tree.find? (machine.place path slot) = (slots slot).map .file
  elsewhere : ∀ names, (∀ slot, names ≠ machine.place path slot) →
    after.tree.find? names = machine.tree.find? names

namespace Stored

variable {slots : Slots} (stored : machine.Stored path slots after)
include stored

theorem working : after.working = machine.working := by rw [stored.same]

theorem place_eq : after.place path = machine.place path := by
  funext slot
  rw [place, place, stored.working]

theorem slots_eq : after.slots path = slots := by
  funext slot
  rw [Machine.slots, stored.place_eq, stored.here]
  cases slots slot with
  | none => rfl
  | some bytes => rfl

theorem hasDirectories (shelf : machine.Shelf path) :
    machine.tree.HasDirectories after.tree := by
  intro names directory
  rw [stored.elsewhere names, directory]
  rintro slot rfl
  exact shelf.free slot directory

theorem shelf (shelf : machine.Shelf path) : after.Shelf path := by
  have kept := stored.hasDirectories shelf
  refine ⟨⟨stored.wellFormed, stored.working ▸ shelf.sound.absolute, ?_⟩, ?_, ?_, ?_⟩
  · rw [stored.working]
    exact kept _ shelf.sound.working
  · obtain ⟨place, located, found⟩ := FileTree.node_eq_directory_iff.mp shelf.directory
    rw [stored.working, FileTree.node_eq_directory_iff]
    exact ⟨place, FileTree.locate_mono kept located, kept _ found⟩
  · intro slot
    rw [stored.working, stored.place_eq]
    exact FileTree.locate_mono kept (shelf.located slot)
  · intro slot
    rw [stored.place_eq, stored.here]
    cases slots slot with
    | none => simp
    | some bytes => simp

theorem trans {others : Slots} {last : Machine} (next : after.Stored path others last) :
    machine.Stored path others last := by
  have here := next.here
  have elsewhere := next.elsewhere
  rw [stored.place_eq] at here elsewhere
  refine ⟨?_, next.wellFormed, here, fun names outside => ?_⟩
  · rw [next.same, stored.same]
  · rw [elsewhere names outside, stored.elsewhere names outside]

end Stored

namespace Shelf

variable (shelf : machine.Shelf path)
include shelf

theorem unchanged : machine.Stored path (machine.slots path) machine :=
  ⟨rfl, shelf.sound.tree, shelf.find?_place, fun _ _ => rfl⟩

/-- One file more, or another one. -/
theorem exists_writeFile (slot : Fin 4) (bytes : Bytes) :
    ∃ after, run (Disk.writeFile (slotPath path slot) bytes) machine = (.ok (), after) ∧
      machine.Stored path (Function.update (machine.slots path) slot (some bytes)) after := by
  have proper := shelf.place_ne_nil slot
  have written : machine.tree.write machine.working (slotPath path slot) bytes =
      .ok (machine.tree.put (machine.place path slot) (.file bytes)) :=
    FileTree.write_eq_ok_iff.mpr ⟨_, shelf.located slot, rfl, shelf.free slot, rfl⟩
  refine ⟨{ machine with tree := machine.tree.put (machine.place path slot) (.file bytes) },
    ?_, rfl, ?_, ?_, ?_⟩
  · rw [run_writeFile, written]
  · exact shelf.sound.tree.put proper (shelf.plain slot) (shelf.inside slot)
      (.inr (shelf.free slot))
  · intro other
    rw [FileTree.find?_put _ proper, shelf.find?_place]
    by_cases same : slot = other
    · rw [same, if_pos rfl, Function.update_self]
      rfl
    · rw [if_neg fun equal => same (shelf.place_injective equal),
        Function.update_of_ne (Ne.symm same)]
  · intro names outside
    rw [FileTree.find?_put _ proper, if_neg (Ne.symm (outside slot))]

/-- One file less, if there is one. -/
theorem exists_remove (slot : Fin 4) :
    ∃ after, (Disk.remove (slotPath path slot) : StateM Machine (Except Refusal Unit)) machine =
        (if machine.slots path slot = none then .error .missing else .ok (), after) ∧
      machine.Stored path (Function.update (machine.slots path) slot none) after := by
  have removed := FileTree.remove_eq (shelf.located slot) (shelf.free slot)
  rw [shelf.find?_place] at removed
  cases standing : machine.slots path slot with
  | none =>
      refine ⟨machine, ?_, ?_⟩
      · simp only [Disk.remove, change, removed, standing]
        rfl
      · rw [← standing, Function.update_eq_self]
        exact shelf.unchanged
  | some bytes =>
      have gone := shelf.sound.tree.find?_erase_leaf (shelf.free slot)
      refine ⟨{ machine with tree := machine.tree.erase (machine.place path slot) },
        ?_, rfl, shelf.sound.tree.erase_leaf (shelf.free slot), ?_, ?_⟩
      · simp only [Disk.remove, change, removed, standing]
        rfl
      · intro other
        rw [gone, shelf.find?_place]
        by_cases same : other = slot
        · rw [same, if_pos rfl, Function.update_self]
          rfl
        · rw [if_neg fun equal => same (shelf.place_injective equal),
            Function.update_of_ne same]
      · intro names outside
        rw [gone, if_neg (outside slot)]

/-- A file at another place, instead of what stands there. -/
theorem exists_rename {slot next : Fin 4} (apart : slot ≠ next) {bytes : Bytes}
    (standing : machine.slots path slot = some bytes) :
    ∃ tree, machine.tree.rename machine.working (slotPath path slot) (slotPath path next) =
        .ok tree ∧
      machine.Stored path
        (Function.update (Function.update (machine.slots path) next (some bytes)) slot none)
        { machine with tree } := by
  have file : machine.tree.find? (machine.place path slot) = some (.file bytes) := by
    rw [shelf.find?_place, standing]
    rfl
  obtain ⟨tree, renamed, wellFormed, found⟩ := FileTree.rename_file shelf.sound.tree
    (shelf.located slot) (shelf.located next) file
    (fun same => apart (shelf.place_injective same)) (shelf.free next) (shelf.inside next)
    (shelf.plain next)
  refine ⟨tree, renamed, rfl, wellFormed, ?_, ?_⟩
  · intro other
    simp only [found, shelf.place_injective.eq_iff, shelf.find?_place]
    by_cases first : other = next
    · rw [if_pos first, first, Function.update_of_ne (Ne.symm apart), Function.update_self]
      rfl
    · rw [if_neg first]
      by_cases second : other = slot
      · rw [if_pos second, second, Function.update_self]
        rfl
      · rw [if_neg second, Function.update_of_ne second, Function.update_of_ne first]
  · intro names outside
    simp only [found, if_neg (outside next), if_neg (outside slot)]

end Shelf

end Machine

end DomainGen
