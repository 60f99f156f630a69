import DomainGen.Config.Store
import Mathlib.Logic.Function.Basic

/-!
# Four places for files

A configuration file and its three backups are four files, each there or not.  Writing the
default configuration over the first moves what stands at each place on to the next, absence
included, and forgets the last (`Slots.rotated`).  A backup that nobody writes or deletes is
moved on by each such call, until it was moved three times (`Slots.exists_foldl_after_eq`).
-/

namespace DomainGen.Config

/-! ## Four places -/

/-- What stands at the path of a configuration file and at those of its backups, the newest
first. -/
abbrev Slots := Fin 4 → Option Bytes

/-- The path of a configuration file, or that of a backup. -/
def slotPath (path : String) (slot : Fin 4) : String :=
  if slot = 0 then path else backupPath path slot

/-- What the path of a backup ends in. -/
def mark (slot : Fin 4) : String := if slot = 0 then "" else ".back" ++ toString slot.val

theorem slotPath_eq (path : String) (slot : Fin 4) : slotPath path slot = path ++ mark slot := by
  unfold slotPath mark
  split
  · rw [String.append_empty]
  · rw [backupPath, String.append_assoc]

theorem slashFree_mark (slot : Fin 4) : '/' ∉ (mark slot).toList := by
  revert slot
  decide +kernel

theorem mark_injective : Function.Injective mark := by
  unfold Function.Injective
  decide +kernel

theorem length_mark {slot : Fin 4} (behind : slot ≠ 0) : 2 < (mark slot).length := by
  revert slot
  decide +kernel

/-! ## A rotation -/

/-- The contents of a new configuration file. -/
def defaultBytes : Bytes := defaultFile.toUTF8.toList

/-- Everything moved on by one place, behind a new configuration file. -/
def Slots.rotated (slots : Slots) : Slots
  | 0 => some defaultBytes
  | 1 => slots 0
  | 2 => slots 1
  | 3 => slots 2

/-- What stands at a place is put at the next. -/
def Slots.shifted (slots : Slots) (slot next : Fin 4) : Slots :=
  Function.update (Function.update slots next (slots slot)) slot none

/-- The steps that make up a rotation. -/
theorem Slots.rotated_eq (slots : Slots) :
    Function.update (Function.update
      (shifted (shifted (Function.update slots 3 none) 2 3) 1 2) 1 (slots 0)) 0
        (some defaultBytes) = slots.rotated := by
  funext slot
  unfold shifted
  match slot with
  | 0 => simp [rotated]
  | 1 => simp [rotated]
  | 2 => simp [rotated]
  | 3 => simp [rotated]

/-! ## Events -/

/-- What can happen to a configuration file: the default is written, or somebody writes or
deletes one of the four files. -/
inductive Event where
  | writeDefault (overwrite : Bool)
  | put (slot : Fin 4) (bytes : Bytes)
  | delete (slot : Fin 4)
  deriving Repr, DecidableEq

/-- The file that somebody writes or deletes. -/
def Event.slot? : Event → Option (Fin 4)
  | .writeDefault _ => none
  | .put slot _ => some slot
  | .delete slot => some slot

namespace Slots

/-- The four files after an event. -/
def after (slots : Slots) : Event → Slots
  | .writeDefault overwrite =>
      if slots 0 = none then Function.update slots 0 (some defaultBytes)
      else if overwrite then slots.rotated
      else slots
  | .put slot bytes => Function.update slots slot (some bytes)
  | .delete slot => Function.update slots slot none

/-- By how many places an event moves the files on. -/
def moves (slots : Slots) : Event → Nat
  | .writeDefault true => if slots 0 = none then 0 else 1
  | _ => 0

/-- How often a configuration file is written over in a history. -/
def overwrites (slots : Slots) : List Event → Nat
  | [] => 0
  | event :: later => slots.moves event + (slots.after event).overwrites later

/-- Nobody writes or deletes what stands at a place, wherever it is moved to. -/
def Spared (slots : Slots) (number : Nat) : List Event → Prop
  | [] => True
  | event :: later => event.slot?.map Fin.val ≠ some number ∧
      (slots.after event).Spared (number + slots.moves event) later

theorem rotated_next (slots : Slots) {slot next : Fin 4} (follows : next.val = slot.val + 1) :
    slots.rotated next = slots slot := by
  match next with
  | 0 => simp at follows
  | 1 => rw [rotated, show slot = 0 by omega]
  | 2 => rw [rotated, show slot = 1 by omega]
  | 3 => rw [rotated, show slot = 2 by omega]

variable {slots : Slots} {content : Bytes}

/-- A backup that nobody touches is moved on by one event as far as the others. -/
theorem exists_after_eq {slot : Fin 4} (behind : slot ≠ 0) (standing : slots slot = some content)
    {event : Event} (spared : event.slot? ≠ some slot) (few : slot.val + slots.moves event ≤ 3) :
    ∃ next : Fin 4, next.val = slot.val + slots.moves event ∧
      slots.after event next = some content := by
  cases event with
  | put other bytes =>
      have apart : slot ≠ other := fun same => spared (by rw [same]; rfl)
      exact ⟨slot, rfl, by rw [after, Function.update_of_ne apart, standing]⟩
  | delete other =>
      have apart : slot ≠ other := fun same => spared (by rw [same]; rfl)
      exact ⟨slot, rfl, by rw [after, Function.update_of_ne apart, standing]⟩
  | writeDefault overwrite =>
      by_cases absent : slots 0 = none
      · refine ⟨slot, ?_, by rw [after, if_pos absent, Function.update_of_ne behind, standing]⟩
        cases overwrite with
        | false => rfl
        | true => rw [moves, if_pos absent, Nat.add_zero]
      · cases overwrite with
        | false => exact ⟨slot, rfl, by rw [after, if_neg absent]; exact standing⟩
        | true =>
            rw [moves, if_neg absent] at few ⊢
            refine ⟨⟨slot.val + 1, by omega⟩, rfl, ?_⟩
            rw [after, if_neg absent, if_pos rfl, slots.rotated_next rfl, standing]

/-- The induction is on the history; the place of the backup is that of the first event. -/
theorem exists_foldl_after_eq (history : List Event) {slot : Fin 4} (behind : slot ≠ 0)
    (standing : slots slot = some content) (spared : slots.Spared slot history)
    (few : slot.val + slots.overwrites history ≤ 3) :
    ∃ last : Fin 4, last.val = slot.val + slots.overwrites history ∧
      history.foldl after slots last = some content := by
  induction history generalizing slots slot with
  | nil => exact ⟨slot, rfl, standing⟩
  | cons event later ih =>
      rw [overwrites] at few ⊢
      obtain ⟨untouched, spared⟩ := spared
      obtain ⟨next, moved, standing⟩ := exists_after_eq behind standing
        (fun same => untouched (by rw [same]; rfl)) (by omega)
      rw [← moved] at spared
      obtain ⟨last, isLast, found⟩ := ih (by omega) standing spared (by omega)
      exact ⟨last, by omega, found⟩

end Slots

end DomainGen.Config
