import DomainGen.Proofs.Host.Confinement
import DomainGen.Proofs.Model.Keeping

/-!
# Writing at certain places only

Creating directories and writing files leaves every file alone that is not written.  This is
a property of the machine that each operation keeps (`keeps_makeDirectories`,
`keeps_writeFile`), and that a computation keeps which is put together from them
(`keeps_bind`), wherever it ends.  Changes at places that are not those of model files do not
show when a model is loaded (`Rewritten.keepsModels`).
-/

namespace DomainGen

/-! ## Trees -/

/-- Nothing was removed from a tree, and away from some places its files are those that were
there. -/
structure FileTree.Rewritten (places : List (List String)) (tree other : FileTree) : Prop where
  wellFormed : other.WellFormed
  kinds : ∀ names node, tree.find? names = some node →
    (other.find? names).map Node.kind = some node.kind
  elsewhere : ∀ names, names ∉ places → ∀ bytes,
    other.find? names = some (.file bytes) ↔ tree.find? names = some (.file bytes)

namespace FileTree

variable {places : List (List String)} {tree other third : FileTree}

theorem WellFormed.rewritten (wellFormed : tree.WellFormed) : tree.Rewritten places tree :=
  ⟨wellFormed, fun _ _ found => by rw [found, Option.map_some], fun _ _ _ => Iff.rfl⟩

theorem Grown.rewritten (grown : tree.Grown other) : tree.Rewritten places other := by
  refine ⟨grown.wellFormed, ?_, ?_⟩
  · intro names node found
    rw [grown.kept names node found, Option.map_some]
  · intro names _ bytes
    constructor
    · intro found
      exact (grown.added names _ found).resolve_right nofun
    · exact grown.kept names _

/-- A file is put where there is no directory. -/
theorem WellFormed.rewritten_put (wellFormed : tree.WellFormed) {names : List String}
    (proper : names ≠ []) (plain : ∀ name ∈ names, Path.IsPlain name)
    (inside : tree.find? names.dropLast = some .directory)
    (free : tree.find? names ≠ some .directory) (listed : names ∈ places) (bytes : Bytes) :
    tree.Rewritten places (tree.put names (.file bytes)) := by
  refine ⟨wellFormed.put proper plain inside (.inr free), ?_, ?_⟩
  · intro others node found
    rw [find?_put tree proper]
    split
    · next same =>
      subst same
      cases node with
      | directory => exact absurd found free
      | file earlier => rfl
    · rw [found, Option.map_some]
  · intro others apart content
    rw [find?_put tree proper, if_neg]
    rintro rfl
    exact apart listed

namespace Rewritten

theorem trans (one : tree.Rewritten places other) (two : other.Rewritten places third) :
    tree.Rewritten places third := by
  refine ⟨two.wellFormed, ?_, ?_⟩
  · intro names node found
    obtain ⟨middle, found, same⟩ := Option.map_eq_some_iff.mp (one.kinds names node found)
    rw [two.kinds names middle found, same]
  · intro names apart bytes
    rw [two.elsewhere names apart bytes, one.elsewhere names apart bytes]

/-- Models are kept by changes away from their files. -/
theorem keepsModels (rewritten : tree.Rewritten places other)
    (foreign : ∀ names ∈ places, ¬ isModelName names) : tree.KeepsModels other :=
  ⟨rewritten.wellFormed, rewritten.kinds, fun names bytes model =>
    rewritten.elsewhere names (fun listed => foreign names listed model) bytes⟩

end Rewritten

end FileTree

namespace Machine

/-! ## What computations keep -/

section Keeps

variable {α β : Type} {holds : Machine → Prop}

/-- What holds of a machine still holds after a computation, whether it succeeds or fails. -/
def Keeps (holds : Machine → Prop) (action : ExceptT Failure (StateM Machine) α) : Prop :=
  ∀ machine, holds machine → holds (run action machine).2

theorem keeps_pure (value : α) : Keeps holds (pure value) := fun _ held => held

theorem keeps_throw (failure : Failure) : Keeps holds (throw failure : ExceptT Failure _ α) :=
  fun _ held => held

theorem keeps_lift {action : StateM Machine α}
    (kept : ∀ machine, holds machine → holds (action machine).2) : Keeps holds (liftM action) :=
  kept

theorem keeps_bind {action : ExceptT Failure (StateM Machine) α}
    {next : α → ExceptT Failure (StateM Machine) β} (first : Keeps holds action)
    (later : ∀ value, Keeps holds (next value)) : Keeps holds (action >>= next) := by
  intro machine held
  have between := first machine held
  rw [run_bind]
  generalize run action machine = result at between
  obtain ⟨outcome, after⟩ := result
  cases outcome with
  | ok value => exact later value after between
  | error failure => exact between

theorem keeps_adapt {action : ExceptT Failure (StateM Machine) α} (kept : Keeps holds action)
    (change : Failure → Failure) : Keeps holds (action.adapt change) := kept

end Keeps

/-! ## Machines -/

/-- A machine after a run from a start, which wrote files at some places only. -/
structure Rewritten (places : List (List String)) (start after : Machine) : Prop where
  working : after.working = start.working
  tree : start.tree.Rewritten places after.tree

variable {places : List (List String)} {start after : Machine}

theorem Sound.rewritten (sound : start.Sound) : start.Rewritten places start :=
  ⟨rfl, sound.tree.rewritten⟩

namespace Rewritten

variable (rewritten : start.Rewritten places after)
include rewritten

theorem sound (sound : start.Sound) : after.Sound := by
  refine ⟨rewritten.tree.wellFormed, rewritten.working ▸ sound.absolute, ?_⟩
  have kept := rewritten.tree.kinds _ _ sound.working
  obtain ⟨node, found, kind⟩ := Option.map_eq_some_iff.mp kept
  cases node with
  | directory => rwa [rewritten.working]
  | file bytes => cases kind

theorem ofTree {tree : FileTree} (further : after.tree.Rewritten places tree) :
    start.Rewritten places { after with tree } :=
  ⟨rewritten.working, rewritten.tree.trans further⟩

theorem of_leaves {output : String} {last : Machine}
    (left : Leaves after after.tree output last) : start.Rewritten places last :=
  ⟨left.working.trans rewritten.working, left.tree ▸ rewritten.tree⟩

end Rewritten

theorem keeps_note (level : LogLevel) (logger message : String)
    (fields : List (String × LogValue)) :
    Keeps (start.Rewritten places)
      (liftM (note level logger message fields : StateM Machine Unit)) :=
  keeps_lift fun machine rewritten =>
    rewritten.of_leaves (leaves_note level logger message fields machine)

section Operations

variable (sound : start.Sound)
include sound

theorem Sound.keeps_makeDirectories (path : List Char) :
    Keeps (start.Rewritten places) (Disk.makeDirectories path) := by
  intro machine rewritten
  obtain ⟨tree, left, grown, -⟩ := (rewritten.sound sound).makeDirectories_grows path
  rw [left]
  exact rewritten.ofTree grown.rewritten

theorem Sound.keeps_writeFile {path : String} (listed : Path.way start.working path ∈ places)
    (bytes : Bytes) : Keeps (start.Rewritten places) (Disk.writeFile path bytes) := by
  intro machine rewritten
  rw [run_writeFile]
  cases written : machine.tree.write machine.working path bytes with
  | error refusal => exact rewritten
  | ok tree =>
      obtain ⟨place, located, -, free, rfl⟩ := FileTree.write_eq_ok_iff.mp written
      have here := rewritten.sound sound
      obtain ⟨inside, plain⟩ := here.locate_inside located
      have proper : place.names ≠ [] := by
        intro root
        rw [root] at free
        exact free rfl
      rw [← rewritten.working, ← FileTree.locate_way located] at listed
      exact rewritten.ofTree (here.tree.rewritten_put proper plain inside free listed bytes)

end Operations

end Machine

end DomainGen
