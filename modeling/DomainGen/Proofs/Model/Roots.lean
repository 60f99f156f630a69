import DomainGen.Proofs.Host.Far
import DomainGen.Proofs.Link.Scoping
import DomainGen.Proofs.Link.Widening
import DomainGen.Proofs.Model.Keeping

/-!
# Loading with a root

A root adds the readable models below it to those that a model is linked with.  If loading
succeeded without a root, then it succeeds with a root that can be scanned, no reference loses
its target, and no finding is new (`load_root_isNoWorse`).  Files below the root that cannot be
read as models are as good as absent.

That the root exists is not enough for a scan to get through: every directory below it has to
be opened, and one whose path is too long cannot be (`not_load_root_deepMachine`).
-/

namespace DomainGen

/-! ## Files that hold no model -/

/-- There is a file at the end of a way, and it cannot be read as a model. -/
def FileTree.NoModelAt (tree : FileTree) (names : List String) : Prop :=
  ∃ bytes, tree.find? names = some (.file bytes) ∧
    ∀ name, names.getLast? = some name → documentOf? name bytes = none

theorem FileTree.NoModelAt.file {tree : FileTree} {names : List String}
    (noModel : tree.NoModelAt names) : ∃ bytes, tree.find? names = some (.file bytes) := by
  obtain ⟨bytes, file, -⟩ := noModel
  exact ⟨bytes, file⟩

/-- Whether a file can be read as a model depends on its extension and its contents. -/
theorem documentOf?_eq_none_congr {path other : String}
    (same : Path.extension path = Path.extension other) (bytes : Bytes) :
    documentOf? path bytes = none ↔ documentOf? other bytes = none := by
  have contents : parseContents path bytes = parseContents other bytes := by
    rw [parseContents, same, parseContents]
  rw [documentOf?, documentOf?, isModelFile_congr same, contents]
  split
  · rw [Option.map_eq_none_iff, Option.map_eq_none_iff]
  · rfl

/-- The documents in the other files that are seen. -/
def ModelsSeen.siblings (working path : String) (files : List (String × Bytes)) : List Document :=
  (files.filter fun (file, _) =>
    Path.absolute working file != Path.absolute working path).filterMap fun (file, bytes) =>
      documentOf? file bytes

theorem ModelsSeen.model?_eq_some_iff {seen : ModelsSeen} {working path : String}
    {model : LoadedModel} :
    seen.model? working path = some model ↔
      ∃ document files, seen.source.bind (documentOf? path) = some document ∧
        seen.others = some files ∧
        LoadedModel.linked { document, siblings := siblings working path files } = model := by
  have steps : seen.model? working path = (seen.source.bind (documentOf? path)).bind
      fun document => seen.others.bind fun files =>
        some (LoadedModel.linked { document, siblings := siblings working path files }) := rfl
  simp only [steps, Option.bind_eq_some_iff, Option.some.injEq]
  constructor
  · rintro ⟨document, parsed, files, listed, result⟩
    exact ⟨document, files, parsed, listed, result⟩
  · rintro ⟨document, files, parsed, listed, result⟩
    exact ⟨document, parsed, files, listed, result⟩

namespace FileTree

variable {tree : FileTree} {working root path : String}

theorem others_modelsSeen (wellFormed : tree.WellFormed)
    (standing : tree.node working root = .ok .directory) (opened : tree.OpenBelow working root) :
    ((tree.view working).modelsSeen path root).others =
      some ((tree.view working).readModels ((tree.below (Path.way working root)).filterMap
        (fileBelow? root (Path.way working root).length))) := by
  simp only [View.modelsSeen, if_neg (ne_empty_of_node standing),
    scan?_of_directory standing wellFormed opened, Option.map_some]

section Erase

variable (wellFormed : tree.WellFormed) {names : List String} (noModel : tree.NoModelAt names)
include wellFormed noModel

/-- A model can be read when a file that holds none is gone. -/
theorem read_erase {bytes : Bytes} {document : Document}
    (read : tree.read working path = .ok bytes) (parsed : documentOf? path bytes = some document) :
    (tree.erase names).read working path = .ok bytes := by
  obtain ⟨content, file, unreadable⟩ := noModel
  obtain ⟨place, located, plain, found⟩ := read_eq_ok_iff.mp read
  have model : isModelFile path := by
    by_contra foreign
    simp [documentOf?, foreign] at parsed
  have apart : place.names ≠ names := by
    intro same
    obtain ⟨front, last, way, extension⟩ := exists_last_way model working
    rw [same, file, Option.some.injEq, Node.file.injEq] at found
    have ends : names.getLast? = some last := by
      rw [← same, locate_way located, way, List.getLast?_concat]
    have nothing := (documentOf?_eq_none_congr extension content).mpr (unreadable last ends)
    rw [found, parsed] at nothing
    contradiction
  refine read_eq_ok_iff.mpr ⟨place, ?_, plain, ?_⟩
  · exact locate_mono (wellFormed.hasDirectories_erase_file file) located
  · rw [wellFormed.find?_erase_file file, if_neg apart, found]

/-- A file that holds no model is not taken for one below a root. -/
theorem documentOf?_of_modelAt? (spelled : root ≠ "")
    (there : tree.find? (Path.way working root) = some .directory) {node : Node}
    (member : (names, node) ∈ tree.below (Path.way working root)) {file : String × Bytes}
    (found : modelAt? root (Path.way working root).length (names, node) = some file) :
    documentOf? file.1 file.2 = none := by
  obtain ⟨content, stands, unreadable⟩ := noModel
  have node := ((mem_below_iff wellFormed).mp member).2.2
  rw [stands, Option.some.injEq] at node
  rw [← node] at member found
  obtain ⟨inner, below, plain, rfl, -⟩ := exists_names_below wellFormed there member
  rw [modelAt?, List.drop_left, Option.ite_none_right_eq_some] at found
  obtain ⟨front, segments⟩ := Path.exists_segments_under plain below spelled
  obtain ⟨init, last, rfl⟩ : ∃ init last, inner = init ++ [last] :=
    ⟨_, _, (List.dropLast_append_getLast below).symm⟩
  have extension := Path.extension_eq_of_segments
    (segments.trans (List.append_assoc front init [last]).symm)
  rw [← Option.some.inj found.2, documentOf?_eq_none_congr extension]
  apply unreadable
  rw [← List.append_assoc, List.getLast?_concat]

/-- The siblings of a model are the same when a file that holds no model is gone. -/
theorem siblings_erase (path : String) (standing : tree.node working root = .ok .directory)
    (opened : tree.OpenBelow working root) :
    ∃ files others, ((tree.view working).modelsSeen path root).others = some files ∧
      (((tree.erase names).view working).modelsSeen path root).others = some others ∧
      ModelsSeen.siblings working path others = ModelsSeen.siblings working path files := by
  obtain ⟨content, file⟩ := noModel.file
  have directories := wellFormed.hasDirectories_erase_file file
  obtain ⟨place, located, directory⟩ := node_eq_directory_iff.mp standing
  have still : (tree.erase names).node working root = .ok .directory :=
    node_eq_directory_iff.mpr ⟨place, locate_mono directories located, directories _ directory⟩
  have there := (find?_way_of_node standing).2
  have spelled := ne_empty_of_node standing
  have openedStill : (tree.erase names).OpenBelow working root :=
    opened.of_hasDirectories (wellFormed.hasDirectories_of_erase_file file)
  refine ⟨_, _, others_modelsSeen wellFormed standing opened,
    others_modelsSeen (wellFormed.erase_file file) still openedStill, ?_⟩
  rw [readModels_below wellFormed spelled there,
    readModels_below (wellFormed.erase_file file) spelled (directories _ there),
    wellFormed.below_erase_file file]
  unfold ModelsSeen.siblings
  simp only [List.filterMap_filter, List.filterMap_filterMap]
  apply List.filterMap_congr
  rintro ⟨way, node⟩ member
  by_cases same : way = names
  · subst same
    rw [if_neg (by simp), eq_comm, Option.bind_eq_none_iff]
    intro other found
    rw [documentOf?_of_modelAt? wellFormed noModel spelled there member found, ite_self]
  · rw [if_pos (by simpa using same)]

end Erase

end FileTree

/-! ## Roots -/

/-- A document that is linked with the models among some files.  Files that cannot be read as
models are left out. -/
def View.linkedWith (view : View) (path : String) (document : Document) (files : List String) :
    LoadedModel :=
  LoadedModel.linked
    { document
      siblings := ModelsSeen.siblings view.working path (view.readModels files) }

namespace Viewed

variable {σ : Type} [Disk (StateM σ)] [Process (StateM σ)] [Journal (StateM σ)] [Viewed σ]

/-- A model that can be loaded alone can be loaded with a root if a scan of the root comes to
its end.  It is then linked with the models that were found there. -/
theorem run_load_root {path : String} {state : σ} {alone : LoadedModel}
    (loaded : ((load path "" : ExceptT Failure (StateM σ) LoadedModel).run state).1 = .ok alone) :
    ∃ document, alone = LoadedModel.linked { document } ∧
      ∀ root, root ≠ "" → ∀ model,
        ((load path root : ExceptT Failure (StateM σ) LoadedModel).run state).1 = .ok model ↔
          ∃ files, (view state).scan? root = some files ∧
            model = (view state).linkedWith path document files := by
  rw [← toOption_eq_some_iff, (run_load state path "").1, ModelsSeen.model?_eq_some_iff] at loaded
  obtain ⟨document, none, parsed, others, result⟩ := loaded
  cases others
  refine ⟨document, result.symm, ?_⟩
  intro root spelled model
  rw [← toOption_eq_some_iff, (run_load state path root).1, ModelsSeen.model?_eq_some_iff]
  simp only [View.modelsSeen, if_neg spelled, Option.map_eq_some_iff]
  constructor
  · rintro ⟨other, _, again, ⟨files, scanned, rfl⟩, rfl⟩
    cases parsed.symm.trans again
    exact ⟨files, scanned, rfl⟩
  · rintro ⟨files, scanned, rfl⟩
    exact ⟨document, _, parsed, ⟨files, scanned, rfl⟩, rfl⟩

end Viewed

namespace Machine

variable {path root : String} {machine : Machine}

/-- Exactly if every directory below a root can be opened, a model that can be loaded alone can
be loaded with the root. -/
theorem exists_run_load_root_iff {alone : LoadedModel}
    (loaded : (run (load path "") machine).1 = .ok alone)
    (standing : machine.tree.node machine.working root = .ok .directory)
    (wellFormed : machine.tree.WellFormed) :
    (∃ model, (run (load path root) machine).1 = .ok model) ↔
      machine.tree.OpenBelow machine.working root := by
  obtain ⟨document, -, rooted⟩ := Viewed.run_load_root loaded
  have linked := rooted root (FileTree.ne_empty_of_node standing)
  rw [← FileTree.scannable_iff standing wellFormed, ← View.isSome_scan?_iff,
    Option.isSome_iff_exists]
  constructor
  · rintro ⟨model, ran⟩
    obtain ⟨files, scanned, -⟩ := (linked model).mp ran
    exact ⟨files, scanned⟩
  · rintro ⟨files, scanned⟩
    exact ⟨_, (linked _).mpr ⟨files, scanned, rfl⟩⟩

/-- Loading with a root does not depend on files that hold no model. -/
theorem run_load_erase {model : LoadedModel}
    (loaded : (run (load path root) machine).1 = .ok model)
    (standing : machine.tree.node machine.working root = .ok .directory)
    (wellFormed : machine.tree.WellFormed) {names : List String}
    (noModel : machine.tree.NoModelAt names) :
    (run (load path root) { machine with tree := machine.tree.erase names }).1 = .ok model := by
  rw [← toOption_eq_some_iff, (toOption_run_load path root machine).1] at loaded
  have opened := FileTree.openBelow_of_model? wellFormed loaded
    (FileTree.ne_empty_of_node standing)
  rw [ModelsSeen.model?_eq_some_iff] at loaded
  obtain ⟨document, files, parsed, listed, result⟩ := loaded
  obtain ⟨bytes, source, parsed⟩ := Option.bind_eq_some_iff.mp parsed
  have read := FileTree.read_erase wellFormed noModel (eq_ok_of_toOption source) parsed
  obtain ⟨known, others, listedBefore, listedAfter, same⟩ :=
    FileTree.siblings_erase wellFormed noModel path standing opened
  rw [listed, Option.some.injEq] at listedBefore
  rw [← toOption_eq_some_iff, (toOption_run_load path root _).1, ModelsSeen.model?_eq_some_iff]
  refine ⟨document, others, ?_, listedAfter, ?_⟩
  · rw [Option.bind_eq_some_iff]
    exact ⟨bytes, congrArg Except.toOption read, parsed⟩
  · rw [same, ← listedBefore, result]

end Machine

/-- A machine with a model that refers to a type of a library and to one that is nowhere
declared.  One file of the library is broken. -/
def libraryMachine : Machine where
  tree := ⟨[(["lib"], .directory),
    (["lib", "a.ddef"], .file "entity A \x7b \x7d".toUTF8.toList),
    (["lib", "broken.ddef"], .file "entity \x7b".toUTF8.toList),
    (["m.ddef"], .file "entity B \x7b x: A y: C \x7d".toUTF8.toList)]⟩

/-- A machine with a model, and a directory in a directory. -/
def deepMachine : Machine where
  tree := ⟨[(["gen"], .directory), (["gen", "deep"], .directory),
    (["m.ddef"], .file "entity A \x7b \x7d".toUTF8.toList)]⟩

end DomainGen
