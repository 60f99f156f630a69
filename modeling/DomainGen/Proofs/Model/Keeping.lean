import DomainGen.Proofs.Generate.Writing
import DomainGen.Proofs.Host.Far
import DomainGen.Proofs.Model.Loading
import Mathlib.Data.List.Sort

/-!
# Changes that loading does not see

Loading looks at files with the extension of a model only.  New directories, and output
files of any other extension, leave what it sees as it is, wherever they are put, as long as
the root can still be scanned (`KeepsModels.modelsSeen`).  A new directory can put an end to
that: its path may be too long when it is spelled with the root in front (`hollowMachine`).
-/

namespace DomainGen

/-! ## Model files by their names -/

/-- Whether the last of some names is that of a model file. -/
def isModelName (names : List String) : Bool := names.getLast?.any isModelFile

@[simp] theorem isModelName_append (front : List String) {names : List String} (some : names ≠ []) :
    isModelName (front ++ names) = isModelName names := by
  rw [isModelName, List.getLast?_append_of_ne_nil _ some, isModelName]

theorem isModelName_segments (path : String) :
    isModelName (Text.segments '/' path) = isModelFile path := by
  rcases List.eq_nil_or_concat (Text.segments '/' path) with none | ⟨front, last, cutOut⟩
  · exact absurd none (Text.segments_ne_nil '/' path)
  · rw [List.concat_eq_append] at cutOut
    rw [cutOut, isModelName, List.getLast?_concat, Option.any_some, isModelFile, isModelFile,
      Path.extension_eq_of_segments cutOut]

theorem isModelFile_under {directory : String} {names : List String}
    (plain : ∀ name ∈ names, Path.IsPlain name) (below : names ≠ []) (spelled : directory ≠ "") :
    isModelFile (Path.under directory (Text.join "/" names)) = isModelName names := by
  rcases Path.exists_segments_under plain below spelled with ⟨front, segments⟩
  rw [← isModelName_segments, segments, isModelName_append front below]

theorem isModelFile_congr {path other : String}
    (same : Path.extension path = Path.extension other) : isModelFile path = isModelFile other := by
  rw [isModelFile, same, isModelFile]

/-- A path with an extension leads to a name with the same extension. -/
theorem exists_last_way_of_extension {path : String} (dotted : Path.extension path ∉ ["", "."])
    (working : String) :
    ∃ front last, Path.way working path = front ++ [last] ∧
      Path.extension path = Path.extension last := by
  rcases List.eq_nil_or_concat (Text.segments '/' path) with none | ⟨front, last, cutOut⟩
  · exact absurd none (Text.segments_ne_nil '/' path)
  · rw [List.concat_eq_append] at cutOut
    have extension := Path.extension_eq_of_segments cutOut
    rw [extension] at dotted
    -- A name with an extension is none of those that go nowhere or up.
    have proper : ¬ (last = "" || last = ".") := by
      intro same
      rw [Bool.or_eq_true, decide_eq_true_eq, decide_eq_true_eq] at same
      rcases same with rfl | rfl
      · exact dotted (by decide)
      · exact dotted (by decide)
    have down : last ≠ ".." := by
      rintro rfl
      exact dotted (by decide)
    rw [Path.way, cutOut, Path.walk_append, Path.walk, if_neg proper, if_neg down, Path.walk]
    exact ⟨_, last, rfl, extension⟩

theorem isModelName_way_eq {path : String} (dotted : Path.extension path ∉ ["", "."])
    (working : String) : isModelName (Path.way working path) = isModelFile path := by
  rcases exists_last_way_of_extension dotted working with ⟨front, last, way, extension⟩
  rw [way, isModelName, List.getLast?_concat, Option.any_some, isModelFile_congr extension]

theorem extension_of_isModelFile {path : String} (model : isModelFile path) :
    Path.extension path ∉ ["", "."] := by
  intro listed
  rw [isModelFile] at model
  simp only [List.mem_cons, List.not_mem_nil, or_false] at listed
  rcases listed with same | same
  · rw [same] at model
    exact absurd model (by decide +kernel)
  · rw [same] at model
    exact absurd model (by decide +kernel)

/-- The path of a model file leads to a name with its extension. -/
theorem exists_last_way {path : String} (model : isModelFile path) (working : String) :
    ∃ front last, Path.way working path = front ++ [last] ∧
      Path.extension path = Path.extension last :=
  exists_last_way_of_extension (extension_of_isModelFile model) working

/-- The path of a model file leads to a name of a model file. -/
theorem isModelName_way {path : String} (model : isModelFile path) (working : String) :
    isModelName (Path.way working path) := by
  rw [isModelName_way_eq (extension_of_isModelFile model), model]

/-! ## Keeping models -/

/-- Nothing was removed from a tree, and the model files are those that were there. -/
structure FileTree.KeepsModels (tree other : FileTree) : Prop where
  wellFormed : other.WellFormed
  kinds : ∀ names node, tree.find? names = some node →
    (other.find? names).map Node.kind = some node.kind
  models : ∀ names bytes, isModelName names →
    (other.find? names = some (.file bytes) ↔ tree.find? names = some (.file bytes))

theorem FileTree.Grown.keepsModels {tree other : FileTree} (grown : tree.Grown other) :
    tree.KeepsModels other := by
  refine ⟨grown.wellFormed, ?_, ?_⟩
  · intro names node found
    rw [grown.kept names node found, Option.map_some]
  · intro names bytes _
    constructor
    · intro found
      exact (grown.added names _ found).resolve_right nofun
    · exact grown.kept names _

/-- Output without model files keeps models. -/
theorem Laid.keepsModels {base : List String} {artifacts : List Artifact} {tree other : FileTree}
    (laid : Laid base artifacts tree other)
    (apart : ∀ path content, .file path content ∈ artifacts → ¬ isModelFile path) :
    tree.KeepsModels other := by
  refine ⟨laid.wellFormed, laid.kinds, ?_⟩
  intro names bytes model
  by_cases inside : base <+: names
  · rcases inside with ⟨inner, rfl⟩
    cases written : contentAt? artifacts inner with
    | none => simp [laid.find?_eq_file_iff, written]
    | some content =>
        rcases exists_of_contentAt? written with ⟨path, member, rfl⟩
        rw [isModelName_append base (Text.segments_ne_nil '/' path), isModelName_segments] at model
        exact absurd model (apart path content member)
  · rw [laid.outside names inside]

namespace FileTree.KeepsModels

variable {tree other third : FileTree}

theorem trans (one : tree.KeepsModels other) (two : other.KeepsModels third) :
    tree.KeepsModels third := by
  refine ⟨two.wellFormed, ?_, ?_⟩
  · intro names node found
    have kept := one.kinds names node found
    rw [Option.map_eq_some_iff] at kept
    rcases kept with ⟨middle, found, same⟩
    rw [two.kinds names middle found, same]
  · intro names bytes model
    rw [two.models names bytes model, one.models names bytes model]

variable (kept : tree.KeepsModels other) {working : String}
include kept

theorem directories : tree.HasDirectories other := by
  intro names found
  have same := kept.kinds names _ found
  rw [Option.map_eq_some_iff] at same
  rcases same with ⟨node, found, kind⟩
  cases node with
  | directory => exact found
  | file bytes => contradiction

theorem read {path : String} (model : isModelFile path) {bytes : Bytes}
    (found : tree.read working path = .ok bytes) : other.read working path = .ok bytes := by
  rcases read_eq_ok_iff.mp found with ⟨place, located, plain, file⟩
  have named := isModelName_way model working
  rw [← locate_way located] at named
  exact read_eq_ok_iff.mpr
    ⟨place, locate_mono kept.directories located, plain, (kept.models _ _ named).mpr file⟩

end FileTree.KeepsModels

/-! ## Model files below a root -/

namespace FileTree

/-- The model file that an entry below a root stands for, if it is one that can be read. -/
def modelAt? (root : String) (depth : Nat) : List String × Node → Option (String × Bytes)
  | (names, .file bytes) =>
      let path := Path.under root (Text.join "/" (names.drop depth))
      if isModelFile path ∧ Fits path then some (path, bytes) else none
  | (_, .directory) => none

variable {tree other : FileTree} {working root : String}

theorem readModels_below (wellFormed : tree.WellFormed) (spelled : root ≠ "")
    (there : tree.find? (Path.way working root) = some .directory) :
    (tree.view working).readModels ((tree.below (Path.way working root)).filterMap
        (fileBelow? root (Path.way working root).length)) =
      (tree.below (Path.way working root)).filterMap
        (modelAt? root (Path.way working root).length) := by
  have same : (tree.view working).read = tree.read working := rfl
  rw [View.readModels, List.filter_filterMap, List.filterMap_filterMap, same]
  refine List.filterMap_congr ?_
  rintro ⟨names, node⟩ member
  cases node with
  | directory => rfl
  | file bytes =>
      rcases exists_names_below wellFormed there member with ⟨inner, some, plain, rfl, found⟩
      have read := read_below wellFormed spelled plain some found
      rw [fileBelow?, modelAt?, pathBelow_append, List.drop_left]
      by_cases model : isModelFile (Path.under root (Text.join "/" inner))
      · by_cases fits : Fits (Path.under root (Text.join "/" inner))
        · simp [Option.filter, model, fits, read]
        · simp [Option.filter, model, fits, read]
      · simp [Option.filter, model]

/-- An entry that stands for a model file has the name of one. -/
theorem isModelName_of_modelAt? (wellFormed : tree.WellFormed) (spelled : root ≠ "")
    (there : tree.find? (Path.way working root) = some .directory)
    {names : List String} {node : Node}
    (member : (names, node) ∈ tree.below (Path.way working root))
    (found : (modelAt? root (Path.way working root).length (names, node)).isSome) :
    isModelName names ∧ ∃ bytes, node = .file bytes := by
  cases node with
  | directory => contradiction
  | file bytes =>
      rcases exists_names_below wellFormed there member with ⟨inner, some, plain, rfl, -⟩
      rw [modelAt?, List.drop_left, isModelFile_under plain some spelled] at found
      split at found
      · next model => exact ⟨by rw [isModelName_append _ some, model.1], bytes, rfl⟩
      · contradiction

/-- The model files below a directory are kept. -/
theorem KeepsModels.filterMap_below (kept : tree.KeepsModels other)
    (wellFormed : tree.WellFormed) (spelled : root ≠ "")
    (there : tree.find? (Path.way working root) = some .directory) :
    (other.below (Path.way working root)).filterMap (modelAt? root (Path.way working root).length) =
      (tree.below (Path.way working root)).filterMap
        (modelAt? root (Path.way working root).length) := by
  have still := kept.directories _ there
  have onlyModels : ∀ tree : FileTree,
      (tree.below (Path.way working root)).filterMap
          (modelAt? root (Path.way working root).length) =
        ((tree.below (Path.way working root)).filter fun entry =>
          (modelAt? root (Path.way working root).length entry).isSome).filterMap
            (modelAt? root (Path.way working root).length) := by
    intro tree
    rw [List.filterMap_filter]
    refine List.filterMap_congr ?_
    intro entry _
    cases modelAt? root (Path.way working root).length entry with
    | none => rfl
    | some file => rfl
  rw [onlyModels other, onlyModels tree]
  congr 1
  have sorted : ∀ tree : FileTree, tree.WellFormed →
      ((tree.below (Path.way working root)).filter fun entry =>
        (modelAt? root (Path.way working root).length entry).isSome).Pairwise (·.1 < ·.1) :=
    fun tree wellFormed => (wellFormed.sorted.filter _).filter _
  have : Std.Irrefl fun one two : List String × Node => one.1 < two.1 :=
    ⟨fun entry => List.lt_irrefl entry.1⟩
  have : Std.Antisymm fun one two : List String × Node => one.1 < two.1 :=
    ⟨fun _ _ less more => absurd (List.lt_trans less more) (List.lt_irrefl _)⟩
  -- Both lists are sorted by names, so it is enough that they have the same members.
  refine (sorted other kept.wellFormed).eq_of_mem_iff (sorted tree wellFormed) ?_
  rintro ⟨names, node⟩
  simp only [List.mem_filter]
  refine and_congr_left fun found => ?_
  constructor
  · intro member
    rcases isModelName_of_modelAt? kept.wellFormed spelled still member found with
      ⟨named, bytes, rfl⟩
    rw [mem_below_iff kept.wellFormed, kept.models names bytes named] at member
    exact (mem_below_iff wellFormed).mpr member
  · intro member
    rcases isModelName_of_modelAt? wellFormed spelled there member found with
      ⟨named, bytes, rfl⟩
    rw [mem_below_iff wellFormed, ← kept.models names bytes named] at member
    exact (mem_below_iff kept.wellFormed).mpr member

/-- The model files at or below a root are kept, if it could be scanned and still can be. -/
theorem KeepsModels.readModels (kept : tree.KeepsModels other) (wellFormed : tree.WellFormed)
    (spelled : root ≠ "") {files : List String}
    (listed : (tree.view working).scan? root = some files)
    (opened : other.OpenBelow working root) :
    ((other.view working).scan? root).map (other.view working).readModels =
      some ((tree.view working).readModels files) := by
  obtain ⟨⟨node, found⟩, openedBefore⟩ :=
    (isSome_scan?_iff wellFormed).mp (Option.isSome_iff_exists.mpr ⟨files, listed⟩)
  cases node with
  | directory =>
      have there := (find?_way_of_node found).2
      rcases node_eq_directory_iff.mp found with ⟨place, located, directory⟩
      have still : other.node working root = .ok .directory := node_eq_directory_iff.mpr
        ⟨place, locate_mono kept.directories located, kept.directories _ directory⟩
      rw [scan?_of_directory found wellFormed openedBefore] at listed
      cases listed
      rw [scan?_of_directory still kept.wellFormed opened, Option.map_some,
        readModels_below kept.wellFormed spelled (kept.directories _ there),
        readModels_below wellFormed spelled there, kept.filterMap_below wellFormed spelled there]
  | file bytes =>
      rw [scan?_of_file found] at listed
      cases listed
      have read := node_eq_file_iff.mp found
      have still : ∃ content, other.node working root = .ok (.file content) := by
        rcases read_eq_ok_iff.mp read with ⟨place, located, plain, file⟩
        have same := kept.kinds _ _ file
        rw [Option.map_eq_some_iff] at same
        rcases same with ⟨node, there, kind⟩
        cases node with
        | directory => contradiction
        | file content =>
            exact ⟨content, node_eq_file_iff.mpr (read_eq_ok_iff.mpr
              ⟨place, locate_mono kept.directories located, plain, there⟩)⟩
      rcases still with ⟨content, still⟩
      rw [scan?_of_file still, Option.map_some, View.readModels, View.readModels]
      by_cases model : isModelFile root
      · have same : (other.view working).read root = (tree.view working).read root :=
          (kept.read model read).trans read.symm
        simp [model, List.filterMap_cons, same]
      · simp [model]

/-- What loading sees is kept, if there is a model to load and the root can still be scanned. -/
theorem KeepsModels.modelsSeen (kept : tree.KeepsModels other) (wellFormed : tree.WellFormed)
    {path : String} {model : LoadedModel}
    (loaded : ((tree.view working).modelsSeen path root).model? working path = some model)
    (opened : root ≠ "" → other.OpenBelow working root) :
    (other.view working).modelsSeen path root = (tree.view working).modelsSeen path root := by
  rcases ModelsSeen.exists_of_model? loaded with
    ⟨bytes, document, seen, -, source, parsed, others, -⟩
  unfold View.modelsSeen at source others ⊢
  have read : tree.read working path = .ok bytes := eq_ok_of_toOption source
  have isModel : isModelFile path := by
    by_contra foreign
    simp [documentOf?, foreign] at parsed
  congr 1
  · exact congrArg Except.toOption ((kept.read isModel read).trans read.symm)
  · by_cases alone : root = ""
    · rw [if_pos alone, if_pos alone]
    · simp only [if_neg alone] at others ⊢
      cases listed : (tree.view working).scan? root with
      | none => simp [listed] at others
      | some files =>
          rw [kept.readModels wellFormed alone listed (opened alone), Option.map_some]

/-- A model can only be loaded where its root can be scanned. -/
theorem openBelow_of_model? (wellFormed : tree.WellFormed) {path : String} {model : LoadedModel}
    (loaded : ((tree.view working).modelsSeen path root).model? working path = some model)
    (spelled : root ≠ "") : tree.OpenBelow working root := by
  rcases ModelsSeen.exists_of_model? loaded with ⟨-, -, seen, -, -, -, others, -⟩
  simp only [View.modelsSeen, if_neg spelled, Option.map_eq_some_iff] at others
  obtain ⟨files, listed, -⟩ := others
  exact ((isSome_scan?_iff wellFormed).mp (Option.isSome_iff_exists.mpr ⟨files, listed⟩)).2

end FileTree

/-! ## Roots that go out of reach -/

namespace Machine

/-- Where the root cannot be scanned, the model is not loaded. -/
theorem exists_run_load_eq_error {machine : Machine} (wellFormed : machine.tree.WellFormed)
    {source root : String} (spelled : root ≠ "")
    (closed : ¬ machine.tree.OpenBelow machine.working root) :
    ∃ failure, (run (load source root) machine).1 = .error failure := by
  have outcome := (toOption_run_load source root machine).1
  cases loaded : (run (load source root) machine).1 with
  | error failure => exact ⟨failure, rfl⟩
  | ok model =>
      rw [loaded] at outcome
      exact absurd (FileTree.openBelow_of_model? wellFormed outcome.symm spelled) closed

/-- Where models were kept, the same model is loaded again if the root can still be scanned, and
none otherwise. -/
theorem run_load_of_keepsModels {machine after : Machine} (wellFormed : machine.tree.WellFormed)
    (kept : machine.tree.KeepsModels after.tree) (working : after.working = machine.working)
    {source root : String} {model : LoadedModel}
    (loaded : (run (load source root) machine).1 = .ok model) (again : LoadedModel) :
    (run (load source root) after).1 = .ok again ↔
      again = model ∧ (root ≠ "" → after.tree.OpenBelow after.working root) := by
  rw [← toOption_eq_some_iff, (toOption_run_load source root machine).1] at loaded
  rw [← toOption_eq_some_iff, (toOption_run_load source root after).1, working]
  have seen : (root ≠ "" → after.tree.OpenBelow machine.working root) →
      (after.tree.view machine.working).modelsSeen source root =
        (machine.tree.view machine.working).modelsSeen source root :=
    kept.modelsSeen wellFormed loaded
  constructor
  · intro reloaded
    have opened := FileTree.openBelow_of_model? kept.wellFormed reloaded
    rw [seen opened, loaded, Option.some.injEq] at reloaded
    exact ⟨reloaded.symm, opened⟩
  · rintro ⟨rfl, opened⟩
    rw [seen opened, loaded]

end Machine

/-- A machine with a model, an empty directory and one for temporary files. -/
def hollowMachine : Machine where
  tree := ⟨[(["gen"], .directory), (["m.ddef"], .file "entity A \x7b \x7d".toUTF8.toList),
    (["tmp"], .directory)]⟩

/-- The empty directory can be scanned as long as nothing stands in it, however it is
spelled. -/
theorem scan?_hollowMachine {ups : Nat} (short : ups ≤ 1364) :
    (hollowMachine.tree.view hollowMachine.working).scan? (farDirectory ups) = some [] := by
  have wellFormed : hollowMachine.tree.WellFormed := by decide +kernel
  have way : Path.way hollowMachine.working (farDirectory ups) = ["gen"] := way_farDirectory ups
  have opened : hollowMachine.tree.OpenBelow hollowMachine.working (farDirectory ups) := by
    intro names below found
    rw [way] at found
    have listed := FileTree.mem_of_find? (by simp) found
    simp [hollowMachine, below] at listed
  have there : hollowMachine.tree.node hollowMachine.working (farDirectory ups) = .ok .directory :=
    node_farDirectory ups wellFormed short (by decide)
  rw [FileTree.scan?_of_directory there wellFormed opened, way]
  rfl

theorem run_load_hollowMachine {ups : Nat} (short : ups ≤ 1364) :
    Machine.run (load "m.ddef" (farDirectory ups)) hollowMachine =
      Machine.run (load "m.ddef" "") hollowMachine := by
  obtain ⟨model, loaded⟩ : ∃ model,
      (Machine.run (load "m.ddef" "") hollowMachine).1 = .ok model :=
    exists_eq_ok_of_isSome (by decide +kernel)
  exact Machine.run_load_of_scan_nil rfl loaded (scan?_hollowMachine short)

end DomainGen
