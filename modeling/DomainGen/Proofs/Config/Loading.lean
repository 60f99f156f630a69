import DomainGen.Proofs.Config.Layers
import DomainGen.Proofs.Config.Nearest
import DomainGen.Proofs.Host.Listing
import DomainGen.Proofs.Host.Running

/-!
# Loading the configuration

What a process that is new reads: the configuration files of the user and of the project, each
path once (`configFiles`), and the variables for their settings.  If these are well-typed,
loading yields the configuration that the layers have, and the process keeps which files were
merged (`load_layers`).
-/

namespace DomainGen

open Config (Layers fileName pathIn IsNearest AllTyped merged named)
open Toml (Table Proper)

namespace Machine

variable (machine : Machine)

/-! ## What there is to read -/

/-- Whether anything stands at a path. -/
def occupied (path : String) : Bool := (machine.tree.node machine.working path).toOption.isSome

/-- Whether a file stands at a path. -/
def hasFile (path : String) : Bool :=
  (machine.tree.node machine.working path).toOption.map Node.kind = some .file

/-- The value of a variable that is set and not empty. -/
def assigned? (name : String) : Option String :=
  ((machine.environment.find? (·.1 == name)).map (·.2)).filter (· ≠ "")

/-- The settings in the file at a path; without a file there are none. -/
def settingsAt (path : String) : Table :=
  (run (Config.readSettings path) machine).1.toOption.getD []

/-- Whatever stands at a path can be read as a configuration file. -/
def Readable (path : String) : Prop :=
  machine.occupied path → (run (Config.readSettings path) machine).1.toOption.isSome

instance (path : String) : Decidable (machine.Readable path) :=
  inferInstanceAs (Decidable (_ → _))

/-- The path of the configuration file of the user; without a home it is empty. -/
def userFile : String :=
  (machine.assigned? "HOME").elim "" fun home => Path.joinAll [home, ".ddgen", fileName]

/-- The path of the configuration file of the project; it is empty if there is none. -/
def projectFile : String :=
  (((Config.upwards machine.working).map (Path.under · fileName)).find? machine.hasFile).getD ""

/-- The paths that are looked at. -/
def candidates : List String :=
  (if machine.userFile = "" then [] else [machine.userFile]) ++
    if machine.projectFile = "" || machine.projectFile = machine.userFile then []
    else [machine.projectFile]

/-- The configuration files, that of the user first. -/
def configFiles : List String :=
  [machine.userFile, machine.projectFile].eraseDups.filter machine.occupied

/-- What the variables and the configuration files say. -/
def layers : Layers where
  assigned := machine.assigned?
  project := machine.settingsAt machine.projectFile
  user := machine.settingsAt machine.userFile

theorem project_layers : machine.layers.project = machine.settingsAt machine.projectFile := by
  rw [layers]

theorem user_layers : machine.layers.user = machine.settingsAt machine.userFile := by
  rw [layers]

/-! ## Finding the files -/

theorem kind_eq (path : String) : (Disk.kind path : StateM Machine _) machine =
    ((machine.tree.node machine.working path).map (·.kind), machine) := rfl

theorem userPath_eq : (Config.userPath : StateM Machine String) machine =
    (machine.userFile, machine) := by
  have asked : (Process.environmentValue "HOME" : StateM Machine (Option String)) machine =
      ((machine.environment.find? (·.1 == "HOME")).map (·.2), machine) := rfl
  unfold Config.userPath userFile assigned?
  rw [stateM_bind, asked]
  cases (machine.environment.find? fun entry => entry.1 == "HOME").map fun entry => entry.2 with
  | none => rfl
  | some home =>
      by_cases empty : home = ""
      · rw [empty]
        rfl
      · rw [Option.filter_some, if_pos (by simpa using empty)]
        simp only
        rfl

theorem firstFile_eq (directories : List String) :
    (Config.firstFile directories : StateM Machine String) machine =
      (((directories.map (Path.under · fileName)).find? machine.hasFile).getD "", machine) := by
  induction directories with
  | nil => rfl
  | cons directory rest ih =>
      rw [List.map_cons, Config.firstFile, stateM_bind, kind_eq]
      cases found : machine.tree.node machine.working (Path.under directory fileName) with
      | error refusal =>
          have passed : ¬ machine.hasFile (Path.under directory fileName) := by
            simp [hasFile, found, Except.toOption]
          rw [List.find?_cons_of_neg passed]
          exact ih
      | ok node =>
          cases node with
          | directory =>
              have passed : ¬ machine.hasFile (Path.under directory fileName) := by
                simp [hasFile, found, Except.toOption, Node.kind]
              rw [List.find?_cons_of_neg passed]
              exact ih
          | file content =>
              have here : machine.hasFile (Path.under directory fileName) := by
                simp [hasFile, found, Except.toOption, Node.kind]
              rw [List.find?_cons_of_pos here]
              rfl

theorem candidates_eq : (Config.candidates : StateM Machine (List String)) machine =
    (machine.candidates, machine) := by
  unfold Config.candidates Config.findProject
  simp only [bind, StateT.bind, userPath_eq, Process.workingDirectory, firstFile_eq]
  rfl

theorem occupied_empty : machine.occupied "" = false := rfl

/-- The candidates that stand somewhere are the configuration files. -/
theorem filter_candidates :
    machine.candidates.filter machine.occupied = machine.configFiles := by
  have filled : ∀ path, (if path = "" then [] else [path]).filter machine.occupied =
      [path].filter machine.occupied := by
    intro path
    by_cases empty : path = ""
    · rw [if_pos empty, empty, List.filter_cons_of_neg (by simp [occupied_empty])]
    · rw [if_neg empty]
  rw [configFiles, candidates, Config.eraseDups_pair, List.filter_append, List.filter_append,
    filled]
  by_cases same : machine.projectFile = machine.userFile
  · simp [same]
  · have last := filled machine.projectFile
    simpa [same] using last

theorem mem_of_mem_configFiles {path : String} (member : path ∈ machine.configFiles) :
    path = machine.userFile ∨ path = machine.projectFile := by
  have listed := List.mem_eraseDups.mp (List.mem_of_mem_filter member)
  simpa using listed

theorem nodup_configFiles : machine.configFiles.Nodup :=
  (Config.nodup_eraseDups _).filter _

section Rooted

variable {machine} (absolute : Path.isAbsolute machine.working)
include absolute

/-- With a home from the root, so are the configuration files. -/
theorem isAbsolute_of_mem_configFiles
    (home : (machine.assigned? "HOME").all Path.isAbsolute) {path : String}
    (member : path ∈ machine.configFiles) : Path.isAbsolute path ∧ Path.clean path = path := by
  have filled : path ≠ "" := by
    rintro rfl
    have stands := (List.mem_filter.mp member).2
    rw [occupied_empty] at stands
    cases stands
  rcases machine.mem_of_mem_configFiles member with same | same
  · rw [same] at filled ⊢
    unfold userFile at filled ⊢
    cases found : machine.assigned? "HOME" with
    | none =>
        rw [found] at filled
        exact absurd rfl filled
    | some directory =>
        rw [found, Option.all_some] at home
        have named : directory ≠ "" := by
          rintro rfl
          exact absurd home (by decide)
        obtain ⟨spelled, start⟩ := Path.joinAll_cons named [".ddgen", fileName]
        exact ⟨start.trans home, spelled⟩
  · rw [same] at filled ⊢
    unfold projectFile at filled ⊢
    cases found : ((Config.upwards machine.working).map (Path.under · fileName)).find?
        machine.hasFile with
    | none =>
        rw [found] at filled
        exact absurd rfl filled
    | some own =>
        obtain ⟨directory, above, rfl⟩ := List.mem_map.mp (List.mem_of_find?_eq_some found)
        have rooted := Config.isAbsolute_of_mem_ancestry absolute above
        have named : directory ≠ "" := by
          rintro rfl
          exact absurd rooted (by decide)
        obtain ⟨spelled, start⟩ := Path.joinAll_cons named [fileName]
        exact ⟨start.trans rooted, spelled⟩

/-- With a home from the root, no two of the configuration files are the same file. -/
theorem nodup_ways (home : (machine.assigned? "HOME").all Path.isAbsolute) :
    (machine.configFiles.map (Path.way machine.working)).Nodup := by
  refine List.Nodup.map_on (fun path member other listed same => ?_) machine.nodup_configFiles
  obtain ⟨rooted, spelled⟩ := isAbsolute_of_mem_configFiles absolute home member
  obtain ⟨otherRooted, otherSpelled⟩ := isAbsolute_of_mem_configFiles absolute home listed
  exact Path.eq_of_way_eq rooted otherRooted same spelled otherSpelled

/-- The file of the project is the nearest at or above the working directory. -/
theorem exists_nearest_projectFile (spelled : Path.clean machine.working = machine.working) :
    ∃ found, machine.projectFile = (Option.map pathIn found).getD "" ∧
      IsNearest (fun above => machine.hasFile (pathIn above)) (Path.parts machine.working)
        found := by
  obtain ⟨ups, names, same, plain, top⟩ := Path.exists_parts machine.working
  rw [top absolute, List.replicate_zero, List.nil_append] at same
  have whole : machine.working = Path.ofParts true names := by
    rw [← spelled, Path.clean, absolute, same]
  have enough : names.length ≤ machine.working.length + 2 := by
    rw [whole]
    exact Nat.le_add_right_of_le (Config.length_le_rooted plain)
  obtain ⟨found, first, nearest⟩ :=
    Config.exists_nearest_ancestry machine.hasFile plain enough
  rw [← whole] at first
  refine ⟨found, ?_, ?_⟩
  · rw [projectFile, Config.upwards, first]
  · rw [same]
    exact nearest

end Rooted

/-! ## Reading the files -/

/-- Reading a configuration file changes nothing, and no table has a key twice. -/
theorem run_readSettings (path : String) :
    ∃ outcome, run (Config.readSettings path) machine = (outcome, machine) ∧
      (machine.occupied path = false → outcome.toOption = none) ∧
      ∀ table, outcome = .ok table → Proper (.table table) := by
  unfold Config.readSettings
  rw [run_bind, run_readFile]
  cases found : machine.tree.read machine.working path with
  | error refusal => exact ⟨_, rfl, fun _ => rfl, fun _ same => by cases same⟩
  | ok bytes =>
      have stands : machine.occupied path := by
        simp [occupied, FileTree.node_eq_file_iff.mpr found, Except.toOption]
      simp only [mapError_ok]
      cases Toml.parse (Text.ofBytes bytes) with
      | error message => exact ⟨_, rfl, fun _ => rfl, fun _ same => by cases same⟩
      | ok table =>
          refine ⟨_, rfl, fun free => ?_, ?_⟩
          · rw [stands] at free
            cases free
          · intro own same
            cases same
            exact Config.proper_loweredEntries table [] .empty

theorem proper_settingsAt (path : String) : Proper (.table (machine.settingsAt path)) := by
  obtain ⟨outcome, ran, -, proper⟩ := machine.run_readSettings path
  rw [settingsAt, ran]
  cases outcome with
  | error failure => exact .empty
  | ok table => exact proper table rfl

theorem settingsAt_of_free {path : String} (free : machine.occupied path = false) :
    machine.settingsAt path = [] := by
  obtain ⟨outcome, ran, missing, -⟩ := machine.run_readSettings path
  rw [settingsAt, ran, missing free, Option.getD_none]

/-- A file that does not exist is passed over; one that cannot be read ends the merge. -/
theorem mergeFiles_cons (table : Table) (loaded : List String) (path : String)
    (rest : List String) :
    (Config.mergeFiles table loaded (path :: rest) : StateM Machine _) machine =
      if machine.occupied path then
        match (run (Config.readSettings path) machine).1 with
        | .error failure =>
            ((.error (.context ("failed to read config file " ++ path) failure), loaded), machine)
        | .ok own =>
            (Config.mergeFiles (Config.merge table (Config.settled own)) (loaded ++ [path]) rest :
              StateM Machine _) machine
      else (Config.mergeFiles table loaded rest : StateM Machine _) machine := by
  rw [Config.mergeFiles, stateM_bind, kind_eq, occupied]
  cases machine.tree.node machine.working path with
  | error refusal => rfl
  | ok node =>
      obtain ⟨outcome, ran, -⟩ := machine.run_readSettings path
      rw [ran]
      have ran : (Config.readSettings path : ExceptT Failure (StateM Machine) Table).run
          machine = (outcome, machine) := ran
      simp only [Except.map, Except.toOption, Option.isSome_some, if_true]
      rw [stateM_bind, ran]
      cases outcome with
      | error failure => rfl
      | ok own => rfl

/-- What stands somewhere is merged in order, and nothing else. -/
theorem mergeFiles_eq {paths : List String} (readable : ∀ path ∈ paths, machine.Readable path)
    (table : Table) (loaded : List String) :
    (Config.mergeFiles table loaded paths : StateM Machine _) machine =
      ((.ok (((paths.filter machine.occupied).map machine.settingsAt).foldl
        (fun table more => Config.merge table (Config.settled more)) table),
        loaded ++ paths.filter machine.occupied), machine) := by
  induction paths generalizing table loaded with
  | nil =>
      rw [List.filter_nil, List.append_nil]
      rfl
  | cons path rest ih =>
      rw [List.forall_mem_cons] at readable
      rw [mergeFiles_cons]
      by_cases stands : machine.occupied path
      · obtain ⟨own, read⟩ := Option.isSome_iff_exists.mp (readable.1 stands)
        have settings : machine.settingsAt path = own := by
          rw [settingsAt, read, Option.getD_some]
        rw [if_pos stands, eq_ok_of_toOption read, List.filter_cons_of_pos stands,
          List.map_cons, List.foldl_cons, settings,
          List.append_cons loaded path (rest.filter machine.occupied)]
        exact ih readable.2 _ _
      · rw [if_neg stands, List.filter_cons_of_neg stands]
        exact ih readable.2 table loaded

theorem machine_mergeFiles (table : Table) (loaded paths : List String) :
    ((Config.mergeFiles table loaded paths : StateM Machine _) machine).2 = machine := by
  induction paths generalizing table loaded with
  | nil => rfl
  | cons path rest ih =>
      rw [mergeFiles_cons]
      split
      · cases (run (Config.readSettings path) machine).1 with
        | error failure => rfl
        | ok own => exact ih _ _
      · exact ih table loaded

/-! ## Variables -/

theorem setVariables_eq (names : List String) :
    (Config.setVariables names : StateM Machine _) machine =
      (named names machine.assigned?, machine) := by
  induction names with
  | nil => rfl
  | cons name rest ih =>
      have asked : (Process.environmentValue name : StateM Machine (Option String)) machine =
          ((machine.environment.find? (·.1 == name)).map (·.2), machine) := rfl
      rw [Config.setVariables, stateM_bind, asked, stateM_bind, ih, Config.named_cons,
        assigned?]
      cases (machine.environment.find? fun entry => entry.1 == name).map fun entry => entry.2 with
      | none => rfl
      | some text =>
          by_cases empty : text = ""
          · rw [empty]
            rfl
          · rw [Option.filter_some, if_pos (by simpa using empty)]
            simp only
            rfl

/-! ## Loading -/

/-- What does not stand anywhere says nothing. -/
theorem findSome?_occupied {α : Type} (say : Table → Option α) (silent : say [] = none)
    (paths : List String) :
    ((paths.filter machine.occupied).map machine.settingsAt).reverse.findSome? say =
      (paths.map machine.settingsAt).reverse.findSome? say := by
  induction paths with
  | nil => rfl
  | cons path rest ih =>
      rw [List.map_cons, List.reverse_cons, List.findSome?_append, ← ih]
      cases stands : machine.occupied path with
      | true =>
          rw [List.filter_cons_of_pos stands, List.map_cons, List.reverse_cons,
            List.findSome?_append]
      | false =>
          rw [List.filter_cons_of_neg (by simp [stands]), machine.settingsAt_of_free stands,
            List.findSome?_singleton, silent, Option.or_none]

/-- Of the configuration files, that of the project has the last word. -/
theorem findSome?_configFiles {α : Type} (say : Table → Option α) (silent : say [] = none) :
    (machine.configFiles.map machine.settingsAt).reverse.findSome? say =
      (say (machine.settingsAt machine.projectFile)).or
        (say (machine.settingsAt machine.userFile)) := by
  have single : ∀ path, ([path].map machine.settingsAt).reverse.findSome? say =
      say (machine.settingsAt path) := fun _ => List.findSome?_singleton
  rw [configFiles, machine.findSome?_occupied say silent, Config.eraseDups_pair, List.map_append,
    List.reverse_append, List.findSome?_append, single]
  by_cases same : machine.projectFile = machine.userFile
  · rw [if_pos same, same, Option.or_self]
    rfl
  · rw [if_neg same, single]

theorem allTyped_configFiles (typed : machine.layers.WellTyped) :
    AllTyped (machine.configFiles.map machine.settingsAt) := by
  intro table listed
  obtain ⟨path, member, rfl⟩ := List.mem_map.mp listed
  refine ⟨machine.proper_settingsAt path, ?_⟩
  rcases machine.mem_of_mem_configFiles member with same | same
  · rw [same, ← machine.user_layers]
    exact typed.user
  · rw [same, ← machine.project_layers]
    exact typed.project

/-- The variables that are asked for, and the merged files, say what the layers say. -/
theorem hold_layers (typed : machine.layers.WellTyped) {files : Table}
    (read : files = merged (machine.configFiles.map machine.settingsAt)) :
    machine.layers.Hold (named (Config.variableNames files) machine.assigned?) files := by
  have allTyped := machine.allTyped_configFiles typed
  have clear : ∀ setting ∈ Config.Setting.all, ∀ name ∈ Config.settingNames files,
      name = setting.key ∨
        Config.Apart (Text.segments '.' name) (Text.segments '.' setting.key) := by
    intro setting known name member
    rw [read] at member
    exact Config.eq_or_apart_of_merged allTyped known member
  refine ⟨fun setting known => ?_, fun setting known => ?_, clear⟩
  · have listed := Config.key_mem_knownNames known (clear setting known)
    have asked : ∀ name,
        name ∈ Config.variableName setting.key ::
          (Config.parents setting.key).map Config.variableName →
        name ∈ Config.variableNames files := by
      intro name member
      rw [Config.variableNames, List.mem_eraseDups, List.mem_flatMap]
      exact ⟨setting.key, listed, member⟩
    rw [Config.parents_key setting known] at asked
    rw [Config.lookup_named, Config.lookup_named, if_pos (asked _ (by simp)),
      if_pos (asked _ (by simp))]
    exact ⟨rfl, rfl⟩
  · rw [read, Config.search_merged allTyped known, project_layers, user_layers]
    exact machine.findSome?_configFiles _ rfl

theorem machine_ensureFiles (cache : Config.Cache) :
    ((Config.ensureFiles cache : StateM Machine _) machine).2 = machine := by
  unfold Config.ensureFiles
  cases cache.files with
  | some table => rfl
  | none =>
      simp only
      rw [stateM_bind, candidates_eq, stateM_bind]
      exact machine.machine_mergeFiles _ _ _

theorem config_ensureFiles (cache : Config.Cache) :
    ((Config.ensureFiles cache : StateM Machine _) machine).1.2.config = cache.config := by
  unfold Config.ensureFiles
  cases cache.files with
  | some table => rfl
  | none => simp only [stateM_bind, stateM_pure]

theorem ensureFiles_again (cache : Config.Cache) :
    ((Config.ensureFiles ((Config.ensureFiles cache : StateM Machine _) machine).1.2 :
        StateM Machine _) machine).1.1 =
      ((Config.ensureFiles cache : StateM Machine _) machine).1.1 := by
  unfold Config.ensureFiles
  cases kept : cache.files with
  | some table => simp only [kept, stateM_pure]
  | none =>
      simp only [stateM_bind, candidates_eq, stateM_pure]
      rcases merged : (Config.mergeFiles [] [] machine.candidates : StateM Machine _) machine with
        ⟨⟨result, loaded⟩, after⟩
      cases result with
      | error failure =>
          simp only [Except.toOption, stateM_bind, candidates_eq, merged, stateM_pure]
      | ok table => rfl

/-- All settings, from merged files and variables. -/
def settingsOf (files : Table) : Table :=
  Config.settings (named (Config.variableNames files) machine.assigned?) files

/-- A process that keeps no configuration decodes the settings, and keeps what it decodes. -/
theorem load_of_free {cache kept : Config.Cache} (free : cache.config = none)
    {result : Except Failure Table}
    (read : ((Config.ensureFiles cache : StateM Machine _) machine).1 = (result, kept)) :
    (Config.load cache : StateM Machine _) machine =
      (match result.bind fun files => Config.decode (machine.settingsOf files) with
        | .error failure => (.error failure, kept)
        | .ok config => (.ok config, { kept with config := some config }), machine) := by
  have read : (Config.ensureFiles cache : StateM Machine _) machine = ((result, kept), machine) :=
    Prod.ext read (machine.machine_ensureFiles cache)
  unfold Config.load Config.loadSettings
  simp only [free, stateM_bind, read]
  cases result with
  | error failure => rfl
  | ok files =>
      simp only [Config.currentSettings, stateM_bind, setVariables_eq, stateM_pure, Except.bind,
        settingsOf]
      cases Config.decode _ with
      | error failure => rfl
      | ok config => rfl

/-- What is kept is not loaded again. -/
theorem load_of_kept {cache : Config.Cache} {config : Config}
    (kept : cache.config = some config) :
    (Config.load cache : StateM Machine _) machine = ((.ok config, cache), machine) := by
  unfold Config.load
  rw [kept]
  rfl

/-- Loading the configuration changes nothing on a machine. -/
theorem machine_load (cache : Config.Cache) :
    ((Config.load cache : StateM Machine _) machine).2 = machine := by
  cases kept : cache.config with
  | some config => rw [machine.load_of_kept kept]
  | none => rw [machine.load_of_free kept rfl]

section Log

variable (log : Option LogSink)

theorem readSettings_log (path : String) :
    (run (Config.readSettings path) { machine with log }).1 =
      (run (Config.readSettings path) machine).1 := by
  unfold Config.readSettings
  rw [run_bind, run_bind, run_readFile, run_readFile]
  cases machine.tree.read machine.working path with
  | error refusal => rfl
  | ok bytes =>
      simp only [mapError_ok]
      cases Toml.parse (Text.ofBytes bytes) with
      | error message => rfl
      | ok table => rfl

theorem mergeFiles_log (table : Table) (loaded paths : List String) :
    ((Config.mergeFiles table loaded paths : StateM Machine _) { machine with log }).1 =
      ((Config.mergeFiles table loaded paths : StateM Machine _) machine).1 := by
  induction paths generalizing table loaded with
  | nil => rfl
  | cons path rest ih =>
      have stands : ({ machine with log } : Machine).occupied path = machine.occupied path := rfl
      rw [mergeFiles_cons, mergeFiles_cons, stands, readSettings_log]
      split
      · cases (run (Config.readSettings path) machine).1 with
        | error failure => rfl
        | ok own => exact ih _ _
      · exact ih table loaded

theorem ensureFiles_log (cache : Config.Cache) :
    ((Config.ensureFiles cache : StateM Machine _) { machine with log }).1 =
      ((Config.ensureFiles cache : StateM Machine _) machine).1 := by
  have candidates : ({ machine with log } : Machine).candidates = machine.candidates := rfl
  unfold Config.ensureFiles
  cases cache.files with
  | some table => rfl
  | none => simp only [stateM_bind, candidates_eq, candidates, mergeFiles_log, stateM_pure]

/-- Loading the configuration does not look at the log. -/
theorem load_log (cache : Config.Cache) :
    ((Config.load cache : StateM Machine _) { machine with log }).1 =
      ((Config.load cache : StateM Machine _) machine).1 := by
  cases kept : cache.config with
  | some config => rw [load_of_kept _ kept, load_of_kept _ kept]
  | none =>
      have settings : ({ machine with log } : Machine).settingsOf = machine.settingsOf := rfl
      rw [machine.load_of_free kept rfl, load_of_free _ kept (machine.ensureFiles_log log cache),
        settings]

end Log

/-- What could not be loaded cannot be loaded when that is tried again. -/
theorem load_again {failure : Failure}
    (failed : ((Config.load {} : StateM Machine _) machine).1.1 = .error failure) :
    ((Config.load ((Config.load {} : StateM Machine _) machine).1.2 : StateM Machine _)
      machine).1.1 = .error failure := by
  have free := machine.config_ensureFiles {}
  have again := machine.ensureFiles_again {}
  rcases read : ((Config.ensureFiles {} : StateM Machine _) machine).1 with ⟨result, kept⟩
  rw [read] at free again
  simp only at free again
  rw [machine.load_of_free rfl read] at failed ⊢
  cases decoded : result.bind fun files => Config.decode (machine.settingsOf files) with
  | ok config =>
      rw [decoded] at failed
      cases failed
  | error other =>
      rw [decoded] at failed
      cases failed
      rw [machine.load_of_free free (Prod.ext again rfl), decoded]

section Load

variable {machine} (readable : ∀ path ∈ [machine.userFile, machine.projectFile],
  machine.Readable path)
include readable

theorem ensureFiles_eq : (Config.ensureFiles {} : StateM Machine _) machine =
    ((.ok (merged (machine.configFiles.map machine.settingsAt)),
      { files := some (merged (machine.configFiles.map machine.settingsAt)),
        loaded := machine.configFiles }), machine) := by
  have listed : ∀ path ∈ machine.candidates, machine.Readable path := by
    intro path member
    refine readable path ?_
    rw [candidates] at member
    simp only [List.mem_append, List.mem_ite_nil_left, List.mem_singleton] at member
    rw [List.mem_cons, List.mem_singleton]
    exact member.imp And.right And.right
  have read := machine.mergeFiles_eq listed [] []
  rw [machine.filter_candidates, List.nil_append, ← merged] at read
  unfold Config.ensureFiles
  simp only
  rw [stateM_bind, candidates_eq, stateM_bind, read]
  simp only [stateM_pure, Except.toOption]

/-- A new process reads the configuration that its layers have. -/
theorem load_layers (typed : machine.layers.WellTyped) :
    (Config.load {} : StateM Machine _) machine =
      ((.ok machine.layers.config,
        { config := some machine.layers.config,
          files := some (merged (machine.configFiles.map machine.settingsAt)),
          loaded := machine.configFiles }), machine) := by
  have decoded := Config.decode_settings typed (machine.hold_layers typed rfl)
  unfold Config.load Config.loadSettings
  simp only
  rw [stateM_bind, stateM_bind, ensureFiles_eq readable]
  simp only [Config.currentSettings]
  rw [stateM_bind, stateM_bind, setVariables_eq]
  simp only [stateM_pure, Except.bind, decoded]

end Load

end Machine

end DomainGen
