import DomainGen.Proofs.Config.Loading

/-!
# Loading that fails

Loading fails in two ways (`loads`).  If a configuration file cannot be read, the merged files
are given up, and the next load begins anew; the files that were read before it stay listed.  If
all of them can be read but what they say cannot be decoded, the merged files are kept: each
later load decodes these again, whatever became of the files themselves (`load_failed`).

Over a row of attempts it is the first machine whose files can all be read that decides what is
kept (`files_retried`).
-/

namespace DomainGen

open Config (Cache merged)
open Toml (Table)

namespace Machine

section Reading

variable (machine : Machine)

/-- The configuration files before the first that cannot be read. -/
def readFiles : List String := machine.configFiles.takeWhile (machine.Readable ·)

/-- The merged configuration files, unless one of them cannot be read. -/
def mergedFiles? : Option Table :=
  if ∀ path ∈ machine.configFiles, machine.Readable path then
    some (merged (machine.configFiles.map machine.settingsAt))
  else none

/-- A failure to read the first configuration file that cannot be read. -/
def Unread (failure : Failure) : Prop :=
  ∃ path cause, machine.configFiles.find? (¬ machine.Readable ·) = some path ∧
    (run (Config.readSettings path) machine).1 = .error cause ∧
    failure = .context ("failed to read config file " ++ path) cause

/-- What a process keeps once its configuration files were looked for. -/
def reading (cache : Cache) : Cache :=
  match cache.files with
  | some _ => cache
  | none => { cache with files := machine.mergedFiles?, loaded := machine.readFiles }

@[simp] theorem config_reading (cache : Cache) :
    (machine.reading cache).config = cache.config := by
  unfold reading
  cases cache.files with
  | some files => simp only
  | none => simp only

@[simp] theorem files_reading (cache : Cache) :
    (machine.reading cache).files = cache.files.or machine.mergedFiles? := by
  unfold reading
  cases kept : cache.files with
  | some files => rw [kept, Option.some_or]
  | none => simp only [Option.none_or]

theorem loaded_reading {cache : Cache} (fresh : cache.files = none) :
    (machine.reading cache).loaded = machine.readFiles := by
  rw [reading, fresh]

theorem readFiles_eq_nil_iff :
    machine.readFiles = [] ↔ ∀ path ∈ machine.configFiles.head?, ¬ machine.Readable path := by
  rw [readFiles]
  cases machine.configFiles with
  | nil => simp
  | cons path rest => simp [List.takeWhile_cons]

theorem reading_eq_iff (cache : Cache) :
    machine.reading cache = cache ↔
      cache.files.isSome ∨ machine.mergedFiles? = none ∧ machine.readFiles = cache.loaded := by
  rcases cache with ⟨config, files, loaded⟩
  cases files with
  | some files => simp [reading]
  | none => simp [reading]

/-! ## Merging -/

theorem readable_of_free {path : String} (free : ¬ machine.occupied path) :
    machine.Readable path :=
  fun stands => absurd stands free

theorem readable_iff {path : String} (stands : machine.occupied path) :
    machine.Readable path ↔ ∃ own, (run (Config.readSettings path) machine).1 = .ok own := by
  constructor
  · intro readable
    obtain ⟨own, read⟩ := Option.isSome_iff_exists.mp (readable stands)
    exact ⟨own, eq_ok_of_toOption read⟩
  · intro ⟨own, read⟩ _
    rw [read]
    rfl

/-- The merge ends before the first file that cannot be read, and the failure is that file's. -/
theorem mergeFiles_of_unreadable {paths : List String} {broken : String}
    (first : (paths.filter machine.occupied).find? (¬ machine.Readable ·) = some broken)
    (table : Table) (loaded : List String) :
    ∃ cause, (run (Config.readSettings broken) machine).1 = .error cause ∧
      (Config.mergeFiles table loaded paths : StateM Machine _) machine =
        ((.error (.context ("failed to read config file " ++ broken) cause),
          loaded ++ (paths.filter machine.occupied).takeWhile (machine.Readable ·)),
            machine) := by
  induction paths generalizing table loaded with
  | nil => cases first
  | cons path rest ih =>
      rw [mergeFiles_cons]
      by_cases stands : machine.occupied path
      · rw [List.filter_cons_of_pos stands] at first ⊢
        rw [if_pos stands]
        cases read : (run (Config.readSettings path) machine).1 with
        | error cause =>
            have unreadable : ¬ machine.Readable path := by
              rw [machine.readable_iff stands, read]
              rintro ⟨own, same⟩
              cases same
            rw [List.find?_cons_of_pos (by simpa using unreadable)] at first
            cases first
            rw [List.takeWhile_cons_of_neg (by simpa using unreadable), List.append_nil]
            exact ⟨cause, read, rfl⟩
        | ok own =>
            have readable := (machine.readable_iff stands).mpr ⟨own, read⟩
            rw [List.find?_cons_of_neg (by simpa using readable)] at first
            rw [List.takeWhile_cons_of_pos (by simpa using readable),
              List.append_cons loaded path ((rest.filter machine.occupied).takeWhile _)]
            exact ih first _ _
      · rw [List.filter_cons_of_neg stands] at first ⊢
        rw [if_neg stands]
        exact ih first table loaded

/-- Merging the configuration files of a machine. -/
theorem mergeFiles_candidates :
    ∃ result, (Config.mergeFiles [] [] machine.candidates : StateM Machine _) machine =
        ((result, machine.readFiles), machine) ∧ result.toOption = machine.mergedFiles? ∧
      ∀ failure, result = .error failure → machine.Unread failure := by
  cases first : machine.configFiles.find? (¬ machine.Readable ·) with
  | none =>
      have readable : ∀ path ∈ machine.configFiles, machine.Readable path := by
        simpa using first
      have listed : machine.readFiles = machine.configFiles := by
        rw [readFiles, List.takeWhile_eq_self_iff]
        simpa using readable
      have every : ∀ path ∈ machine.candidates, machine.Readable path := by
        intro path member
        by_cases stands : machine.occupied path
        · apply readable
          rw [← filter_candidates]
          exact List.mem_filter.mpr ⟨member, stands⟩
        · exact machine.readable_of_free stands
      have read := machine.mergeFiles_eq every [] []
      rw [machine.filter_candidates, List.nil_append, ← merged, ← listed] at read
      refine ⟨.ok _, read, ?_, fun failure same => by cases same⟩
      rw [mergedFiles?, if_pos readable, listed]
      rfl
  | some broken =>
      have unreadable : ¬ ∀ path ∈ machine.configFiles, machine.Readable path := by
        intro readable
        have refused := List.find?_some first
        simp only [decide_eq_true_eq] at refused
        exact refused (readable broken (List.mem_of_find?_eq_some first))
      obtain ⟨cause, read, ran⟩ :=
        machine.mergeFiles_of_unreadable (by rwa [filter_candidates]) [] []
      rw [machine.filter_candidates, List.nil_append, ← readFiles] at ran
      refine ⟨.error _, ran, ?_, fun failure same => ?_⟩
      · rw [mergedFiles?, if_neg unreadable]
        rfl
      · cases same
        exact ⟨broken, cause, first, read, rfl⟩

theorem ensureFiles_reading (cache : Cache) :
    ∃ result, ((Config.ensureFiles cache : StateM Machine _) machine).1 =
        (result, machine.reading cache) ∧ result.toOption = (machine.reading cache).files ∧
      ∀ failure, result = .error failure → machine.Unread failure := by
  rw [files_reading]
  unfold Config.ensureFiles reading
  cases kept : cache.files with
  | some files =>
      refine ⟨.ok files, ?_, rfl, fun failure same => by cases same⟩
      simp only [stateM_pure]
  | none =>
      obtain ⟨result, ran, same, unread⟩ := machine.mergeFiles_candidates
      rw [Option.none_or]
      refine ⟨result, ?_, same, unread⟩
      simp only [stateM_bind, candidates_eq, ran, stateM_pure, same]

end Reading

/-! ## One load -/

variable {machine : Machine}

theorem decode_failed {settings : Table} {failure : Failure}
    (failed : Config.decode settings = .error failure) :
    ∃ cause, failure = .context "failed to unmarshal config" cause := by
  unfold Config.decode at failed
  cases decoded : Config.ofSettings settings with
  | ok config =>
      rw [decoded] at failed
      cases failed
  | error complaints =>
      rw [decoded] at failed
      cases failed
      exact ⟨_, rfl⟩

/-- A file that cannot be read is told apart from settings that cannot be decoded. -/
theorem Unread.decode_ne {failure : Failure} (unread : machine.Unread failure)
    (settings : Table) : Config.decode settings ≠ .error failure := by
  intro failed
  obtain ⟨path, cause, -, -, rfl⟩ := unread
  obtain ⟨other, same⟩ := decode_failed failed
  -- The two messages part at their eleventh character.
  have start := congrArg (fun text : String => text.toList.take 11) (Failure.context.inj same).1
  simp only [String.toList_append] at start
  rw [List.take_append_of_le_length (by decide)] at start
  exact absurd start (by decide)

/-- What a load comes to, and what it leaves. -/
inductive Loads (machine : Machine) (cache : Cache) : Except Failure Config × Cache → Prop where
  | kept (config : Config) (kept : cache.config = some config) :
      Loads machine cache (.ok config, cache)
  | unread (failure : Failure) (free : cache.config = none)
      (missing : (machine.reading cache).files = none) (unread : machine.Unread failure) :
      Loads machine cache (.error failure, machine.reading cache)
  | undecoded (files : Table) (failure : Failure) (free : cache.config = none)
      (read : (machine.reading cache).files = some files)
      (wrong : Config.decode (machine.settingsOf files) = .error failure) :
      Loads machine cache (.error failure, machine.reading cache)
  | decoded (files : Table) (config : Config) (free : cache.config = none)
      (read : (machine.reading cache).files = some files)
      (right : Config.decode (machine.settingsOf files) = .ok config) :
      Loads machine cache (.ok config, { machine.reading cache with config := some config })

theorem loads (machine : Machine) (cache : Cache) :
    machine.Loads cache ((Config.load cache : StateM Machine _) machine).1 := by
  cases kept : cache.config with
  | some config =>
      rw [machine.load_of_kept kept]
      exact .kept config kept
  | none =>
      obtain ⟨result, read, same, unread⟩ := machine.ensureFiles_reading cache
      rw [machine.load_of_free kept read]
      cases result with
      | error failure => exact .unread failure kept same.symm (unread failure rfl)
      | ok files =>
          simp only [Except.bind]
          cases decoded : Config.decode (machine.settingsOf files) with
          | error failure => exact .undecoded files failure kept same.symm decoded
          | ok config => exact .decoded files config kept same.symm decoded

theorem load_error {cache after : Cache} {failure : Failure}
    (failed : ((Config.load cache : StateM Machine _) machine).1 = (.error failure, after)) :
    cache.config = none ∧ after = machine.reading cache ∧
      (after.files = none ∧ machine.Unread failure ∨
        ∃ files, after.files = some files ∧
          Config.decode (machine.settingsOf files) = .error failure) := by
  have how := machine.loads cache
  generalize ((Config.load cache : StateM Machine _) machine).1 = outcome at how failed
  cases how with
  | kept config _ => cases failed
  | unread other free missing unread =>
      cases failed
      exact ⟨free, rfl, .inl ⟨missing, unread⟩⟩
  | undecoded files other free read wrong =>
      cases failed
      exact ⟨free, rfl, .inr ⟨files, read, wrong⟩⟩
  | decoded files config _ _ _ => cases failed

/-- Merged files that are kept are decoded, with the variables as they are now. -/
theorem load_of_files {cache : Cache} {files : Table} (free : cache.config = none)
    (kept : cache.files = some files) :
    ((Config.load cache : StateM Machine _) machine).1.1 =
      Config.decode (machine.settingsOf files) := by
  have still : (machine.reading cache).files = some files := by
    rw [files_reading, kept, Option.some_or]
  have how := machine.loads cache
  generalize ((Config.load cache : StateM Machine _) machine).1 = outcome at how
  cases how with
  | kept config present => rw [free] at present; cases present
  | unread failure _ missing _ => rw [still] at missing; cases missing
  | undecoded other failure _ read wrong =>
      rw [Option.some.inj (still.symm.trans read)]
      exact wrong.symm
  | decoded other config _ read right =>
      rw [Option.some.inj (still.symm.trans read)]
      exact right.symm

/-- A process that keeps neither a configuration nor merged files loads like a new one. -/
theorem load_anew {cache : Cache} (free : cache.config = none) (fresh : cache.files = none) :
    (Config.load cache : StateM Machine _) machine =
      (Config.load {} : StateM Machine _) machine := by
  rcases cache with ⟨config, files, loaded⟩
  cases free
  cases fresh
  rfl

/-- With a file that cannot be read, a new process has no configuration. -/
theorem load_of_stuck (stuck : machine.mergedFiles? = none) :
    ∃ failure, machine.Unread failure ∧
      ((Config.load {} : StateM Machine _) machine).1.1 = .error failure := by
  have missing : (machine.reading {}).files = none := by
    rw [files_reading, stuck, Option.or_none]
  have how := machine.loads {}
  generalize ((Config.load {} : StateM Machine _) machine).1 = outcome at how
  cases how with
  | kept config present => cases present
  | unread failure _ _ unread => exact ⟨failure, unread, rfl⟩
  | undecoded files failure _ read _ => rw [missing] at read; cases read
  | decoded files config _ read _ => rw [missing] at read; cases read

/-- A machine whose only configuration file is broken. -/
def brokenHost : Machine where
  tree := ⟨[(["ddgen.toml"], .file "[".toUTF8.toList)]⟩

theorem mergedFiles?_brokenHost : brokenHost.mergedFiles? = none := by
  decide +kernel

/-- Once merged files are kept, they hide that a file is broken; so what comes after is what
a new process would load only if there are none. -/
theorem load_later_iff {cache : Cache} (free : cache.config = none) :
    (∀ later, ((Config.load cache : StateM Machine _) later).1.1 =
      ((Config.load {} : StateM Machine _) later).1.1) ↔ cache.files = none := by
  constructor
  · intro anew
    by_contra kept
    obtain ⟨files, kept⟩ := Option.ne_none_iff_exists'.mp kept
    obtain ⟨failure, unread, stopped⟩ := load_of_stuck mergedFiles?_brokenHost
    have decoded := anew brokenHost
    rw [load_of_files free kept, stopped] at decoded
    exact unread.decode_ne _ decoded
  · intro fresh later
    rw [load_anew free fresh]

/-- What a load that fails leaves behind: the merged files, if all of them could be read, and
the list of those that were read before the first that could not. -/
theorem load_failed {machine : Machine} {cache after : Cache} {failure : Failure}
    (failed : ((Config.load cache : StateM Machine _) machine).1 = (.error failure, after)) :
    cache.config = none ∧ after = machine.reading cache ∧
      (after.files = none ∧ machine.Unread failure ∨
        ∃ files, after.files = some files ∧
          Config.decode (machine.settingsOf files) = .error failure) ∧
      (after = cache ↔
        cache.files.isSome ∨ machine.mergedFiles? = none ∧ machine.readFiles = cache.loaded) ∧
      (cache.files = none → (after.loaded = [] ↔
        ∀ path ∈ machine.configFiles.head?, ¬ machine.Readable path)) ∧
      ((∀ later, ((Config.load after : StateM Machine _) later).1.1 =
          ((Config.load {} : StateM Machine _) later).1.1) ↔
        cache.files = none ∧ machine.mergedFiles? = none) ∧
      ∀ files, after.files = some files → ∀ later : Machine,
        ((Config.load after : StateM Machine _) later).1.1 =
          Config.decode (later.settingsOf files) := by
  obtain ⟨free, left, wrong⟩ := load_error failed
  have unset : after.config = none := by rw [left, config_reading, free]
  refine ⟨free, left, wrong, ?same, ?listed, ?later, fun files kept later => ?decoded⟩
  case same =>
    rw [left]
    exact machine.reading_eq_iff cache
  case listed =>
    intro fresh
    rw [left, machine.loaded_reading fresh, readFiles_eq_nil_iff]
  case later => rw [load_later_iff unset, left, files_reading, Option.or_eq_none_iff]
  case decoded => exact load_of_files unset kept

/-- A machine with a file for the user and a broken one for the project. -/
def halfBrokenHost : Machine where
  tree := ⟨[(["home"], .directory), (["home", ".ddgen"], .directory),
    (["home", ".ddgen", "ddgen.toml"], .file "log.verbosity = 1\n".toUTF8.toList),
    (["ddgen.toml"], .file "[".toUTF8.toList)]⟩
  environment := [("HOME", "/home")]

/-- The file of the user stays listed, and the next load begins anew. -/
theorem load_failed_halfBrokenHost :
    ∃ failure after, ((Config.load {} : StateM Machine _) halfBrokenHost).1 =
        (.error failure, after) ∧ after.loaded = ["/home/.ddgen/ddgen.toml"] ∧
      ∀ later, ((Config.load after : StateM Machine _) later).1.1 =
        ((Config.load {} : StateM Machine _) later).1.1 := by
  have stuck : halfBrokenHost.mergedFiles? = none := by decide +kernel
  obtain ⟨failure, -, failed⟩ := load_of_stuck stuck
  rcases ran : ((Config.load {} : StateM Machine _) halfBrokenHost).1 with ⟨result, after⟩
  rw [ran] at failed
  cases failed
  obtain ⟨-, left, -, -, -, anew, -⟩ := load_failed ran
  refine ⟨failure, after, rfl, ?_, anew.mpr ⟨rfl, stuck⟩⟩
  rw [left, halfBrokenHost.loaded_reading rfl]
  decide +kernel

/-- A file that can be read, with a word where a truth value belongs, stays listed; and when
it is put right, the next load still reports the word. -/
theorem load_failed_misspelt :
    let host := fun (text : String) =>
      ({ tree := ⟨[(["ddgen.toml"], .file text.toUTF8.toList)]⟩ } : Machine)
    let (result, after) := ((Config.load {} : StateM Machine _)
      (host "generate.quiet = \"maybe\"\n")).1
    let fixed := host "generate.quiet = true\n"
    result.toOption = none ∧ after.loaded = ["/ddgen.toml"] ∧
      ((Config.load after : StateM Machine _) fixed).1.1.toOption = none ∧
      ((Config.load {} : StateM Machine _) fixed).1.1.toOption = some { quiet := true } := by
  decide +kernel

/-! ## Many loads -/

/-- What a process keeps after loads on one machine after the other. -/
def retried (cache : Cache) : List Machine → Cache
  | [] => cache
  | machine :: rest => retried ((Config.load cache : StateM Machine _) machine).1.2 rest

/-- A load keeps the merged files that it finds, and does so from then on. -/
theorem files_load {cache : Cache} (whole : cache.config.isSome → cache.files.isSome)
    (machine : Machine) :
    let after := ((Config.load cache : StateM Machine _) machine).1.2
    after.files = cache.files.or machine.mergedFiles? ∧
      (after.config.isSome → after.files.isSome) := by
  intro after
  have how := machine.loads cache
  simp only [after]
  generalize ((Config.load cache : StateM Machine _) machine).1 = outcome at how
  cases how with
  | kept config present =>
      rw [present, Option.isSome_some] at whole
      obtain ⟨files, same⟩ := Option.isSome_iff_exists.mp (whole rfl)
      rw [same, Option.some_or]
      exact ⟨rfl, fun _ => rfl⟩
  | unread failure free missing _ | undecoded _ failure free missing _ =>
      rw [files_reading, config_reading, free]
      exact ⟨rfl, fun present => by cases present⟩
  | decoded files config _ read _ =>
      rw [← files_reading, read]
      exact ⟨rfl, fun _ => rfl⟩

/-- Of a row of machines, it is the first whose files can all be read that decides. -/
theorem files_retried {cache : Cache} (whole : cache.config.isSome → cache.files.isSome)
    (machines : List Machine) :
    (retried cache machines).files = cache.files.or (machines.findSome? mergedFiles?) := by
  induction machines generalizing cache with
  | nil => rw [retried, List.findSome?_nil, Option.or_none]
  | cons machine rest ih =>
      obtain ⟨files, still⟩ := files_load whole machine
      rw [retried, ih still, files, List.findSome?_cons, Option.or_assoc]
      cases machine.mergedFiles? with
      | none => rfl
      | some own => rw [Option.some_or]

/-- After loads that failed, the next one begins anew only if on each machine some file could
not be read. -/
theorem load_retried_iff {machines : List Machine}
    (failed : (retried {} machines).config = none) :
    (∀ later, ((Config.load (retried {} machines) : StateM Machine _) later).1.1 =
      ((Config.load {} : StateM Machine _) later).1.1) ↔
        ∀ machine ∈ machines, machine.mergedFiles? = none := by
  rw [load_later_iff failed, files_retried (fun present => by cases present), Option.none_or,
    List.findSome?_eq_none_iff]

end Machine

end DomainGen
