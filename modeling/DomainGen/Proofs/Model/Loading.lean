import DomainGen.Model.Load
import DomainGen.Proofs.Host.Running
import DomainGen.Proofs.Link.Declarations

/-!
# What loading a model depends on

Loading changes nothing but the log.  Whether it succeeds, and what it yields, is
determined by what it sees: the contents of the model file and, when there is a root,
the readable model files below it.  This is so on every host that answers questions by a view
of its files (`Viewed.run_load`), and in particular on a machine in memory
(`toOption_run_load`).
-/

namespace DomainGen

/-- The document that the contents of a file hold. -/
def documentOf? (path : String) (bytes : Bytes) : Option Document :=
  if isModelFile path then
    (parseContents path bytes).toOption.map fun defs => { path, definitions := some defs }
  else none

/-- What loading a model sees: the contents of the model file, and the readable model
files below the root with their contents. -/
structure ModelsSeen where
  source : Option Bytes
  others : Option (List (String × Bytes))
  deriving DecidableEq

/-- The readable model files among some files, with their contents. -/
def View.readModels (view : View) (files : List String) : List (String × Bytes) :=
  (files.filter isModelFile).filterMap fun file => (view.read file).toOption.map (file, ·)

/-- What loading the model at a path sees.  It sees the files below a root if the root can be
scanned. -/
def View.modelsSeen (view : View) (path root : String) : ModelsSeen where
  source := (view.read path).toOption
  others := if root = "" then some [] else (view.scan? root).map view.readModels

/-- The model that is loaded from what is seen, if it can be. -/
def ModelsSeen.model? (seen : ModelsSeen) (working path : String) : Option LoadedModel := do
  let document ← seen.source.bind (documentOf? path)
  let files ← seen.others
  let siblings := (files.filter fun (file, _) =>
    Path.absolute working file != Path.absolute working path).filterMap fun (file, bytes) =>
      documentOf? file bytes
  return LoadedModel.linked { document, siblings }

theorem ModelsSeen.exists_of_model? {seen : ModelsSeen} {working path : String}
    {model : LoadedModel} (loaded : seen.model? working path = some model) :
    ∃ bytes document files siblings, seen.source = some bytes ∧
      documentOf? path bytes = some document ∧ seen.others = some files ∧
      model = LoadedModel.linked { document, siblings } := by
  rcases Option.bind_eq_some_iff.mp loaded with ⟨document, found, loaded⟩
  rcases Option.bind_eq_some_iff.mp found with ⟨bytes, source, found⟩
  rcases Option.bind_eq_some_iff.mp loaded with ⟨files, others, loaded⟩
  exact ⟨bytes, document, files, _, source, found, others, (Option.some.inj loaded).symm⟩

/-- The siblings of a model are the documents in the other files that are seen. -/
theorem readModels_filter (view : View) (path : String) (files : List String) :
    ((files.filter fun file => isModelFile file &&
        Path.absolute view.working file != Path.absolute view.working path).filterMap fun file =>
          (view.read file).toOption.bind (documentOf? file)) =
      ((view.readModels files).filter fun (file, _) =>
        Path.absolute view.working file != Path.absolute view.working path).filterMap
          fun (file, bytes) => documentOf? file bytes := by
  induction files with
  | nil => rfl
  | cons file files ih =>
      rw [View.readModels] at ih ⊢
      by_cases model : isModelFile file
      · by_cases apart : Path.absolute view.working file != Path.absolute view.working path
        · cases read : view.read file with
          | error refusal => simpa [model, apart, read, Except.toOption] using ih
          | ok bytes =>
              cases found : documentOf? file bytes with
              | none => simpa [model, apart, read, Except.toOption, found] using ih
              | some document => simpa [model, apart, read, Except.toOption, found] using ih
        · cases read : view.read file with
          | error refusal => simpa [model, apart, read, Except.toOption] using ih
          | ok bytes => simpa [model, apart, read, Except.toOption] using ih
      · simpa [model] using ih

/-! ## On any host -/

namespace Viewed

variable {σ : Type} [Disk (StateM σ)] [Process (StateM σ)] [Journal (StateM σ)] [Viewed σ]
  (state : σ)

/-- Reading a model file changes nothing. -/
theorem run_parseFile (path : String) :
    ∃ outcome, (parseFile path : ExceptT Failure (StateM σ) Document).run state =
        (outcome, state) ∧
      outcome.toOption = ((view state).read path).toOption.bind (documentOf? path) := by
  unfold parseFile documentOf?
  by_cases model : isModelFile path
  · rw [if_neg (by simp [model]), run_bind_stateM, run_adapt_stateM, run_readFile]
    cases (view state).read path with
    | error refusal => exact ⟨_, rfl, rfl⟩
    | ok bytes =>
        simp only [mapError_ok, Except.toOption, Option.bind_some, if_pos model]
        cases parseContents path bytes with
        | error diagnostic => exact ⟨_, rfl, rfl⟩
        | ok defs => exact ⟨_, rfl, rfl⟩
  · rw [if_pos (by simp [model])]
    refine ⟨_, rfl, ?_⟩
    simp only [if_neg model]
    cases ((view state).read path).toOption with
    | none => rfl
    | some bytes => rfl

omit [Process (StateM σ)] [Viewed σ] in
theorem parseAll_cons (file : String) (files : List String) :
    (parseAll (file :: files) : StateM σ (List Document)) state =
      match (parseFile file : ExceptT Failure (StateM σ) Document).run state with
      | (.ok document, between) =>
          let rest := (parseAll files : StateM σ (List Document)) between
          (document :: rest.1, rest.2)
      | (.error failure, between) =>
          (parseAll files : StateM σ (List Document))
            ((note .warn "" "Skipping model file"
              [("file", .text file), ("error", .text failure.text)] : StateM σ Unit)
                between).2 := by
  rw [parseAll]
  simp only [bind, StateT.bind]
  generalize (parseFile file : ExceptT Failure (StateM σ) Document).run state = result
  rcases result with ⟨outcome, between⟩
  cases outcome with
  | ok document => rfl
  | error failure => rfl

/-- The documents in the files that can be read as models. -/
theorem run_parseAll (files : List String) :
    ((parseAll files : StateM σ (List Document)) state).1 =
        (files.filterMap fun file =>
          ((view state).read file).toOption.bind (documentOf? file)) ∧
      Logged state ((parseAll files : StateM σ (List Document)) state).2 := by
  induction files generalizing state with
  | nil => exact ⟨rfl, .refl⟩
  | cons file files ih =>
      obtain ⟨outcome, ran, read⟩ := run_parseFile state file
      rw [parseAll_cons, ran, List.filterMap_cons, ← read]
      cases outcome with
      | ok document =>
          obtain ⟨documents, logged⟩ := ih state
          exact ⟨by simp [Except.toOption, documents], logged⟩
      | error failure =>
          have noted := (Logged.refl : Logged state state).note .warn "" "Skipping model file"
            [("file", .text file), ("error", .text failure.text)]
          obtain ⟨documents, logged⟩ := ih ((note .warn "" "Skipping model file"
            [("file", .text file), ("error", .text failure.text)] : StateM σ Unit) state).2
          rw [noted.view_eq] at documents
          exact ⟨documents, noted.trans logged⟩

theorem run_otherModelFiles (path root : String) :
    (otherModelFiles path root : ExceptT Failure (StateM σ) Listing).run state =
      ((((view state).entries root).mapError (.system "lstat" [root])).map fun entries =>
        { Listing.ofEntries entries with
          files := (Listing.ofEntries entries).files.filter fun file => isModelFile file &&
            Path.absolute (view state).working file !=
              Path.absolute (view state).working path }, state) := by
  rw [otherModelFiles, run_bind_stateM, run_lift_stateM, working]
  simp only
  rw [run_bind_stateM, run_filesBelow]
  cases (view state).entries root with
  | error refusal => rfl
  | ok entries => rfl

/-- The documents below a root are found if a scan comes to its end. -/
theorem run_siblingDocuments (path root : String) :
    ((siblingDocuments path root : ExceptT Failure (StateM σ) _).run state).1.toOption =
        ((view state).modelsSeen path root).others.map (fun files =>
          (files.filter fun (file, _) => Path.absolute (view state).working file !=
            Path.absolute (view state).working path).filterMap
              fun (file, bytes) => documentOf? file bytes) ∧
      Logged state ((siblingDocuments path root : ExceptT Failure (StateM σ) _).run state).2 := by
  unfold View.modelsSeen siblingDocuments
  by_cases alone : root = ""
  · rw [if_pos alone, if_pos alone]
    exact ⟨rfl, .refl⟩
  rw [if_neg alone, if_neg alone, run_bind_stateM, run_adapt_stateM, run_otherModelFiles]
  unfold View.scan?
  cases (view state).entries root with
  | error refusal => exact ⟨rfl, .refl⟩
  | ok entries =>
      rw [Except.toOption, Option.bind_some]
      simp only [mapError_ok, Except.map]
      rw [run_bind_stateM, run_lift_stateM]
      obtain ⟨documents, logged⟩ := run_parseAll state
        ((Listing.ofEntries entries).files.filter fun file => isModelFile file &&
          Path.absolute (view state).working file != Path.absolute (view state).working path)
      rw [readModels_filter] at documents
      simp only [documents]
      cases (Listing.ofEntries entries).failure with
      | none => exact ⟨rfl, logged⟩
      | some failure => exact ⟨rfl, logged⟩

omit [Disk (StateM σ)] [Process (StateM σ)] [Viewed σ] in
/-- What is noted about a model goes to the log. -/
theorem logged_noteFindings (model : LoadedModel) {first : σ} (logged : Logged first state) :
    Logged first ((noteFindings model : StateM σ Unit) state).2 := by
  have looped : Logged first
      ((forIn model.document.diagnostics PUnit.unit fun diagnostic _ => do
        note .debug "" "Diagnostic"
          [("file", .text diagnostic.file), ("line", .int diagnostic.line),
            ("severity", .text diagnostic.severity.word), ("message", .text diagnostic.message)]
        pure (ForInStep.yield PUnit.unit) : StateM σ PUnit) state).2 := by
    generalize model.document.diagnostics = diagnostics
    induction diagnostics generalizing state with
    | nil => exact logged
    | cons diagnostic diagnostics ih =>
        rw [List.forIn_cons]
        exact ih _ (logged.note _ _ _ _)
  exact looped.note _ _ _ _

/-- The model that is loaded is the one that is seen, and loading only logs. -/
theorem run_load (path root : String) :
    ((load path root : ExceptT Failure (StateM σ) LoadedModel).run state).1.toOption =
        ((view state).modelsSeen path root).model? (view state).working path ∧
      Logged state ((load path root : ExceptT Failure (StateM σ) LoadedModel).run state).2 := by
  obtain ⟨outcome, ran, read⟩ := run_parseFile state path
  have source : ((view state).modelsSeen path root).source =
      ((view state).read path).toOption := rfl
  unfold load ModelsSeen.model?
  rw [source, ← read, run_bind_stateM, ran]
  cases outcome with
  | error failure => exact ⟨rfl, .refl⟩
  | ok document =>
      simp only
      obtain ⟨siblings, logged⟩ := run_siblingDocuments state path root
      rw [run_bind_stateM]
      generalize (siblingDocuments path root : ExceptT Failure (StateM σ) _).run state = result
        at siblings logged
      rcases result with ⟨outcome, between⟩
      cases outcome with
      | error failure =>
          refine ⟨?_, logged⟩
          cases others : ((view state).modelsSeen path root).others with
          | none => rfl
          | some files =>
              rw [others] at siblings
              cases siblings
      | ok documents =>
          refine ⟨?_, logged_noteFindings between
            (LoadedModel.linked { document, siblings := documents }) logged⟩
          cases others : ((view state).modelsSeen path root).others with
          | none =>
              rw [others] at siblings
              cases siblings
          | some files =>
              rw [others] at siblings
              cases siblings
              rfl

end Viewed

/-! ## On a machine -/

namespace Machine

/-- Reading a model file changes nothing. -/
theorem run_parseFile (path : String) (machine : Machine) :
    ∃ outcome, run (parseFile path) machine = (outcome, machine) ∧
      outcome.toOption =
        (machine.tree.read machine.working path).toOption.bind (documentOf? path) :=
  Viewed.run_parseFile machine path

/-- The model that is loaded is the one that is seen, and loading only logs. -/
theorem toOption_run_load (path root : String) (machine : Machine) :
    (run (load path root) machine).1.toOption =
        ((machine.tree.view machine.working).modelsSeen path root).model? machine.working path ∧
      Leaves machine machine.tree machine.output (run (load path root) machine).2 := by
  obtain ⟨outcome, logged⟩ := Viewed.run_load machine path root
  exact ⟨outcome, leaves_of_logged logged⟩

/-- Where no file is found below a root, loading with it is loading without. -/
theorem run_load_of_scan_nil {path root : String} {machine : Machine}
    (silent : machine.log = none) {model : LoadedModel}
    (loaded : (run (load path "") machine).1 = .ok model)
    (scanned : (machine.tree.view machine.working).scan? root = some []) :
    run (load path root) machine = run (load path "") machine := by
  have same : (machine.tree.view machine.working).modelsSeen path root =
      (machine.tree.view machine.working).modelsSeen path "" := by
    by_cases alone : root = ""
    · rw [alone]
    · simp [View.modelsSeen, alone, scanned, View.readModels]
  have outcome := (toOption_run_load path root machine).1
  rw [same, ← (toOption_run_load path "" machine).1, loaded] at outcome
  have left : ∀ root, (run (load path root) machine).2 = machine :=
    fun root => eq_of_logged silent (Viewed.run_load machine path root).2
  exact Prod.ext ((eq_ok_of_toOption outcome).trans loaded.symm)
    ((left root).trans (left "").symm)

end Machine

end DomainGen
