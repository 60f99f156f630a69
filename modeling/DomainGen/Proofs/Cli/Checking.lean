import DomainGen.Proofs.Cli.Generating
import DomainGen.Proofs.Generate.Comparing
import DomainGen.Proofs.Model.Keeping

/-!
# Checking agrees with generating

A check generates into a directory of its own and compares.  As long as the models are
as they were when the output was generated, it finds out exactly which of the generated
files were deleted or changed since then (`check_of_generate`); when there are none, the
output is up to date, whatever else the destination holds.

The model is loaded anew for that, and generating may itself have made a directory below the
root that cannot be opened; then there is no comparison (`not_check_of_generate_hollowMachine`).
-/

namespace DomainGen

open Machine

/-! ## A directory of its own -/

namespace Machine

/-- The last name of a fresh path has no dot, so it is not that of an output file. -/
theorem exists_way_freshPath (machine : Machine) :
    ∃ front last, Path.way machine.working machine.freshPath = front ++ [last] ∧
      Path.extension last = "" := by
  obtain ⟨number, spelled⟩ : ∃ number : Nat, machine.freshPath =
      machine.temporary ++ "/" ++ ("run-" ++ toString number) := by
    obtain ⟨number, spelled⟩ : ∃ number : Nat, machine.freshPath =
      machine.temporary ++ "/run-" ++ toString number := ⟨_, rfl⟩
    have named : "/run-" = "/" ++ "run-" := by decide
    exact ⟨number, by rw [spelled, named, String.append_assoc, String.append_assoc,
      String.append_assoc]⟩
  have digits : ∀ mark : Char, mark.isDigit = false → mark ∉ (toString number).toList := by
    intro mark other member
    have same : (toString number).toList = Nat.toDigits 10 number := String.toList_ofList
    rw [same] at member
    rw [Nat.isDigit_of_mem_toDigits (by decide) (by decide) member] at other
    cases other
  have free : ∀ mark : Char, mark.isDigit = false → mark ∉ "run-".toList →
      mark ∉ ("run-" ++ toString number).toList := by
    intro mark other absent
    rw [String.toList_append, List.mem_append, not_or]
    exact ⟨absent, digits mark other⟩
  have slashFree := free '/' (by decide) (by decide)
  have dotFree := free '.' (by decide) (by decide)
  have plain : Path.IsPlain ("run-" ++ toString number) := by
    have starts : ("run-" ++ toString number).toList =
        'r' :: ("un-".toList ++ (toString number).toList) := by
      rw [String.toList_append]
      rfl
    refine ⟨?_, ?_, ?_, slashFree⟩
    · intro same
      rw [same] at starts
      cases starts
    · intro same
      rw [same] at starts
      cases starts
    · intro same
      rw [same] at starts
      cases starts
  refine ⟨Path.walk (Path.origin machine.working machine.freshPath)
    (Text.segments '/' machine.temporary), _, ?_, Path.extension_of_dotFree dotFree⟩
  rw [Path.way, spelled, Path.segments_append_slash, Path.segments_of_slashFree slashFree,
    Path.walk_append, Path.walk_cons_plain plain, Path.walk]

/-- A directory that was made: nothing stood there, and it is empty. -/
structure MadeDirectory (machine : Machine) (path : String) (tree : FileTree) : Prop where
  grown : machine.tree.Grown tree
  free : machine.tree.find? (Path.way machine.working path) = none
  there : tree.node machine.working path = .ok .directory
  empty : ∀ names, names ≠ [] → tree.find? (Path.way machine.working path ++ names) = none
  outside : ∀ names, names ≠ Path.way machine.working path →
    tree.find? names = machine.tree.find? names

theorem Sound.madeDirectory {machine : Machine} (sound : machine.Sound) {path : String}
    {tree : FileTree} (made : machine.tree.makeDirectory machine.working path = .ok tree) :
    MadeDirectory machine path tree := by
  rcases sound.makeDirectory_grown made with ⟨grown, place, located, rfl, free⟩
  have way := FileTree.locate_way located
  have proper : place.names ≠ [] := by
    intro empty
    rw [empty] at free
    contradiction
  have outside : ∀ names, names ≠ place.names →
      (machine.tree.put place.names .directory).find? names = machine.tree.find? names := by
    intro names apart
    rw [FileTree.find?_put _ proper, if_neg (Ne.symm apart)]
  refine ⟨grown, by rw [← way, free], ?_, ?_, by rwa [← way]⟩
  · have directories : machine.tree.HasDirectories (machine.tree.put place.names .directory) :=
      fun names found => grown.kept names .directory found
    refine FileTree.node_eq_directory_iff.mpr
      ⟨place, FileTree.locate_mono directories located, ?_⟩
    rw [FileTree.find?_put _ proper, if_pos rfl]
  · intro names some
    rw [← way, outside _ (by simpa using some)]
    exact sound.tree.find?_below_none free (List.prefix_append _ _)

theorem MadeDirectory.spelled {machine : Machine} {path : String} {tree : FileTree}
    (made : MadeDirectory machine path tree) : path ≠ "" := by
  rintro rfl
  have there := made.there
  contradiction

/-- A machine that has room for output in a directory of its own. -/
structure HasRoom (machine : Machine) (artifacts : List Artifact) : Prop where
  made : ∃ tree, machine.tree.makeDirectory machine.working machine.freshPath = .ok tree
  fits : ∀ artifact ∈ artifacts, FileTree.Fits (Path.under machine.freshPath artifact.path)

/-- Whether a root, if there is one, can be scanned with a directory of its own in place: every
directory below the root can be opened. -/
def ScansRoot (machine : Machine) (root : String) : Prop :=
  root ≠ "" → ∀ tree, machine.tree.makeDirectory machine.working machine.freshPath = .ok tree →
    tree.OpenBelow machine.working root

theorem ScansRoot.openBelow {machine : Machine} {root : String} {artifacts : List Artifact}
    (scans : machine.ScansRoot root) (sound : machine.Sound) (room : machine.HasRoom artifacts)
    (spelled : root ≠ "") : machine.tree.OpenBelow machine.working root := by
  obtain ⟨tree, created⟩ := room.made
  exact (scans spelled tree created).of_hasDirectories
    fun names found => (sound.madeDirectory created).grown.kept names _ found

end Machine

namespace Cli

/-- What is done in a directory of its own, on the machine where it was made; afterwards it
is removed. -/
theorem run_withTemporary {α : Type} {machine : Machine} {tree : FileTree}
    (made : machine.tree.makeDirectory machine.working machine.freshPath = .ok tree)
    (action : String → ExceptT Failure (StateM Machine) α) :
    let finished := Machine.run (action machine.freshPath) { machine with tree }
    Machine.run (withTemporary action) machine =
      (finished.1, { finished.2 with
        tree := finished.2.tree.removeAll finished.2.working machine.freshPath }) := by
  intro finished
  have taken : Machine.run ((Disk.attempt "mkdir" ["ddgen-check"] Disk.makeTemporary).adapt
      (.context "failed to create temp directory")) machine =
        (.ok machine.freshPath, { machine with tree }) := by
    have temporary : (Disk.makeTemporary : StateM Machine (Except Refusal String)) machine =
        (.ok machine.freshPath, { machine with tree }) := by
      simp only [Disk.makeTemporary, made]
    rw [run_adapt, run_attempt, temporary]
    rfl
  unfold withTemporary
  rw [run_bind_ok taken]
  rfl

/-! ## What is reported -/

/-- What is printed about the differences from earlier output. -/
def Generation.reportText (generation : Generation) (voice : Voice) (existing : String)
    (differences : List String) : String :=
  let subject := generation.target.label ++ " in " ++ existing
  if generation.quiet then ""
  else if differences.isEmpty then
    Terminal.labelled voice.styling .success (subject ++ " are up to date")
  else
    Terminal.labelled voice.styling .warning (subject ++ " are out of date:") ++
      String.join (differences.map fun file => "  - " ++ file ++ "\n")

/-- The failure of a check that finds differences. -/
def Generation.outOfDate (generation : Generation) (existing : String)
    (differences : List String) : Failure :=
  .hint ("run 'ddgen generate " ++ generation.source ++ "' to update")
    (.mark .outOfDate (.message (toString differences.length ++
      " generated file(s) differ from " ++ existing)))

theorem run_forIn_print {α : Type} (items : List α) (text : α → String) (machine : Machine) :
    Machine.run (forIn items PUnit.unit fun item _ => do
        (Console.print (text item) : StateM Machine Unit)
        pure (ForInStep.yield PUnit.unit) : ExceptT Failure (StateM Machine) PUnit) machine =
      (.ok (), { machine with output := machine.output ++ String.join (items.map text) }) := by
  induction items generalizing machine with
  | nil => simp
  | cons item items ih =>
      rw [List.forIn_cons, bind_assoc, run_bind_ok (run_lift _ machine)]
      have rest := ih { machine with output := machine.output ++ text item }
      rw [List.map_cons, String.join_cons, ← String.append_assoc]
      exact rest

theorem run_report (generation : Generation) (voice : Voice) (existing : String)
    (differences : List String) (machine : Machine) :
    Machine.run (generation.report voice existing differences) machine =
      (if differences = [] then .ok () else .error (generation.outOfDate existing differences),
        { machine with output :=
          machine.output ++ generation.reportText voice existing differences }) := by
  unfold Generation.report Generation.reportText
  cases generation.quiet with
  | true =>
      cases differences with
      | nil => simp
      | cons file files =>
          simp only [List.isEmpty_cons, Bool.not_true, if_true, String.append_empty]
          rfl
  | false =>
      cases differences with
      | nil => rfl
      | cons file files =>
          let warning := generation.target.label ++ " in " ++ existing ++ " are out of date:"
          let warned := { machine with
            output := machine.output ++ Terminal.labelled voice.styling .warning warning }
          have begun : Machine.run (liftM (announce voice .warning warning : StateM Machine Unit))
              machine = (.ok (), warned) := rfl
          have printed := run_forIn_print (file :: files)
            (fun file => "  - " ++ file ++ "\n") warned
          dsimp only
          rw [if_neg (by simp), if_pos (by simp), run_bind_ok begun, run_bind_ok printed, run_throw,
            if_neg (by simp), if_neg (by simp), if_neg (by simp), ← String.append_assoc]
          rfl

/-! ## Generating anew -/

section Fresh

variable {machine : Machine} (sound : machine.Sound) {tree : FileTree}
  (made : MadeDirectory machine machine.freshPath tree) {model : LoadedModel}
include sound made

/-- Into a directory of its own, the output for the models that are seen can be generated. -/
theorem exists_run_fresh {fresh : Generation} (quiet : fresh.quiet)
    (destination : fresh.options.destination = machine.freshPath)
    (named : fresh.options.source ≠ "")
    (loaded : ((machine.tree.view machine.working).modelsSeen fresh.source fresh.root).model?
      machine.working fresh.source = some model)
    (opened : fresh.root ≠ "" → tree.OpenBelow machine.working fresh.root)
    (orderly : Orderly (model.artifacts fresh.target fresh.options))
    (fits : ∀ artifact ∈ model.artifacts fresh.target fresh.options,
      FileTree.Fits (Path.under machine.freshPath artifact.path)) (voice : Voice) :
    ∃ final, Machine.run (fresh.run voice) { machine with tree } = (.ok (), final) ∧
      Leaves machine final.tree machine.output final ∧
      Laid (Path.way machine.working machine.freshPath)
        (model.artifacts fresh.target fresh.options) tree final.tree := by
  have resolved : fresh.options.resolvedDestination = machine.freshPath := by
    rw [GenerateOptions.resolvedDestination, destination, if_neg made.spelled]
  have seen := made.grown.keepsModels.modelsSeen sound.tree loaded opened
  -- The directory is no model, so that the same model is loaded.
  rcases toOption_run_load fresh.source fresh.root { machine with tree } with ⟨outcome, left⟩
  rw [seen, loaded] at outcome
  obtain ⟨between, ran⟩ : ∃ between,
      Machine.run (load fresh.source fresh.root) { machine with tree } = (.ok model, between) :=
    ⟨_, Prod.ext (eq_ok_of_toOption outcome) rfl⟩
  rw [ran] at left
  have there := made.there
  have empty := made.empty
  have sourced := fresh.options.sourced_of_ne named model.document.path
  rw [← resolved, ← sourced] at there empty fits
  rw [← sourced] at orderly
  have treeBetween : between.tree = tree := left.tree
  have workingBetween : between.working = machine.working := left.working
  rw [← treeBetween, ← workingBetween] at there empty
  rcases exists_run_runGeneration orderly ((sound.grow made.grown).of_leaves left) there empty fits
    with ⟨result, wrote, generated, wroteLeft, laid⟩
  rw [sourced, resolved, workingBetween, treeBetween] at laid
  rcases run_generation_of_quiet quiet ran generated with ⟨final, finished, finalLeft⟩
  refine ⟨final, finished, ?_, ?_⟩
  · have whole := (left.trans wroteLeft).trans finalLeft
    rw [wroteLeft.output, left.output] at whole
    rw [finalLeft.tree]
    exact ⟨whole.tree, whole.output, whole.working, whole.environment, whole.temporary⟩
  · rwa [finalLeft.tree]

omit sound in
/-- The directory does not lie on the way to a place where output is looked for: what stands
above that place was there before, and the place itself has the name of an output file. -/
theorem not_prefix_of_visible (wellFormed : machine.tree.WellFormed)
    {existing path content : String} {target : Target} {options : GenerateOptions}
    (member : .file path content ∈ model.artifacts target options)
    (visible : machine.tree.Visible machine.working existing (Text.segments '/' path)) :
    ¬ Path.way machine.working machine.freshPath <+:
      Path.way machine.working existing ++ Text.segments '/' path := by
  intro isAbove
  have some := Text.segments_ne_nil '/' path
  by_cases same : Path.way machine.working machine.freshPath =
      Path.way machine.working existing ++ Text.segments '/' path
  · rcases exists_way_freshPath machine with ⟨front, last, way, extension⟩
    rcases List.eq_nil_or_concat (Text.segments '/' path) with none | ⟨names, name, cutOut⟩
    · exact some none
    · rw [List.concat_eq_append] at cutOut
      rw [way, cutOut, ← List.append_assoc] at same
      have lasts := List.singleton_inj.mp (List.append_inj' same rfl).2
      rw [lasts, ← Path.extension_eq_of_segments cutOut] at extension
      rcases LoadedModel.extension_of_file member with other | other
      · rw [other] at extension
        contradiction
      · rw [other] at extension
        contradiction
  · have higher := prefix_dropLast isAbove same
    rw [List.dropLast_append_of_ne_nil some] at higher
    have free := made.free
    by_cases parent : Path.way machine.working machine.freshPath =
        Path.way machine.working existing ++ (Text.segments '/' path).dropLast
    · rw [parent, visible.parent] at free
      contradiction
    · rw [wellFormed.find?_above visible.parent higher parent] at free
      contradiction

end Fresh

/-- A machine after output was generated anew, into a directory of its own. -/
structure Renewed (machine : Machine) (artifacts : List Artifact) (final : Machine) : Prop where
  sound : final.Sound
  output : final.output = machine.output
  working : final.working = machine.working
  there : final.tree.node final.working machine.freshPath = .ok .directory
  written : ∀ names bytes,
    final.tree.find? (Path.way final.working machine.freshPath ++ names) = some (.file bytes) ↔
      ∃ content, contentAt? artifacts names = some content ∧ content.toUTF8.toList = bytes
  directories : machine.tree.HasDirectories final.tree
  outside : ∀ names, ¬ Path.way machine.working machine.freshPath <+: names →
    final.tree.find? names = machine.tree.find? names
  made : ∀ names, names ≠ [] →
    final.tree.find? (Path.way final.working machine.freshPath ++ names) = some .directory →
      artifacts.any (Artifact.makes names)

/-- Only the files of the output stand there. -/
theorem Renewed.exists_file {machine final : Machine} {artifacts : List Artifact}
    (renewed : Renewed machine artifacts final) {names : List String} {bytes : Bytes}
    (found : final.tree.find? (Path.way final.working machine.freshPath ++ names) =
      some (.file bytes)) :
    ∃ path content, .file path content ∈ artifacts ∧ Text.segments '/' path = names := by
  obtain ⟨content, content?, -⟩ := (renewed.written names bytes).mp found
  obtain ⟨path, member, segments⟩ := exists_of_contentAt? content?
  exact ⟨path, content, member, segments⟩

theorem renewed_of_laid {machine final : Machine} (sound : machine.Sound) {tree : FileTree}
    (made : MadeDirectory machine machine.freshPath tree) {artifacts : List Artifact}
    (left : Leaves machine final.tree machine.output final)
    (laid : Laid (Path.way machine.working machine.freshPath) artifacts tree final.tree) :
    Renewed machine artifacts final := by
  constructor
  · exact (sound.grow made.grown).of_laid laid
      ⟨rfl, left.output, left.working, left.environment, left.temporary⟩
  · exact left.output
  · exact left.working
  · rcases FileTree.node_eq_directory_iff.mp made.there with ⟨place, located, directory⟩
    rw [left.working]
    exact FileTree.node_eq_directory_iff.mpr
      ⟨place, FileTree.locate_mono laid.directories located, laid.directories _ directory⟩
  · intro names bytes
    rw [left.working, laid.find?_eq_file_iff]
    -- Nothing was there before but the directory itself.
    refine or_iff_left ?_
    rintro ⟨-, file⟩
    by_cases top : names = []
    · rw [top, List.append_nil, (FileTree.find?_way_of_node made.there).2] at file
      cases file
    · rw [made.empty names top] at file
      cases file
  · intro names found
    exact laid.directories names (made.grown.kept names _ found)
  · intro names apart
    rw [laid.outside names apart, made.outside]
    rintro rfl
    exact apart (List.prefix_refl _)
  · intro names some directory
    rw [left.working] at directory
    by_cases written : contentAt? artifacts names = none
    · by_contra other
      rw [laid.rest names written other, made.empty names some] at directory
      cases directory
    · obtain ⟨content, written⟩ := Option.ne_none_iff_exists'.mp written
      rw [laid.file names content written] at directory
      cases directory

/-- All output that was generated anew can be looked at. -/
theorem fitsBelow_renewed {machine final : Machine} {tree : FileTree}
    (made : MadeDirectory machine machine.freshPath tree) {artifacts : List Artifact}
    (renewed : Renewed machine artifacts final) (orderly : Orderly artifacts)
    (fits : ∀ artifact ∈ artifacts,
      FileTree.Fits (Path.under machine.freshPath artifact.path)) :
    final.FitsBelow machine.freshPath := by
  intro names below there
  obtain ⟨node, found⟩ := Option.isSome_iff_exists.mp there
  cases node with
  | file bytes =>
      obtain ⟨path, content, member, rfl⟩ := renewed.exists_file found
      rw [Path.join_segments_slash]
      exact fits _ member
  | directory =>
      obtain ⟨artifact, member, makes⟩ := List.any_eq_true.mp (renewed.made names below found)
      cases artifact with
      | file path content => contradiction
      | directory path =>
          obtain ⟨inner, segments⟩ := List.isPrefixOf_iff_prefix.mp makes
          have plain : ∀ name ∈ names ++ inner, Path.IsPlain name := by
            rw [segments]
            exact orderly.plain _ member
          have whole := fits _ member
          rw [Artifact.path, ← Path.join_segments_slash path, ← segments,
            Path.under_join plain (by simp [below]) made.spelled, ← List.append_assoc] at whole
          rw [Path.under_join (fun name inside => plain name (List.mem_append_left _ inside)) below
            made.spelled]
          exact Fits.above (by simp [below]) whole

/-- Comparing what was generated anew with earlier output names the files that are missing or
have other contents there. -/
theorem exists_run_compareDirectories_renewed {machine final : Machine} (sound : machine.Sound)
    {tree : FileTree} (made : MadeDirectory machine machine.freshPath tree) {model : LoadedModel}
    {target : Target} {options : GenerateOptions}
    (renewed : Renewed machine (model.artifacts target options) final)
    (orderly : Orderly (model.artifacts target options))
    (fits : ∀ artifact ∈ model.artifacts target options,
      FileTree.Fits (Path.under machine.freshPath artifact.path))
    {existing : String} (spelled : existing ≠ "")
    (visible : ∀ path content, .file path content ∈ model.artifacts target options →
      machine.tree.Visible machine.working existing (Text.segments '/' path)) :
    ∃ changes : List String,
      Machine.run (compareDirectories machine.freshPath existing) final = (.ok changes, final) ∧
      changes.Pairwise (· < ·) ∧
      ∀ text, text ∈ changes ↔ ∃ names content,
        contentAt? (model.artifacts target options) names = some content ∧
          machine.tree.changeAt? (Path.way machine.working existing) names
            content.toUTF8.toList = some text := by
  have unchanged : ∀ path content, .file path content ∈ model.artifacts target options →
      final.tree.find? (Path.way final.working existing ++ Text.segments '/' path) =
        machine.tree.find? (Path.way machine.working existing ++ Text.segments '/' path) := by
    intro path content member
    rw [renewed.working]
    exact renewed.outside _
      (not_prefix_of_visible made sound.tree member (visible path content member))
  have readable : ∀ names bytes,
      final.tree.find? (Path.way final.working machine.freshPath ++ names) = some (.file bytes) →
        final.tree.Visible final.working existing names := by
    intro names bytes found
    obtain ⟨path, content, member, rfl⟩ := renewed.exists_file found
    have seen := visible path content member
    refine ⟨seen.fits, ?_, ?_⟩
    · rw [renewed.working]
      exact renewed.directories _ seen.parent
    · rw [unchanged path content member]
      exact seen.file
  have unambiguous : ∀ names bytes,
      final.tree.find? (Path.way final.working machine.freshPath ++ names) = some (.file bytes) →
        ∀ text, Text.join "/" names ≠ text ++ " (missing)" := by
    intro names bytes found
    obtain ⟨path, content, member, rfl⟩ := renewed.exists_file found
    rw [Path.join_segments_slash]
    exact LoadedModel.ne_missing_of_file member
  have alike : ∀ names content,
      contentAt? (model.artifacts target options) names = some content → ∀ bytes,
      final.tree.changeAt? (Path.way final.working existing) names bytes =
        machine.tree.changeAt? (Path.way machine.working existing) names bytes := by
    intro names content content? bytes
    rcases exists_of_contentAt? content? with ⟨path, member, rfl⟩
    rw [FileTree.changeAt?, unchanged path content member, FileTree.changeAt?]
  rcases exists_run_compareDirectories renewed.sound renewed.there spelled
    (fitsBelow_renewed made renewed orderly fits) readable unambiguous with
    ⟨changes, compared, sorted, changed⟩
  refine ⟨changes, compared, sorted, ?_⟩
  intro text
  rw [changed]
  constructor
  · rintro ⟨names, bytes, found, said⟩
    rcases (renewed.written names bytes).mp found with ⟨content, content?, rfl⟩
    exact ⟨names, content, content?, by rw [← alike names content content?, said]⟩
  · rintro ⟨names, content, content?, said⟩
    refine ⟨names, _, (renewed.written names _).mpr ⟨content, content?, rfl⟩, ?_⟩
    rw [alike names content content?, said]

/-- What a check does: it names the generated files that are missing or have other contents
than what would be generated now. -/
theorem exists_run_check {machine : Machine} (sound : machine.Sound) {checking : Generation}
    {against existing : String}
    (compared : Text.orElse against checking.options.resolvedDestination = existing)
    (spelled : existing ≠ "") (named : checking.options.source ≠ "") {model : LoadedModel}
    (loaded : ((machine.tree.view machine.working).modelsSeen checking.source checking.root).model?
      machine.working checking.source = some model)
    (scans : machine.ScansRoot checking.root)
    (orderly : Orderly (model.artifacts checking.target checking.options))
    (room : machine.HasRoom (model.artifacts checking.target checking.options))
    (visible : ∀ path content,
      .file path content ∈ model.artifacts checking.target checking.options →
      machine.tree.Visible machine.working existing (Text.segments '/' path)) (voice : Voice) :
    ∃ changes : List String, changes.Pairwise (· < ·) ∧
      (∀ text, text ∈ changes ↔ ∃ names content,
        contentAt? (model.artifacts checking.target checking.options) names = some content ∧
          machine.tree.changeAt? (Path.way machine.working existing) names
            content.toUTF8.toList = some text) ∧
      (Machine.run (checking.check voice against) machine).1 =
        (if changes = [] then .ok () else .error (checking.outOfDate existing changes)) ∧
      (Machine.run (checking.check voice against) machine).2.output =
        machine.output ++ checking.reportText voice existing changes := by
  rcases room.made with ⟨tree, created⟩
  have made := sound.madeDirectory created
  let fresh : Generation := { checking with
    quiet := true
    options := { checking.options with destination := machine.freshPath } }
  have quiet : fresh.quiet := rfl
  have same : model.artifacts fresh.target fresh.options =
      model.artifacts checking.target checking.options :=
    model.artifacts_destination checking.target checking.options machine.freshPath
  have opened : fresh.root ≠ "" → tree.OpenBelow machine.working fresh.root :=
    fun rooted => scans rooted tree created
  rcases exists_run_fresh sound made quiet rfl named loaded opened (same ▸ orderly)
    (same ▸ room.fits) voice with ⟨final, ran, left, laid⟩
  rw [same] at laid
  have renewed := renewed_of_laid sound made left laid
  rcases exists_run_compareDirectories_renewed sound made renewed orderly room.fits spelled visible
    with ⟨changes, compare, sorted, changed⟩
  refine ⟨changes, sorted, changed, ?_⟩
  have adapted : Machine.run ((compareDirectories machine.freshPath existing).adapt
      (.context "failed to compare directories")) final = (.ok changes, final) := by
    rw [run_adapt, compare]
    rfl
  have finished : Machine.run (fresh.run voice >>= fun _ =>
      (compareDirectories machine.freshPath existing).adapt
        (.context "failed to compare directories") >>= fun differences =>
          checking.report voice existing differences) { machine with tree } =
      Machine.run (checking.report voice existing changes) final := by
    rw [run_bind_ok ran, run_bind_ok adapted]
  rw [run_report, renewed.output] at finished
  have checked : Machine.run (checking.check voice against) machine = _ :=
    run_withTemporary created _
  rw [compared] at checked
  rw [checked]
  exact ⟨congrArg Prod.fst finished, congrArg (fun finished => finished.2.output) finished⟩

/-- Where the model is not loaded, a check fails as loading does. -/
theorem run_check_of_load_eq_error {machine : Machine} (checking : Generation) {tree : FileTree}
    (created : machine.tree.makeDirectory machine.working machine.freshPath = .ok tree)
    {failure : Failure}
    (failed : (Machine.run (load checking.source checking.root) { machine with tree }).1 =
      .error failure) (voice : Voice) (against : String) :
    (Machine.run (checking.check voice against) machine).1 = .error failure := by
  let fresh : Generation := { checking with
    quiet := true
    options := { checking.options with destination := machine.freshPath } }
  obtain ⟨between, stopped⟩ : ∃ between,
      Machine.run (fresh.run voice) { machine with tree } = (.error failure, between) := by
    rw [run_generation]
    exact ⟨_, run_bind_error (Prod.ext failed rfl)⟩
  have checked : Machine.run (checking.check voice against) machine = _ :=
    run_withTemporary created _
  rw [checked, run_bind_error stopped]

/-- A check fails where the root cannot be scanned with the directory of the check in place. -/
theorem exists_run_check_eq_error {machine : Machine} (sound : machine.Sound)
    (checking : Generation) (closed : ¬ machine.ScansRoot checking.root) (voice : Voice)
    (against : String) :
    ∃ tree failure,
      machine.tree.makeDirectory machine.working machine.freshPath = .ok tree ∧
      (Machine.run (load checking.source checking.root) { machine with tree }).1 =
        .error failure ∧
      (Machine.run (checking.check voice against) machine).1 = .error failure := by
  simp only [ScansRoot, Classical.not_imp, not_forall] at closed
  obtain ⟨spelled, tree, created, closed⟩ := closed
  have grown := (sound.madeDirectory created).grown
  obtain ⟨failure, failed⟩ := @exists_run_load_eq_error { machine with tree } grown.wellFormed
    checking.source checking.root spelled closed
  exact ⟨tree, failure, created, failed,
    run_check_of_load_eq_error checking created failed voice against⟩

/-! ## Checking what was generated -/

/-- What a generation leaves: the output for the model that was seen, below the destination.
The models are seen as before if the root can still be scanned. -/
structure Generated (generation : Generation) (model : LoadedModel) (before after : Machine) :
    Prop where
  sound : after.Sound
  working : after.working = before.working
  loaded : ((before.tree.view before.working).modelsSeen generation.source generation.root).model?
    before.working generation.source = some model
  models : (generation.root ≠ "" → after.tree.OpenBelow after.working generation.root) →
    (after.tree.view after.working).modelsSeen generation.source generation.root =
      (before.tree.view before.working).modelsSeen generation.source generation.root
  orderly : Orderly (model.artifacts generation.target generation.options)
  spelled : generation.options.resolvedDestination ≠ ""
  fits : ∀ artifact ∈ model.artifacts generation.target generation.options,
    FileTree.Fits (Path.under generation.options.resolvedDestination artifact.path)
  files : ∀ names content,
    contentAt? (model.artifacts generation.target generation.options) names = some content →
      after.tree.find? (Path.way after.working generation.options.resolvedDestination ++ names) =
        some (.file content.toUTF8.toList)

theorem ne_empty_of_textual {source : String}
    (textual : Text.lowerCase (Path.extension source) = ".ddef") :
    source ≠ "" ∧ Path.extension source ≠ "" := by
  have named : Path.extension source ≠ "" := by
    intro none
    rw [none] at textual
    exact absurd textual (by decide +kernel)
  refine ⟨?_, named⟩
  rintro rfl
  exact named (by decide)

theorem exists_generated {generation : Generation}
    (sourced : generation.options.source = generation.source)
    (valid : generation.options.rootPackage = "" ∨
      Config.isPackageName generation.options.rootPackage)
    (textual : Text.lowerCase (Path.extension generation.source) = ".ddef") {voice : Voice}
    {before after : Machine} (sound : before.Sound)
    (ran : Machine.run (generation.run voice) before = (.ok (), after)) :
    ∃ model, (Machine.run (load generation.source generation.root) before).1 = .ok model ∧
      Generated generation model before after := by
  rcases exists_of_run_generation ran with
    ⟨model, shown, result, wrote, output, loaded, showed, generated, closed⟩
  refine ⟨model, loaded, ?_⟩
  have seen := (toOption_run_load generation.source generation.root before).1
  rw [loaded] at seen
  rcases ModelsSeen.exists_of_model? seen.symm with
    ⟨bytes, document, files, siblings, -, parsed, -, rfl⟩
  rcases ne_empty_of_textual textual with ⟨given, named⟩
  rw [← sourced] at given named
  have read : document.IsRead := isRead_of_documentOf? textual parsed
  have orderly : Orderly (LoadedModel.artifacts (LoadedModel.linked { document, siblings })
      generation.target generation.options) :=
    LoadedModel.orderly_artifacts read valid named generation.target
  have same := generation.options.sourced_of_ne given
    (LoadedModel.linked { document, siblings }).document.path
  have plain := orderly.plain
  rw [← same] at plain
  rcases laid_of_run_runGeneration (sound.of_leaves showed) plain generated with
    ⟨prepared, ready, fits, left, laid⟩
  rw [same] at ready fits laid
  have working : after.working = before.working :=
    (closed.working.trans left.working).trans showed.working
  have kept : before.tree.KeepsModels after.tree := by
    have grown := ready.grown
    rw [showed.tree] at grown
    rw [closed.tree]
    refine grown.keepsModels.trans (laid.keepsModels ?_)
    intro path content member
    exact LoadedModel.not_isModelFile_of_file member
  refine ⟨?_, working, seen.symm, ?_, orderly, ready.spelled, fits, ?_⟩
  · have wroteSound : wrote.Sound := ready.sound.of_laid laid
      ⟨rfl, left.output, left.working.trans ready.leaves.working.symm,
        left.environment.trans ready.leaves.environment.symm,
        left.temporary.trans ready.leaves.temporary.symm⟩
    exact wroteSound.of_leaves closed
  · rw [working]
    exact kept.modelsSeen sound.tree seen.symm
  · intro names content found
    rw [closed.tree, working, ← showed.working]
    exact laid.file names content found

/-- How a generated file is listed that was deleted, or given other contents than it had. -/
def IsChange (tree later : FileTree) (base : List String) (path text : String) : Prop :=
  let names := base ++ Text.segments '/' path
  (later.find? names = none ∧ text = path ++ " (missing)") ∨
    ∃ bytes, later.find? names = some (.file bytes) ∧ tree.find? names ≠ some (.file bytes) ∧
      text = path

/-- A state after output was generated: the models are as they were before, as far as the root
can be scanned, and of the files that were generated some may be deleted or have other
contents. -/
structure FollowsUp (before later : Machine) (source root : String) (base : List String)
    (artifacts : List Artifact) : Prop where
  sound : later.Sound
  working : later.working = before.working
  models : (root ≠ "" → later.tree.OpenBelow later.working root) →
    (later.tree.view later.working).modelsSeen source root =
      (before.tree.view before.working).modelsSeen source root
  directories : ∀ path content, .file path content ∈ artifacts →
    later.tree.find? (base ++ (Text.segments '/' path).dropLast) = some .directory
  files : ∀ path content, .file path content ∈ artifacts →
    later.tree.find? (base ++ Text.segments '/' path) ≠ some .directory

theorem isChange_iff {tree later : FileTree} {base : List String} {path text : String}
    {bytes : Bytes}
    (generated : tree.find? (base ++ Text.segments '/' path) = some (.file bytes))
    (file : later.find? (base ++ Text.segments '/' path) ≠ some .directory) :
    IsChange tree later base path text ↔
      later.changeAt? base (Text.segments '/' path) bytes = some text := by
  unfold IsChange FileTree.changeAt?
  simp only [generated, Path.join_segments_slash]
  cases found : later.find? (base ++ Text.segments '/' path) with
  | none => simp [eq_comm]
  | some node =>
      cases node with
      | directory => exact absurd found file
      | file content =>
          by_cases same : content = bytes
          · simp [same]
          · simp [Ne.symm same, eq_comm]

section Later

variable {generation : Generation} {model : LoadedModel} {before after later : Machine}
  (generated : Generated generation model before after)
include generated

/-- What was generated is there at first. -/
theorem Generated.followsUp :
    FollowsUp before after generation.source generation.root
      (Path.way after.working generation.options.resolvedDestination)
      (model.artifacts generation.target generation.options) := by
  have file : ∀ path content,
      .file path content ∈ model.artifacts generation.target generation.options →
      ∃ bytes, after.tree.find? (Path.way after.working generation.options.resolvedDestination ++
        Text.segments '/' path) = some (.file bytes) := by
    intro path content member
    rcases exists_contentAt?_of_mem member with ⟨last, found⟩
    exact ⟨_, generated.files _ last found⟩
  refine ⟨generated.sound, generated.working, generated.models, ?_, ?_⟩
  · intro path content member
    rcases file path content member with ⟨bytes, found⟩
    have parent := generated.sound.tree.find?_dropLast found
    rwa [List.dropLast_append_of_ne_nil (Text.segments_ne_nil '/' path)] at parent
  · intro path content member
    rcases file path content member with ⟨bytes, found⟩
    rw [found]
    exact nofun

variable (follows : FollowsUp before later generation.source generation.root
  (Path.way after.working generation.options.resolvedDestination)
  (model.artifacts generation.target generation.options))
include follows

/-- As long as the root can be scanned, the model that is loaded is that of the output. -/
theorem Generated.loaded_later
    (opened : generation.root ≠ "" → later.tree.OpenBelow later.working generation.root) :
    ((later.tree.view later.working).modelsSeen generation.source generation.root).model?
      later.working generation.source = some model := by
  rw [follows.models opened, follows.working]
  exact generated.loaded

/-- What was generated can be looked for. -/
theorem Generated.visible {path content : String}
    (member : .file path content ∈ model.artifacts generation.target generation.options) :
    later.tree.Visible later.working generation.options.resolvedDestination
      (Text.segments '/' path) := by
  have fits := generated.fits _ member
  have working : later.working = after.working := follows.working.trans generated.working.symm
  refine ⟨by rwa [Path.join_segments_slash], ?_, ?_⟩
  · rw [working]
    exact follows.directories path content member
  · rw [working]
    exact follows.files path content member

end Later

section Changes

variable {artifacts : List Artifact} {tree later : FileTree} {base : List String}
  (generated : ∀ names content, contentAt? artifacts names = some content →
    tree.find? (base ++ names) = some (.file content.toUTF8.toList))
  (files : ∀ path content, .file path content ∈ artifacts →
    later.find? (base ++ Text.segments '/' path) ≠ some .directory)
include generated files

theorem exists_isChange_iff {text : String} :
    (∃ path content, .file path content ∈ artifacts ∧ IsChange tree later base path text) ↔
      ∃ names content, contentAt? artifacts names = some content ∧
        later.changeAt? base names content.toUTF8.toList = some text := by
  constructor
  · rintro ⟨path, content, member, change⟩
    rcases exists_contentAt?_of_mem member with ⟨last, found⟩
    refine ⟨_, last, found, ?_⟩
    exact (isChange_iff (generated _ _ found) (files path content member)).mp change
  · rintro ⟨names, content, found, said⟩
    rcases exists_of_contentAt? found with ⟨path, member, rfl⟩
    refine ⟨path, content, member, ?_⟩
    exact (isChange_iff (generated _ _ found) (files path content member)).mpr said

/-- There is nothing to list if every generated file is as it was. -/
theorem forall_not_isChange_iff :
    (∀ text, ¬ ∃ path content, .file path content ∈ artifacts ∧
      IsChange tree later base path text) ↔
      ∀ path content, .file path content ∈ artifacts →
        later.find? (base ++ Text.segments '/' path) =
          tree.find? (base ++ Text.segments '/' path) := by
  have unchanged : ∀ path content, .file path content ∈ artifacts →
      ((∀ text, ¬ IsChange tree later base path text) ↔
        later.find? (base ++ Text.segments '/' path) =
          tree.find? (base ++ Text.segments '/' path)) := by
    intro path content member
    rcases exists_contentAt?_of_mem member with ⟨last, found⟩
    have file := generated _ _ found
    rw [file, ← FileTree.changeAt?_eq_none_iff, Option.eq_none_iff_forall_ne_some]
    exact forall_congr' fun text => not_congr (isChange_iff file (files path content member))
  constructor
  · intro none path content member
    exact (unchanged path content member).mp fun text change =>
      none text ⟨path, content, member, change⟩
  · rintro same text ⟨path, content, member, change⟩
    exact (unchanged path content member).mpr (same path content member) text change

end Changes

/-- A machine with a model of two entities, and a destination that holds an old file. -/
def staleMachine : Machine where
  tree := ⟨[(["m.ddef"], .file "entity A \x7b \x7d entity B \x7b \x7d".toUTF8.toList),
    (["out"], .directory), (["out", "Old.java"], .file []), (["tmp"], .directory)]⟩

/-- The machine where, of the files that were generated, the first was deleted and the other
emptied. -/
def editedMachine : Machine where
  tree := ⟨[(["m.ddef"], .file "entity A \x7b \x7d entity B \x7b \x7d".toUTF8.toList),
    (["out"], .directory), (["out", "B.java"], .file []), (["out", "Old.java"], .file []),
    (["tmp"], .directory)]⟩

/-- A quiet generation of the two entities, with a root. -/
def staleGeneration : Generation :=
  .ofConfig (({ destination := "out", root := ".", quiet := true } : Overrides).apply {}) "m.ddef"
    .java

/-- A quiet generation from a model, into a destination. -/
def quietGeneration (destination : String) : Generation :=
  .ofConfig (({ destination, quiet := true } : Overrides).apply {}) "m.ddef" .java

end Cli

end DomainGen
