import DomainGen.Generate.Run
import DomainGen.Proofs.Host.Contents
import DomainGen.Proofs.Host.Trials

/-!
# Writing that is interrupted

Output is written piece by piece, on a machine on which any operation can fail, in a run that
can be cancelled before any piece.  Wherever the writing ends, the files are as if the first
pieces had been put in place one after the other, and nothing had been done for the others
(`applied_of_run_writeArtifacts`).  Only where the device fails in the middle of a file is that
one file torn (`Artifact.Torn`).  In particular every file that is not in the place of a piece
is as before, and no directory is gone.

Output that was written in full can be written again.  All its places are there by then,
and each file goes through the same contents to the same end.
-/

namespace DomainGen

/-! ## Pieces of output by their places -/

/-- What a piece of output is. -/
def Artifact.kind : Artifact → EntryKind
  | .directory _ => .directory
  | .file _ _ => .file

/-- The contents of the files where a piece was put in its place below a destination. -/
def Artifact.applyTo (working destination : String) (contents : List String → Option Bytes) :
    Artifact → List String → Option Bytes
  | .directory _ => contents
  | .file path content =>
      Function.update contents (Path.way working (Path.under destination path))
        (some content.toUTF8.toList)

/-- A piece of output was torn: writing its file broke off, and left the beginning of what
should be in it. -/
inductive Artifact.Torn (working destination : String) (faults : List (Option Trial.Fault))
    (before after : List String → Option Bytes) : Artifact → Prop where
  | file {path content : String} (length : Nat) (refusal : Refusal)
      (broke : some (.brokenOff length refusal) ∈ faults)
      (left : after = Function.update before (Path.way working (Path.under destination path))
        (some (content.toUTF8.toList.take length))) :
      Torn working destination faults before after (.file path content)

/-- The contents of the files where pieces were put in their places in order. -/
def applyAll (working destination : String) (artifacts : List Artifact)
    (contents : List String → Option Bytes) : List String → Option Bytes :=
  artifacts.foldl (Artifact.applyTo working destination) contents

/-- The contents that a piece has for the file at a place. -/
def Artifact.contentFor? (working destination : String) (names : List String) :
    Artifact → Option Bytes
  | .directory _ => none
  | .file path content =>
      if Path.way working (Path.under destination path) = names then some content.toUTF8.toList
      else none

namespace Artifact.Torn

variable {working destination : String} {faults : List (Option Trial.Fault)}
  {before after : List String → Option Bytes} {artifact : Artifact}
  (torn : artifact.Torn working destination faults before after)
include torn

theorem mono {earlier : List (Option Trial.Fault)} (later : faults <:+ earlier) :
    artifact.Torn working destination earlier before after := by
  cases torn with
  | file length refusal broke left => exact .file length refusal (later.subset broke) left

theorem exists_brokenOff : ∃ length refusal, some (.brokenOff length refusal) ∈ faults := by
  cases torn with
  | file length refusal broke left => exact ⟨length, refusal, broke⟩

/-- No other file is torn. -/
theorem eq_of_ne {names : List String}
    (apart : ∀ path content, artifact = .file path content →
      Path.way working (Path.under destination path) ≠ names) : after names = before names := by
  cases torn with
  | @file path content length refusal broke left =>
      rw [left, Function.update_of_ne (apart path content rfl).symm]

end Artifact.Torn

section Apply

variable (working destination : String)

/-- The last piece for a place decides. -/
theorem applyAll_apply (artifacts : List Artifact) (contents : List String → Option Bytes)
    (names : List String) :
    applyAll working destination artifacts contents names =
      (artifacts.reverse.findSome? (Artifact.contentFor? working destination names)).or
        (contents names) := by
  induction artifacts using List.reverseRecOn with
  | nil => rfl
  | append_singleton artifacts last ih =>
      rw [applyAll, List.foldl_append, List.foldl_cons, List.foldl_nil, ← applyAll,
        List.reverse_append, List.reverse_singleton, List.singleton_append, List.findSome?_cons]
      cases last with
      | directory path => exact ih
      | file path content =>
          rw [Artifact.applyTo, Artifact.contentFor?, Function.update_apply]
          by_cases same : Path.way working (Path.under destination path) = names
          · rw [if_pos same.symm, if_pos same, Option.some_or]
          · rw [if_neg (Ne.symm same), if_neg same, ih]

/-- What is put in place again changes nothing. -/
theorem applyAll_applyAll (artifacts : List Artifact) (contents : List String → Option Bytes) :
    applyAll working destination artifacts (applyAll working destination artifacts contents) =
      applyAll working destination artifacts contents := by
  funext names
  rw [applyAll_apply, applyAll_apply, ← Option.or_assoc, Option.or_self]

variable {working destination}

theorem applyAll_of_forall_ne {artifacts : List Artifact} {names : List String}
    (apart : ∀ path content, .file path content ∈ artifacts →
      Path.way working (Path.under destination path) ≠ names)
    (contents : List String → Option Bytes) :
    applyAll working destination artifacts contents names = contents names := by
  have nothing : artifacts.reverse.findSome? (Artifact.contentFor? working destination names) =
      none := by
    rw [List.findSome?_eq_none_iff]
    intro artifact member
    cases artifact with
    | directory path => rfl
    | file path content => exact if_neg (apart path content (List.mem_reverse.mp member))
  rw [applyAll_apply, nothing, Option.none_or]

theorem applyAll_of_last {front back : List Artifact} {path content : String}
    (last : ∀ other text, .file other text ∈ back →
      Path.way working (Path.under destination other) ≠
        Path.way working (Path.under destination path))
    (contents : List String → Option Bytes) :
    applyAll working destination (front ++ .file path content :: back) contents
      (Path.way working (Path.under destination path)) = some content.toUTF8.toList := by
  have parts : applyAll working destination (front ++ .file path content :: back) contents =
      applyAll working destination back (Artifact.applyTo working destination
        (applyAll working destination front contents) (.file path content)) := by
    rw [applyAll, List.foldl_append]
    rfl
  rw [parts, applyAll_of_forall_ne last, Artifact.applyTo, Function.update_self]

end Apply

/-! ## One piece -/

namespace Machine

/-- What writing leaves of a machine: the same stands in its files as before, perhaps with
other contents and with more beside it. -/
structure Retains (before after : Machine) : Prop where
  leaves : Leaves before after.tree before.output after
  wellFormed : after.tree.WellFormed
  kinds : before.tree.KeepsKinds after.tree

/-- A piece of output is in its place below a destination. -/
def Holds (machine : Machine) (destination : String) (artifact : Artifact) : Prop :=
  (machine.tree.node machine.working (Path.under destination artifact.path)).map (·.kind) =
    .ok artifact.kind

/-- A file that is in its place can be read. -/
theorem Holds.exists_read {machine : Machine} {destination path content : String}
    (there : machine.Holds destination (.file path content)) :
    ∃ bytes, machine.tree.read machine.working (Path.under destination path) = .ok bytes := by
  obtain ⟨node, found, kind⟩ := exists_of_map_eq_ok there
  cases node with
  | directory => cases kind
  | file bytes => exact ⟨bytes, FileTree.node_eq_file_iff.mp found⟩

namespace Retains

variable {first second third : Machine}

theorem refl (sound : first.Sound) : Retains first first :=
  ⟨.refl first, sound.tree, .refl _⟩

theorem trans (one : Retains first second) (two : Retains second third) : Retains first third := by
  refine ⟨?_, two.wellFormed, one.kinds.trans two.kinds⟩
  have later := two.leaves
  rw [one.leaves.output] at later
  exact one.leaves.trans later

variable (keeps : Retains first second)
include keeps

theorem sound (sound : first.Sound) : second.Sound :=
  sound.of_directories keeps.wellFormed keeps.kinds.hasDirectories keeps.leaves

theorem holds {destination : String} {artifact : Artifact}
    (holds : first.Holds destination artifact) : second.Holds destination artifact := by
  have kept := keeps.kinds.node holds
  rwa [← keeps.leaves.working] at kept

end Retains

end Machine

namespace Trial

open Machine (Retains)

theorem Grows.keeps {before after : Trial} (grows : Grows before after) :
    Retains before.machine after.machine :=
  ⟨grows.leaves, grows.grown.wellFormed, grows.grown.keepsKinds⟩

section Step

variable {trial after : Trial} (sound : trial.machine.Sound) {destination : String}
include sound

/-- Contents that are given to a file stand there, and everything else stays. -/
theorem retains_of_write {path : String} {bytes : Bytes} (follows : Follows trial after)
    (written : trial.machine.tree.write trial.machine.working path bytes =
      .ok after.machine.tree) :
    Retains trial.machine after.machine ∧
      after.machine.tree.contents = Function.update trial.machine.tree.contents
        (Path.way trial.machine.working path) (some bytes) ∧
      (after.machine.tree.node after.machine.working path).map (·.kind) = .ok .file := by
  obtain ⟨place, located, plain, free, put⟩ := FileTree.write_eq_ok_iff.mp written
  have proper : place.names ≠ [] := by
    intro root
    rw [root] at free
    exact free rfl
  have inside := sound.locate_inside located
  have kinds : trial.machine.tree.KeepsKinds after.machine.tree := by
    rw [put]
    exact FileTree.keepsKinds_put_file free
  refine ⟨⟨follows.leaves, ?_, kinds⟩, ?_, ?_⟩
  · rw [put]
    exact sound.tree.put proper inside.2 inside.1 (.inr free)
  · rw [put, FileTree.contents_put_file proper, FileTree.locate_way located]
  · have found : after.machine.tree.find? place.names = some (.file bytes) := by
      rw [put, FileTree.find?_put _ proper, if_pos rfl]
    rw [follows.leaves.working, FileTree.node_eq_file_iff.mpr (FileTree.read_eq_ok_iff.mpr
      ⟨place, FileTree.locate_mono kinds.hasDirectories located, plain, found⟩)]
    rfl

omit sound in
theorem run_writeFile (path : String) (bytes : Bytes) :
    run (Disk.writeFile path bytes) trial =
      ((attemptWrite path bytes trial).1.mapError (Disk.writeFailure path),
        (attemptWrite path bytes trial).2) := by
  unfold Disk.writeFile run
  simp only [ExceptT.run, ExceptT.mk, bind, StateT.bind, Disk.write]
  cases attemptWrite path bytes trial with
  | mk result after =>
      cases result with
      | ok value => rfl
      | error refusal => rfl

/-- A file is written, or its contents are torn, or nothing is changed. -/
theorem writeFile_keeps {path : String} {bytes : Bytes} {outcome : Except Failure Unit}
    (ran : run (Disk.writeFile path bytes) trial = (outcome, after)) :
    Retains trial.machine after.machine ∧ Follows trial after ∧
      (outcome = .ok () →
        after.machine.tree.contents = Function.update trial.machine.tree.contents
          (Path.way trial.machine.working path) (some bytes) ∧
        (after.machine.tree.node after.machine.working path).map (·.kind) = .ok .file) ∧
      ∀ failure, outcome = .error failure →
        after.machine.tree.contents = trial.machine.tree.contents ∨
        ∃ length refusal, some (.brokenOff length refusal) ∈ trial.faults ∧
          after.machine.tree.contents = Function.update trial.machine.tree.contents
            (Path.way trial.machine.working path) (some (bytes.take length)) := by
  rw [run_writeFile] at ran
  rcases attempted : attemptWrite path bytes trial with ⟨result, last⟩
  rw [attempted] at ran
  cases ran
  obtain ⟨follows, done, undone⟩ := attemptWrite_cases attempted
  cases result with
  | error refusal =>
      obtain same | ⟨length, broke, written⟩ := undone refusal rfl
      · refine ⟨?_, follows, by rintro ⟨⟩, fun _ _ => .inl (by rw [same])⟩
        rw [same]
        exact .refl sound
      · obtain ⟨keeps, contents, -⟩ := retains_of_write sound follows written
        exact ⟨keeps, follows, by rintro ⟨⟩, fun _ _ => .inr ⟨length, refusal, broke, contents⟩⟩
  | ok value =>
      obtain ⟨keeps, contents, there⟩ := retains_of_write sound follows (done rfl)
      exact ⟨keeps, follows, fun _ => ⟨contents, there⟩, by simp⟩

/-- A piece that could be written is in its place.  A piece that could not be written leaves
the contents of all files as they are, unless its own file is torn. -/
theorem writeArtifact_keeps {artifact : Artifact} {outcome : Except Failure Unit}
    (ran : run (writeArtifact destination artifact) trial = (outcome, after)) :
    Retains trial.machine after.machine ∧ Follows trial after ∧
      (outcome = .ok () →
        after.machine.tree.contents =
          artifact.applyTo trial.machine.working destination trial.machine.tree.contents ∧
        after.machine.Holds destination artifact) ∧
      ∀ failure, outcome = .error failure →
        after.machine.tree.contents = trial.machine.tree.contents ∨
        artifact.Torn trial.machine.working destination trial.faults
          trial.machine.tree.contents after.machine.tree.contents := by
  cases artifact with
  | directory path =>
      rcases made : run (Disk.makeDirectories (Path.under destination path).toList) trial with
        ⟨result, last⟩
      obtain ⟨grows, ends⟩ := makeDirectories_grows sound made
      have ran : run ((Disk.makeDirectories (Path.under destination path).toList).adapt
        (.context ("failed to create directory " ++ Path.under destination path))) trial =
          (outcome, after) := ran
      rw [run_adapt, made] at ran
      cases ran
      refine ⟨grows.keeps, grows.toFollows, fun succeeded => ⟨grows.grown.contents_eq, ?_⟩,
        fun _ _ => .inl grows.grown.contents_eq⟩
      cases result with
      | error failure => cases succeeded
      | ok value =>
          have there := ends rfl
          rw [String.ofList_toList] at there
          rw [Machine.Holds, Artifact.path, there]
          rfl
  | file path content =>
      rcases written : run (Disk.writeFile (Path.under destination path) content.toUTF8.toList)
        trial with ⟨result, between⟩
      obtain ⟨keeps, later, done, undone⟩ := writeFile_keeps sound written
      have adapted : run ((Disk.writeFile (Path.under destination path)
          content.toUTF8.toList).adapt
            (.context ("failed to write " ++ Path.under destination path))) trial =
          (result.mapError (.context ("failed to write " ++ Path.under destination path)),
            between) := by
        rw [run_adapt, written]
      rw [writeArtifact, run_bind] at ran
      simp only [Artifact.path, adapted] at ran
      cases result with
      | error failure =>
          cases ran
          refine ⟨keeps, later, by simp, fun _ _ => ?_⟩
          obtain same | ⟨length, refusal, broke, torn⟩ := undone failure rfl
          · exact .inl same
          · exact .inr (.file length refusal broke torn)
      | ok value =>
          obtain ⟨last, noted, same, follows, -⟩ := run_note .debug "typegen" "Wrote artifact"
            [("artifact", .text path), ("path", .text (Path.under destination path)),
              ("bytes", .int (Text.byteLength content))] between
          simp only [mapError_ok, noted] at ran
          cases ran
          obtain ⟨contents, there⟩ := done rfl
          have logged : Retains between.machine after.machine :=
            ⟨follows.leaves, same ▸ keeps.wellFormed, same ▸ .refl _⟩
          refine ⟨keeps.trans logged, later.trans follows, fun _ => ⟨?_, ?_⟩, by simp⟩
          · rw [same, contents]
            rfl
          · rwa [Machine.Holds, same, follows.leaves.working]

end Step

/-! ## All pieces -/

/-- A trial after the run has asked whether it is cancelled. -/
def asked (trial : Trial) : Trial := { trial with cancellations := trial.cancellations.tail }

/-- How writing ends before all pieces are written: the run is cancelled before the next piece,
or that piece cannot be written. -/
inductive Stops (destination : String) (artifact : Artifact) (between after : Trial) :
    Failure → Prop where
  | cancelled (told : between.cancellations.headD false = true) (left : after = between.asked) :
      Stops destination artifact between after
        (.context "generation cancelled" (.sentinel .canceled))
  | failed {failure : Failure} (untold : between.cancellations.headD false = false)
      (ran : run (writeArtifact destination artifact) between.asked = (.error failure, after)) :
      Stops destination artifact between after failure

theorem run_writeEach_cons (destination : String) (artifact : Artifact) (rest : List Artifact)
    (trial : Trial) :
    run (writeEach isCancelled destination (artifact :: rest)) trial =
      if trial.cancellations.headD false then
        (.error (.context "generation cancelled" (.sentinel .canceled)), trial.asked)
      else run (writeArtifact destination artifact >>= fun _ =>
        writeEach isCancelled destination rest) trial.asked := by
  rw [writeEach, run_bind]
  have answered : run (liftM isCancelled) trial =
      (.ok (trial.cancellations.headD false), trial.asked) := rfl
  simp only [answered]
  cases trial.cancellations.headD false with
  | true => rfl
  | false => rfl

section Run

variable {trial after : Trial} {destination : String} {artifacts : List Artifact}
  {outcome : Except Failure Unit}

/-- Writing applies the first pieces.  These are all, or writing ends at the next one, which
may be torn. -/
theorem writeEach_applies (sound : trial.machine.Sound)
    (ran : run (writeEach isCancelled destination artifacts) trial = (outcome, after)) :
    ∃ count ≤ artifacts.length, Retains trial.machine after.machine ∧
      (outcome = .ok () → count = artifacts.length ∧
        after.machine.tree.contents = applyAll trial.machine.working destination artifacts
          trial.machine.tree.contents ∧
        ∀ artifact ∈ artifacts, after.machine.Holds destination artifact) ∧
      ∀ failure, outcome = .error failure → ∃ between artifact,
        run (writeEach isCancelled destination (artifacts.take count)) trial = (.ok (), between) ∧
        between.cancellations = trial.cancellations.drop count ∧
        artifacts[count]? = some artifact ∧ Stops destination artifact between after failure ∧
        let applied := applyAll trial.machine.working destination (artifacts.take count)
          trial.machine.tree.contents
        after.machine.tree.contents = applied ∨
          artifact.Torn trial.machine.working destination trial.faults applied
            after.machine.tree.contents := by
  induction artifacts generalizing trial with
  | nil =>
      cases ran
      exact ⟨0, Nat.le_refl 0, .refl sound, fun _ => ⟨rfl, rfl, by simp⟩, nofun⟩
  | cons artifact rest ih =>
      rw [run_writeEach_cons] at ran
      cases told : trial.cancellations.headD false with
      | true =>
          rw [told, if_pos rfl] at ran
          cases ran
          refine ⟨0, Nat.zero_le _, .refl sound, nofun, ?_⟩
          rintro failure ⟨⟩
          exact ⟨trial, artifact, rfl, rfl, rfl, .cancelled told rfl, .inl rfl⟩
      | false =>
          rw [told, if_neg Bool.false_ne_true, run_bind] at ran
          have ready : trial.asked.machine.Sound := sound
          rcases first : run (writeArtifact destination artifact) trial.asked with
            ⟨result, between⟩
          rw [first] at ran
          obtain ⟨keeps, follows, done, undone⟩ := writeArtifact_keeps ready first
          cases result with
          | error failure =>
              cases ran
              refine ⟨0, Nat.zero_le _, keeps, nofun, ?_⟩
              rintro failure ⟨⟩
              exact ⟨trial, artifact, rfl, rfl, rfl, .failed told first, undone failure rfl⟩
          | ok value =>
              obtain ⟨contents, there⟩ := done rfl
              obtain ⟨count, bound, later, all, stops⟩ := ih (keeps.sound ready) ran
              have next (pieces : List Artifact) :
                  applyAll between.machine.working destination pieces
                      between.machine.tree.contents =
                    applyAll trial.machine.working destination (artifact :: pieces)
                      trial.machine.tree.contents := by
                rw [contents, keeps.leaves.working]
                rfl
              refine ⟨count + 1, Nat.succ_le_succ bound, keeps.trans later, ?_, ?_⟩
              · intro succeeded
                obtain ⟨whole, applied, others⟩ := all succeeded
                exact ⟨congrArg Nat.succ whole, applied.trans (next rest),
                  List.forall_mem_cons.mpr ⟨later.holds there, others⟩⟩
              · intro failure failed
                obtain ⟨last, piece, before, remaining, found, stops, left⟩ :=
                  stops failure failed
                refine ⟨last, piece, ?_, ?_, found, stops, ?_⟩
                · rw [List.take_succ_cons, run_writeEach_cons, told, if_neg Bool.false_ne_true,
                    run_bind, first]
                  exact before
                · rw [remaining, follows.cancellations, asked, List.drop_tail]
                · dsimp only at left
                  rw [next, keeps.leaves.working] at left
                  exact left.imp_right fun torn => torn.mono follows.faults

end Run

/-! ## Writing again -/

/-- On a machine that refuses nothing, nothing is done for a directory that is there. -/
theorem makeDirectories_there {machine : Machine} {path : String}
    (there : machine.tree.node machine.working path = .ok .directory) :
    run (Disk.makeDirectories path.toList) { machine } = (.ok (), { machine }) := by
  have answer : (Disk.kind path : StateM Trial _) { machine } =
      (.ok EntryKind.directory, { machine }) := by
    change ((machine.tree.node machine.working path).map (·.kind), _) = _
    rw [there]
    rfl
  rw [Disk.makeDirectories]
  simp only [run, ExceptT.run, ExceptT.mk, bind, StateT.bind, String.ofList_toList, answer]
  rfl

/-- On a machine that refuses nothing, a file that is there can be written again. -/
theorem writeFile_there {machine : Machine} {path : String} {earlier : Bytes}
    (there : machine.tree.read machine.working path = .ok earlier) (bytes : Bytes) :
    ∃ tree : FileTree, run (Disk.writeFile path bytes) { machine } =
      (.ok (), { machine := { machine with tree } }) ∧ tree.KeepsKinds machine.tree := by
  obtain ⟨place, located, plain, stands⟩ := FileTree.read_eq_ok_iff.mp there
  have put : machine.tree.write machine.working path bytes =
      .ok (machine.tree.put place.names (.file bytes)) :=
    FileTree.write_eq_ok_iff.mpr ⟨place, located, plain, by rw [stands]; exact nofun, rfl⟩
  have changed : attemptWrite path bytes { machine } =
      (.ok (), { machine := { machine with
        tree := machine.tree.put place.names (.file bytes) } }) := by
    simp only [attemptWrite, attempt, act, Disk.write, Machine.change, put, List.tail_nil]
  refine ⟨machine.tree.put place.names (.file bytes), ?_,
    FileTree.keepsKinds_of_put_file stands⟩
  rw [run_writeFile, changed]
  rfl

/-- A piece that is in its place can be written again, and brings nothing new. -/
theorem writeArtifact_again {machine : Machine} {destination : String} {artifact : Artifact}
    (there : machine.Holds destination artifact) :
    ∃ after : Machine, run (writeArtifact destination artifact) { machine } =
      (.ok (), { machine := after }) ∧ after.tree.KeepsKinds machine.tree := by
  cases artifact with
  | directory path =>
      have found : machine.tree.node machine.working (Path.under destination path) =
          .ok .directory := FileTree.node_eq_directory_of_kind there
      have made : run (Disk.makeDirectories (Path.under destination path).toList)
          { machine } = (.ok (), { machine }) := makeDirectories_there found
      refine ⟨machine, ?_, .refl _⟩
      change run ((Disk.makeDirectories (Path.under destination path).toList).adapt _) _ = _
      rw [run_adapt, made]
      rfl
  | file path content =>
      obtain ⟨earlier, found⟩ := there.exists_read
      obtain ⟨tree, written, kept⟩ := writeFile_there found content.toUTF8.toList
      obtain ⟨last, noted, same, follows, quiet⟩ := run_note .debug "typegen" "Wrote artifact"
        [("artifact", .text path), ("path", .text (Path.under destination path)),
          ("bytes", .int (Text.byteLength content))] { machine := { machine with tree } }
      obtain ⟨after, _, _⟩ := last
      obtain rfl : _ = [] := quiet
      obtain rfl : _ = [] := follows.cancellations
      refine ⟨after, ?_, ?_⟩
      · rw [writeArtifact, run_bind]
        simp only [Artifact.path, run_adapt, written, mapError_ok, noted]
      · rw [same]
        exact kept

/-- Pieces that are in their places can all be written again. -/
theorem writeEach_again {machine : Machine} (sound : machine.Sound) {destination : String}
    {artifacts : List Artifact}
    (there : ∀ artifact ∈ artifacts, machine.Holds destination artifact) :
    ∃ after : Machine, run (writeEach isCancelled destination artifacts) { machine } =
      (.ok (), { machine := after }) ∧ after.tree.KeepsKinds machine.tree := by
  induction artifacts generalizing machine with
  | nil => exact ⟨machine, rfl, .refl _⟩
  | cons artifact rest ih =>
      rw [List.forall_mem_cons] at there
      obtain ⟨between, first, kept⟩ := writeArtifact_again there.1
      have start : ({ machine } : Trial).machine.Sound := sound
      obtain ⟨keeps, -, -⟩ := writeArtifact_keeps start first
      obtain ⟨after, ran, later⟩ := ih (keeps.sound sound) fun other member =>
        keeps.holds (there.2 other member)
      refine ⟨after, ?_, later.trans kept⟩
      have untold : ({ machine } : Trial).cancellations.headD false = false := rfl
      have asked : ({ machine } : Trial).asked = { machine } := rfl
      rw [run_writeEach_cons, untold, if_neg Bool.false_ne_true, asked, run_bind, first]
      exact ran

/-- Pieces that were written last as they are now are written again without effect. -/
theorem writeEach_again_eq {machine : Machine} (sound : machine.Sound) {destination : String}
    {artifacts : List Artifact}
    (there : ∀ artifact ∈ artifacts, machine.Holds destination artifact)
    (applied : applyAll machine.working destination artifacts machine.tree.contents =
      machine.tree.contents) :
    ∃ after : Machine, run (writeEach isCancelled destination artifacts) { machine } =
      (.ok (), { machine := after }) ∧ after.tree = machine.tree := by
  obtain ⟨after, ran, kept⟩ := writeEach_again sound there
  have start : ({ machine } : Trial).machine.Sound := sound
  obtain ⟨count, -, keeps, all, -⟩ := writeEach_applies start ran
  obtain ⟨-, contents, -⟩ := all rfl
  exact ⟨after, ran, FileTree.eq_of_contents keeps.wellFormed sound.tree kept keeps.kinds
    (contents.trans applied)⟩

/-! ## The whole output -/

section Whole

variable {trial prepared after : Trial} {destination : String}

/-- Writing begins once the destination is there. -/
theorem run_writeArtifacts
    (made : run (Disk.makeDirectories destination.toList) trial = (.ok (), prepared))
    (artifacts : List Artifact) :
    run (writeArtifacts isCancelled destination artifacts) trial =
      run (writeEach isCancelled destination artifacts) prepared := by
  rw [writeArtifacts, run_bind]
  simp only [run_adapt, made, mapError_ok]

theorem run_writeArtifacts_error {cause : Failure}
    (refused : run (Disk.makeDirectories destination.toList) trial = (.error cause, after))
    (artifacts : List Artifact) :
    run (writeArtifacts isCancelled destination artifacts) trial =
      (.error (.context ("failed to create output directory " ++ destination) cause), after) := by
  rw [writeArtifacts, run_bind]
  simp only [run_adapt, refused]
  rfl

/-- A file that is in the place of a piece has the contents that were put there last. -/
theorem read_of_holds {machine : Machine} {path : String} {content : String} {bytes : Bytes}
    (there : machine.Holds destination (.file path content))
    (contents : machine.tree.contents (Path.way machine.working (Path.under destination path)) =
      some bytes) :
    machine.tree.read machine.working (Path.under destination path) = .ok bytes := by
  obtain ⟨other, found⟩ := there.exists_read
  obtain ⟨place, located, -, stands⟩ := FileTree.read_eq_ok_iff.mp found
  have stands := FileTree.contents_eq_some_iff.mpr stands
  rw [FileTree.locate_way located] at stands
  have same : other = bytes := Option.some.inj (stands.symm.trans contents)
  rwa [← same]

end Whole

end Trial

/-- A directory with a file in it, where operations may fail and the run may be cancelled. -/
def shelfTrial (faults : List (Option Trial.Fault)) (cancellations : List Bool) : Trial where
  machine :=
    { tree := ⟨[(["w"], .directory), (["w", "kept"], .file [7])]⟩
      working := "/w" }
  faults := faults
  cancellations := cancellations

/-- Two files for one place. -/
def shelfPieces : List Artifact :=
  [.directory "a", .file "a/x" "1", .file "a/../a/x" "22"]

end DomainGen
