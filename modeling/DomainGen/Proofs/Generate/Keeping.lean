import DomainGen.Proofs.Generate.Runs
import DomainGen.Proofs.Host.Rewriting

/-!
# What generation runs keep

A generation run creates directories, writes the files of its output, and logs details.  What
each of these keeps, the run keeps, whether it is finished, fails or is cancelled
(`keeps_runGeneration`).
-/

namespace DomainGen.Machine

variable {holds : Machine → Prop} {destination : String}
  (noting : ∀ logger message fields,
    Keeps holds (liftM (note .debug logger message fields : StateM Machine Unit)))
  (making : ∀ path, Keeps holds (Disk.makeDirectories path))
include noting making

theorem keeps_writeArtifact {artifact : Artifact}
    (writing : ∀ path content, artifact = .file path content →
      Keeps holds (Disk.writeFile (Path.under destination path) content.toUTF8.toList)) :
    Keeps holds (writeArtifact destination artifact) := by
  cases artifact with
  | directory path => exact keeps_adapt (making _) _
  | file path content =>
      exact keeps_bind (keeps_adapt (writing path content rfl) _) fun _ => noting _ _ _

section Cancelled

variable {cancelled : StateM Machine Bool} (asking : Keeps holds (liftM cancelled))
include asking

/-- A run can end before each piece of output. -/
theorem keeps_writeEach {artifacts : List Artifact}
    (writing : ∀ path content, .file path content ∈ artifacts →
      Keeps holds (Disk.writeFile (Path.under destination path) content.toUTF8.toList)) :
    Keeps holds (writeEach cancelled destination artifacts) := by
  induction artifacts with
  | nil => exact keeps_pure ()
  | cons artifact rest ih =>
      refine keeps_bind asking fun stop => ?_
      cases stop with
      | true => exact keeps_throw _
      | false =>
          refine keeps_bind (keeps_writeArtifact noting making ?_) fun _ => ih ?_
          · rintro path content rfl
            exact writing path content List.mem_cons_self
          · exact fun path content member => writing path content (List.mem_cons_of_mem _ member)

theorem keeps_writeArtifacts {artifacts : List Artifact}
    (writing : ∀ path content, .file path content ∈ artifacts →
      Keeps holds (Disk.writeFile (Path.under destination path) content.toUTF8.toList)) :
    Keeps holds (writeArtifacts cancelled destination artifacts) :=
  keeps_bind (keeps_adapt (making _) _) fun _ => keeps_writeEach noting making asking writing

/-- What holds of a machine still holds after a generation run, if every step of it keeps it. -/
theorem keeps_runGeneration {target : Target} {model : LoadedModel} {options : GenerateOptions}
    (writing : let options' := options.sourced model.document.path
      ∀ path content, .file path content ∈ model.artifacts target options' →
        Keeps holds (Disk.writeFile (Path.under options'.resolvedDestination path)
          content.toUTF8.toList)) :
    Keeps holds (runGeneration cancelled target model options) := by
  refine keeps_bind (keeps_lift fun _ held => held) fun _ => ?_
  refine keeps_bind (noting _ _ _) fun _ => ?_
  refine keeps_bind (keeps_writeArtifacts noting making asking writing) fun _ => ?_
  refine keeps_bind (keeps_lift fun _ held => held) fun _ => ?_
  exact keeps_bind (noting _ _ _) fun _ => keeps_pure _

end Cancelled

end DomainGen.Machine
