import DomainGen.Host.FileTree
import DomainGen.Host.Process
import DomainGen.Log.Sink

/-!
# A machine in memory

Everything that a run can see or change, as a value: files, working directory,
environment, and what was written so far.  The clock of this machine stands
still.
-/

namespace DomainGen

/-- A machine that a program runs on. -/
structure Machine where
  tree : FileTree := {}
  /-- The working directory, as an absolute path. -/
  working : String := "/"
  environment : List (String × String) := []
  /-- Where temporary directories are created. -/
  temporary : String := "/tmp"
  output : String := ""
  errors : String := ""
  /-- The open log.  Without one, entries are dropped. -/
  log : Option LogSink := none
  deriving Repr, DecidableEq, Inhabited

namespace Machine

/-- Ask something of the files. -/
def ask {α : Type} (question : FileTree → String → Except Refusal α) :
    StateM Machine (Except Refusal α) := fun machine =>
  (question machine.tree machine.working, machine)

/-- Change the files, unless the change is refused. -/
def change (action : FileTree → String → Except Refusal FileTree) :
    StateM Machine (Except Refusal Unit) := fun machine =>
  match action machine.tree machine.working with
  | .ok tree => (.ok (), { machine with tree })
  | .error refusal => (.error refusal, machine)

/-- The first path of the form `directory/run-number` that nothing stands at. -/
def freshPath (machine : Machine) : String :=
  let taken := fun number => Except.toBool
    (machine.tree.node machine.working (machine.temporary ++ "/run-" ++ toString number))
  let number := ((List.range (machine.tree.entries.length + 1)).find? (!taken ·)).getD 0
  machine.temporary ++ "/run-" ++ toString number

end Machine

instance : Disk (StateM Machine) where
  kind path := Machine.ask fun tree working => (tree.node working path).map (·.kind)
  look path := Machine.ask fun tree working => (tree.node working path).map (·.kind)
  read path := Machine.ask fun tree working => tree.read working path
  write path bytes := Machine.change fun tree working => tree.write working path bytes
  makeDirectory path := Machine.change fun tree working => tree.makeDirectory working path
  entries path := Machine.ask fun tree working => tree.entriesBelow working path
  remove path := Machine.change fun tree working => tree.remove working path
  rename source target := Machine.change fun tree working => tree.rename working source target
  makeTemporary := fun machine =>
    let path := machine.freshPath
    match machine.tree.makeDirectory machine.working path with
    | .ok tree => (.ok path, { machine with tree })
    | .error refusal => (.error refusal, machine)
  removeAll path := fun machine =>
    ((), { machine with tree := machine.tree.removeAll machine.working path })

instance : Process (StateM Machine) where
  workingDirectory := fun machine => (machine.working, machine)
  environmentValue name := fun machine =>
    ((machine.environment.find? (·.1 == name)).map (·.2), machine)
  milliseconds := pure 0

instance : Journal (StateM Machine) where
  start json least := fun machine => ((), { machine with log := some { json, least } })
  log entry := fun machine =>
    match machine.log with
    | none => ((), machine)
    | some sink =>
        let (text, sink) := sink.append 0 entry
        ((), { machine with errors := machine.errors ++ text, log := some sink })

instance : Console (StateM Machine) where
  print text := fun machine => ((), { machine with output := machine.output ++ text })
  printError text := fun machine => ((), { machine with errors := machine.errors ++ text })

end DomainGen
