import DomainGen.Config.Store
import DomainGen.Generate.Compare
import DomainGen.Generate.Run
import DomainGen.Terminal

/-!
# Generating from the command line

What a command line and the configuration ask to generate, one generation run
with its messages, the comparison with earlier output, and regeneration while
files are watched.
-/

namespace DomainGen.Cli

open Terminal (Styling)

/-- How a run speaks to the user. -/
structure Voice where
  styling : Styling
  verbosity : Int
  deriving Repr, DecidableEq, Inhabited

/-- What a command line asks for; an empty text asks for nothing. -/
structure Overrides where
  target : String := ""
  destination : String := ""
  root : String := ""
  rootPackage : String := ""
  quiet : Bool := false
  deriving Repr, DecidableEq, Inhabited

/-- What is to be generated, and how. -/
structure Generation where
  source : String
  root : String
  quiet : Bool
  /-- How long to wait for further changes while watching, in nanoseconds. -/
  debounce : Int
  target : Target
  options : GenerateOptions
  deriving Repr, DecidableEq, Inhabited

/-- The configuration with what a command line asks for in place of what it
says. -/
def Overrides.apply (overrides : Overrides) (config : Config) : Config :=
  { config with
    target := Target.normalize (Text.orElse overrides.target config.target)
    destination := Text.orElse overrides.destination config.destination
    root := Text.orElse overrides.root config.root
    rootPackage := Text.orElse overrides.rootPackage config.rootPackage
    quiet := config.quiet || overrides.quiet }

/-- What a configuration and a command line ask to generate. -/
def resolve (config : Config) (source : String) (overrides : Overrides) :
    Except Failure Generation := do
  let config := overrides.apply config
  config.validate
  match Target.ofSelector? config.target with
  | none => throw (.invalidTarget ("invalid target: " ++ config.target))
  | some target =>
      return {
        source
        root := config.root
        quiet := config.quiet
        debounce := config.debounce
        target
        options :=
          { source, destination := config.destination, rootPackage := config.rootPackage } }

section

variable {m : Type → Type} [Monad m] [Disk m] [Process m] [Journal m] [Console m]

/-- The configuration that the commands of a process share. -/
def loadConfig (cache : Config.Cache) : m (Except Failure Config × Config.Cache) := do
  let (result, cache) ← Config.load cache
  return (result.mapError (.context "failed to load config"), cache)

/-- What the configuration of the process and a command line ask to generate. -/
def resolveGeneration (cache : Config.Cache) (source : String) (overrides : Overrides) :
    m (Except Failure Generation × Config.Cache) := do
  let (result, cache) ← loadConfig cache
  return (result.bind fun config => resolve config source overrides, cache)

/-- Show a failure, unless nothing is to be said, and note that it was. -/
def reported {α : Type} (voice : Voice) (quiet : Bool) (action : ExceptT Failure m α) :
    ExceptT Failure m α :=
  ExceptT.mk do
    match ← action.run with
    | .ok value => return .ok value
    | .error failure =>
        if !quiet then Console.printError (Terminal.failure voice.styling failure)
        return .error (.mark .reported failure)

/-- Show a message with its label. -/
def announce (voice : Voice) (label : Terminal.Label) (text : String) : m Unit :=
  Console.print (Terminal.labelled voice.styling label text)

/-- Show what was found out about a model. -/
def printDiagnostics (voice : Voice) (diagnostics : List Diagnostic) : m Unit := do
  if Verbosity.shows voice.verbosity (some .diagnostics) then
    for diagnostic in diagnostics do
      Console.printError (Terminal.diagnostic voice.styling diagnostic ++ "\n")

/-- Load the model, write what is generated from it, and say so. -/
def Generation.run (generation : Generation) (voice : Voice) : ExceptT Failure m Unit := do
  let start ← (Process.milliseconds : m Nat)
  let model ← load generation.source generation.root
  if !generation.quiet then
    (printDiagnostics voice model.document.diagnostics : m Unit)
  let result ← runGeneration (pure false) generation.target model generation.options
  let finish ← (Process.milliseconds : m Nat)
  (note .info "" "Generated"
    [("target", .text generation.target.language), ("source", .text generation.source),
      ("path", .text result.path), ("count", .int result.files.length),
      ("duration_ms", .int (finish - start : Nat))] : m Unit)
  if !generation.quiet then
    if Verbosity.shows voice.verbosity (some .artifacts) then
      for file in result.files do
        (Console.print ("  wrote " ++ file ++ "\n") : m Unit)
    if Verbosity.shows voice.verbosity (some .timing) then
      (announce voice .info ("Finished in " ++ toString (finish - start) ++ "ms") : m Unit)
    (announce voice .success
      (result.label ++ " generated successfully in: " ++ result.path) : m Unit)

/-- Say what differs from earlier output, and fail if anything does. -/
def Generation.report (generation : Generation) (voice : Voice) (existing : String)
    (differences : List String) : ExceptT Failure m Unit := do
  let subject := generation.target.label ++ " in " ++ existing
  if differences.isEmpty then
    if !generation.quiet then
      (announce voice .success (subject ++ " are up to date") : m Unit)
  else
    if !generation.quiet then
      (announce voice .warning (subject ++ " are out of date:") : m Unit)
      for file in differences do
        (Console.print ("  - " ++ file ++ "\n") : m Unit)
    throw (.hint ("run 'ddgen generate " ++ generation.source ++ "' to update")
      (.mark .outOfDate (.message (toString differences.length ++
        " generated file(s) differ from " ++ existing))))

/-- Do something with a directory of its own, which is removed afterwards. -/
def withTemporary {α : Type} (action : String → ExceptT Failure m α) : ExceptT Failure m α := do
  let directory ← (Disk.attempt "mkdir" ["ddgen-check"] Disk.makeTemporary).adapt
    (.context "failed to create temp directory")
  ExceptT.mk do
    let result ← (action directory).run
    Disk.removeAll directory
    return result

/-- Generate into a directory of its own and compare with earlier output. -/
def Generation.check (generation : Generation) (voice : Voice) (against : String) :
    ExceptT Failure m Unit := do
  let existing := Text.orElse against generation.options.resolvedDestination
  withTemporary fun directory => do
    let fresh := { generation with
      quiet := true
      options := { generation.options with destination := directory } }
    fresh.run voice
    let differences ← (compareDirectories directory existing).adapt
      (.context "failed to compare directories")
    generation.report voice existing differences

/-- A generation that is repeated whenever watched files change. -/
structure WatchSession where
  generation : Generation
  voice : Voice
  watcher : Watcher
  state : Watcher.State := {}
  deriving Repr, DecidableEq, Inhabited

/-- Generate once; a failure is shown and handed on. -/
def Generation.regenerate (generation : Generation) (voice : Voice) : m (Option Failure) := do
  match ← (generation.run voice).run with
  | .ok _ => return none
  | .error failure =>
      if !generation.quiet then Console.printError (Terminal.failure voice.styling failure)
      return some failure

/-- Generate once, then begin to watch.  Only that files cannot be watched is a
failure. -/
def Generation.watch (generation : Generation) (voice : Voice) :
    ExceptT Failure m WatchSession := do
  let _ ← (generation.regenerate voice : m (Option Failure))
  let files ← watchedFiles generation.source generation.root
  let watcher ← Watcher.create files generation.debounce
  if !generation.quiet then
    (announce voice .info ("Watching " ++ toString files.length ++
      " model file(s), press Ctrl+C to stop") : m Unit)
  return { generation, voice, watcher }

/-- Take up a signal, and generate again when it is time to. -/
def WatchSession.handle (session : WatchSession) (signal : Watcher.Signal) :
    m WatchSession := do
  let again : m (Option Failure) := session.generation.regenerate session.voice
  return { session with state := ← session.watcher.attend again session.state signal }

end

end DomainGen.Cli
