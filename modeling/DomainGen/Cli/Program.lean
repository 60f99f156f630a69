import DomainGen.Cli.Generation
import DomainGen.Cli.Help
import DomainGen.Cli.Lookup
import DomainGen.Config.Text
import DomainGen.Data.Json
import DomainGen.Model.Form
import DomainGen.Version
import DomainGen.Yaml.Writer

/-!
# The program

From a command line to an exit status.  Malformed command lines are refused
before anything else happens; then the configuration decides how much the run
tells, and the command does its work.
-/

namespace DomainGen.Cli

open Terminal (Styling)

/-- What a run is about to do when its command returns. -/
inductive Outcome where
  /-- The run is over, with an exit status. -/
  | finished (status : Nat)
  /-- The run goes on, watching files. -/
  | watching (session : WatchSession)
  deriving Repr, Inhabited

/-- What a command needs to know: how to speak, what was given, and the
configuration of the process. -/
structure Call where
  voice : Voice
  given : Given
  cache : Config.Cache
  build : BuildInfo
  deriving Repr, Inhabited

namespace Call

/-- The first word of a command line. -/
def word (call : Call) : String := call.given.words.head?.getD ""

/-- What the command line asks to generate. -/
def overrides (call : Call) : Overrides where
  target := call.given.text "target" ""
  destination := call.given.text "destination" ""
  root := call.given.text "root" ""
  rootPackage := call.given.text "package" ""
  quiet := call.given.switch "quiet"

end Call

variable {m : Type → Type} [Monad m] [Disk m] [Process m] [Journal m] [Console m]

/-- What is to be generated.  That this cannot be found out is shown. -/
def resolved (call : Call) : ExceptT Failure m Generation := do
  let (result, _) ← (resolveGeneration call.cache call.word call.overrides :
    m (Except Failure Generation × Config.Cache))
  reported call.voice call.overrides.quiet (ExceptT.mk (pure result))

/-- Generate, once or whenever files change. -/
def runGenerate (call : Call) : ExceptT Failure m (Option WatchSession) := do
  let generation ← resolved call
  if call.given.switch "watch" then
    let session ← reported call.voice generation.quiet (generation.watch call.voice)
    return some session
  else
    reported call.voice generation.quiet (generation.run call.voice)
    return none

/-- Compare earlier output with what would be generated. -/
def runCheck (call : Call) : ExceptT Failure m Unit := do
  let generation ← resolved call
  reported call.voice generation.quiet
    (generation.check call.voice (call.given.text "against" ""))

/-- The summary of a model, one count per line. -/
def summaryText (summary : Summary) : String :=
  let line := fun (label : String) (count : Nat) =>
    "  " ++ Text.padRight 12 (label ++ ":") ++ toString count ++ "\n"
  line "packages" summary.packages ++ line "entities" summary.entities ++
    line "datatypes" summary.dataTypes ++ line "enums" summary.enums ++
    line "unresolved" summary.unresolved

/-- Load a model and show it. -/
def runParse (call : Call) : ExceptT Failure m Unit := do
  let model ← reported call.voice false (load call.word (call.given.text "root" ""))
  if call.given.switch "json" then
    (Console.print model.definitions.toJson : m Unit)
  else if call.given.switch "yaml" then
    (Console.print model.definitions.toYaml : m Unit)
  else
    (announce call.voice .success ("Parsed " ++ model.document.path) : m Unit)
    (Console.print (summaryText model.definitions.summary) : m Unit)
  let diagnostics := model.document.diagnostics
  (printDiagnostics call.voice diagnostics : m Unit)
  let faults := (diagnostics.filter (!·.isWarning)).length
  if 0 < faults then
    throw (.mark .reported
      (.message (toString faults ++ " error(s) in " ++ model.document.path)))

/-- Write a configuration file to start from. -/
def runConfigInit (call : Call) : ExceptT Failure m Unit := do
  let path := match call.given.words with
    | [] => Config.fileName
    | path :: _ =>
        if Path.extension path = "" then Path.under path Config.fileName else path
  reported call.voice false (Config.writeDefault path (call.given.switch "force"))
  (announce call.voice .success ("Wrote " ++ path) : m Unit)

/-- A configuration in a format, if there is such a format. -/
def configText? (format : String) (config : Config) : Option String :=
  match format with
  | "json" => some (config.data.toJson ++ "\n")
  | "yaml" => some (Config.title ++ config.data.toYaml 4)
  | "toml" => some (Config.title ++ config.toToml)
  | _ => none

/-- Warn about keys in configuration files that mean nothing. -/
def warnUnknownKeys (voice : Voice) (files : List String) : m Unit := do
  for file in files do
    match ← (Config.unknownKeys file).run with
    | .error failure =>
        Console.printError (Terminal.labelled voice.styling .warning failure.text)
    | .ok keys =>
        for key in keys do
          Console.printError (Terminal.labelled voice.styling .warning
            (file ++ ": unknown key " ++ Text.quoted key))

/-- Show a configuration and what is wrong with it. -/
def showConfig (call : Call) (files : List String) (config : Config) :
    ExceptT Failure m Unit := do
  let format := call.given.text "format" "toml"
  match configText? format config with
  | none =>
      reported call.voice false (throw (.message ("unsupported format: " ++ format ++
        " (supported: toml, json, yaml)")))
  | some text =>
      (Console.print text : m Unit)
      (warnUnknownKeys call.voice files : m Unit)
      reported call.voice false (ExceptT.mk (pure
        (config.validate.mapError (.context "configuration validation failed"))))

/-- Show the configuration that holds. -/
def runConfigShow (call : Call) : m (Except Failure Unit × Config.Cache) := do
  let (result, cache) ← loadConfig call.cache
  let outcome ← (do
    let config ← reported call.voice false (ExceptT.mk (pure result))
    showConfig call cache.loaded config : ExceptT Failure m Unit).run
  return (outcome, cache)

/-- A build as data. -/
def buildData (build : BuildInfo) : Data :=
  .record [("version", .text build.version), ("commit", .text build.commit),
    ("date", .text build.date), ("modified", .bool build.modified),
    ("go_version", .text build.toolchain), ("platform", .text build.platform)]

/-- Show which build this is. -/
def runVersion (call : Call) : m Unit :=
  Console.print ((if call.given.switch "json" then (buildData call.build).toJson
    else call.build.text) ++ "\n")

private def topicsText (words : List String) : String :=
  let tick := String.singleton (Char.ofNat 96)
  "[" ++ Text.join " " (words.map fun word =>
    if word.toList.any fun c => c.toNat = 96 || c.toNat = 127 || (c.toNat < 32 && c ≠ '\t') then
      Text.quoted word
    else tick ++ word ++ tick) ++ "]"

/-- Show the help text of a command. -/
def runHelp (call : Call) : m Unit :=
  match lookup call.given.words with
  | .ok (command, _) => Console.print (helpText command)
  | .error _ =>
      Console.printError ("Unknown help topic " ++ topicsText call.given.words ++ "\n" ++
        usageText .root)

/-- Do the work of a command. -/
def runCommand (command : Command) (call : Call) : ExceptT Failure m (Option WatchSession) := do
  match command with
  | .generate => runGenerate call
  | .check => runCheck call; return none
  | .parse => runParse call; return none
  | .configInit => runConfigInit call; return none
  | .configShow =>
      let (outcome, _) ← (runConfigShow call : m (Except Failure Unit × Config.Cache))
      ExceptT.mk (pure (outcome.map fun _ => none))
  | .version => (runVersion call : m Unit); return none
  | .help => (runHelp call : m Unit); return none
  | .root | .config | .completion => return none

/-- Whether messages are in colour. -/
def stylingOfRun : m Styling := do
  match ← Process.environmentValue "NO_COLOR" with
  | none => return .colored
  | some "" => return .colored
  | some _ => return .plain

/-- Load the configuration, open the log, and find out how much to tell.  A broken
configuration is left for the command to report. -/
def prepare (build : BuildInfo) (command : Command) (given : Given) : m Call := do
  let styling ← stylingOfRun
  let (result, cache) ← Config.load {}
  let asked := given.count "verbose"
  let (verbosity, json) := match result with
    | .ok config =>
        (max asked config.verbosity, given.switch "log-json" || config.jsonLog)
    | .error _ => (asked, given.switch "log-json")
  Journal.start json (Verbosity.level verbosity)
  note .debug "" "Starting"
    [("command", .text command.path), ("verbosity", .text (Verbosity.name verbosity))]
  if Verbosity.shows verbosity (some .config) then
    for file in cache.loaded do
      Console.printError (Terminal.labelled styling .info ("Using config " ++ file))
  return { voice := { styling, verbosity }, given, cache, build }

/-- Carry out a command line. -/
def execute (build : BuildInfo) (line : List String) :
    ExceptT Failure m (Option WatchSession) := do
  let refuse := fun {α : Type} (result : Except String α) =>
    (ExceptT.mk (pure (result.mapError Failure.external)) : ExceptT Failure m α)
  let (command, rest) ← refuse (lookup line)
  let given ← refuse (readArguments command.knownFlags rest)
  if given.switch "help" || !command.isRunnable then
    (Console.print (helpText command) : m Unit)
    return none
  refuse (command.arity.check given.words.length)
  let call ← (prepare build command given : m Call)
  refuse (checkExclusive command.exclusiveFlags given)
  runCommand command call

/-- Run the program.  A failure that no command has shown is shown here. -/
def run (build : BuildInfo) (line : List String) : m Outcome := do
  match ← (execute build line).run with
  | .ok none => return .finished (exitStatus none)
  | .ok (some session) => return .watching session
  | .error failure =>
      if !failure.counts .reported then
        Console.printError (Terminal.failure (← stylingOfRun) failure)
      return .finished (exitStatus (some failure))

end DomainGen.Cli
