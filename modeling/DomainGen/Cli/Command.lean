import DomainGen.Cli.Flag

/-!
# Commands

The commands of the program, what they are called, which flags they know and
how many words they take.  Commands form a tree; the flags of its root are
known to all.
-/

namespace DomainGen.Cli

/-- A command. -/
inductive Command where
  | root | generate | check | parse | config | configInit | configShow | version | help | completion
  deriving Repr, DecidableEq, Inhabited

/-- How many words a command takes. -/
inductive Arity where
  | any
  | exactly (count : Nat)
  | atMost (count : Nat)
  deriving Repr, DecidableEq, Inhabited

/-- Check the number of words. -/
def Arity.check (arity : Arity) (count : Nat) : Except String Unit :=
  match arity with
  | .any => .ok ()
  | .exactly wanted =>
      if count = wanted then .ok ()
      else .error ("accepts " ++ toString wanted ++ " arg(s), received " ++ toString count)
  | .atMost wanted =>
      if count ≤ wanted then .ok ()
      else .error ("accepts at most " ++ toString wanted ++ " arg(s), received " ++ toString count)

namespace Command

/-- The word for a command. -/
def name : Command → String
  | root => "ddgen"
  | generate => "generate"
  | check => "check"
  | parse => "parse"
  | config => "config"
  | configInit => "init"
  | configShow => "show"
  | version => "version"
  | help => "help"
  | completion => "completion"

/-- The word for a command and the words it takes. -/
def usage : Command → String
  | generate => "generate <file>"
  | check => "check <file>"
  | parse => "parse <file>"
  | configInit => "init [path]"
  | help => "help [command]"
  | command => command.name

/-- The command on one line. -/
def summary : Command → String
  | root => "ddgen - domain model code generator"
  | generate => "Generate Java classes or TypeScript definitions from a model"
  | check => "Check if generated code is up to date"
  | parse => "Parse and validate a model"
  | config => "Manage ddgen configuration"
  | configInit => "Write a default configuration file"
  | configShow => "Show the effective configuration"
  | version => "Show ddgen version information"
  | help => "Help about any command"
  | completion => "Generate the autocompletion script for the specified shell"

/-- The command in full. -/
def description : Command → String
  | root => "ddgen - generate Java classes and TypeScript definitions from a domain model.

A model declares packages, entities with features, datatypes (unions of other
types) and enums, either in the textual .ddef language or in YAML.

Available commands:
  generate - Generate Java or TypeScript sources
  check    - Check that generated sources are up to date
  parse    - Parse and validate a model
  config   - Manage ddgen configuration
  version  - Show version information

Examples:
  ddgen generate shop.ddef           # Java classes into ./generated
  ddgen generate shop.ddef -t ts     # TypeScript definitions
  ddgen check shop.ddef              # Fail if ./generated is stale
  ddgen parse shop.ddef              # Show warnings"
  | generate => "Generate code from a domain model (.ddef, .yaml or .yml).

Targets:
  java  - one class, interface or enum per type, in directories mirroring the packages
  ts    - a single <basename>.ts module with interfaces and union types

Output goes to generated/ next to the model unless --destination is set.

Examples:
  ddgen generate shop.ddef                         # Java into ./generated
  ddgen generate shop.ddef -t ts -d web/src/model  # TypeScript module
  ddgen generate shop.ddef --package com.acme      # Java under com/acme
  ddgen generate shop.ddef -r models -w            # Link all models, regenerate on change"
  | check => "Check if generated code matches the current model.

The model is generated into a temporary directory and every generated file
is compared with the file at the same path under --against (default: the
generate destination). Files that only exist under --against are ignored.

Exit codes:
  0 - Generated code is up to date
  1 - Generated code is out of date (differing files listed)
  2 - Error during check

Examples:
  ddgen check shop.ddef                            # Compare with ./generated
  ddgen check shop.ddef -t ts --against web/model  # Compare the TypeScript module"
  | parse => "Parse a model file, link its references and run the validations.

Prints a summary of the model and every diagnostic (unresolved references,
duplicate names, naming warnings). With --json or --yaml the linked model is
dumped instead of the summary.

Examples:
  ddgen parse shop.ddef                 # Summary and warnings
  ddgen parse shop.ddef --yaml          # Convert a .ddef model to YAML
  ddgen parse shop.yaml --json -r .     # JSON dump, linking sibling models"
  | config => "Display and create ddgen configuration.

Configuration sources (in order of precedence):
1. Command line flags
2. Environment variables (DDGEN_* prefix, e.g. DDGEN_GENERATE_TARGET=ts)
3. Project config (nearest ddgen.toml above the working directory)
4. User config (~/.ddgen/ddgen.toml)
5. Default values

Examples:
  ddgen config init                 # Write ./ddgen.toml with defaults
  ddgen config show                 # Show the effective configuration
  ddgen config show --format json   # Same, as JSON"
  | configInit => "Write a ddgen.toml with default values (default path: ./ddgen.toml)"
  | configShow =>
      "Display the configuration after merging all sources, " ++
        "and warn about unknown keys in the loaded files"
  | version => "Display the version, commit, build date and platform of the ddgen binary."
  | help => "Help provides help for any command in the application.
Simply type ddgen help [path to command] for full details."
  | completion => "Generate the autocompletion script for ddgen for the specified shell.
See each sub-command's help for details on how to use the generated script."

private def rootFlag : Flag :=
  { name := "root", letter := some 'r', kind := .text,
    description := "Folder whose model files are linked together with the source" }

private def targetFlag : Flag :=
  { name := "target", letter := some 't', kind := .text,
    description := "Output target: java, ts (default: java)" }

private def packageFlag : Flag :=
  { name := "package", kind := .text, description := "Root Java package, e.g. com.acme" }

/-- The flags of a command itself. -/
def flags : Command → List Flag
  | generate =>
      [{ name := "destination", letter := some 'd', kind := .text,
         description := "Output directory (default: generated/ next to the model)" },
        packageFlag,
        { name := "quiet", letter := some 'q', kind := .switch,
          description := "Suppress all output except the exit status" },
        rootFlag, targetFlag,
        { name := "watch", letter := some 'w', kind := .switch,
          description := "Regenerate whenever the model changes" }]
  | check =>
      [{ name := "against", kind := .text,
         description := "Directory holding the committed output (default: generate destination)" },
        packageFlag,
        { name := "quiet", letter := some 'q', kind := .switch,
          description := "Only report through the exit status" },
        rootFlag, targetFlag]
  | parse =>
      [{ name := "json", kind := .switch, description := "Dump the model as JSON" }, rootFlag,
        { name := "yaml", kind := .switch, description := "Dump the model as YAML" }]
  | configInit =>
      [{ name := "force", letter := some 'f', kind := .switch,
         description := "Overwrite an existing file (the old one is kept as .back1)" }]
  | configShow =>
      [{ name := "format", kind := .text, description := "Output format: toml, json, yaml",
         default := "toml" }]
  | version =>
      [{ name := "json", letter := some 'j', kind := .switch,
         description := "Output version info as JSON" }]
  | _ => []

/-- The flags that every command knows. -/
def globalFlags : List Flag :=
  [{ name := "log-json", kind := .switch, description := "Emit logs as JSON" },
    { name := "verbose", letter := some 'v', kind := .count,
      description := "Increase output verbosity (repeat for more detail: -v, -vv)" }]

/-- The flag that asks for the help text of a command. -/
def helpFlag (command : Command) : Flag :=
  { name := "help", letter := some 'h', kind := .switch,
    description := "help for " ++ command.name }

/-- All flags that a command knows. -/
def knownFlags (command : Command) : List Flag :=
  command.flags ++ [command.helpFlag] ++ globalFlags

/-- Flags of a command of which at most one may be given. -/
def exclusiveFlags : Command → List String
  | parse => ["json", "yaml"]
  | _ => []

/-- How many words a command takes. -/
def arity : Command → Arity
  | generate | check | parse => .exactly 1
  | configInit => .atMost 1
  | _ => .any

/-- The commands below a command, in the order in which they are looked up. -/
def children : Command → List Command
  | root => [generate, check, parse, config, version, help, completion]
  | config => [configInit, configShow]
  | _ => []

/-- The command that a command is below. -/
def parent? : Command → Option Command
  | root => none
  | configInit | configShow => some config
  | _ => some root

/-- Whether a command does something by itself. -/
def isRunnable : Command → Bool
  | root | config | completion => false
  | _ => true

/-- The words that lead to a command. -/
def path : Command → String
  | root => "ddgen"
  | configInit => "ddgen config init"
  | configShow => "ddgen config show"
  | command => "ddgen " ++ command.name

/-- What a help text lists below a command, by name. -/
def listing : Command → List (String × String)
  | completion =>
      ["bash", "fish", "powershell", "zsh"].map fun shell =>
        (shell, "Generate the autocompletion script for " ++ shell)
  | command =>
      (command.children.map fun child => (child.name, child.summary)).mergeSort
        fun one other => one.1 ≤ other.1

end Command

/-- Check that at most one of some flags was given. -/
def checkExclusive (group : List String) (given : Given) : Except String Unit :=
  let used := group.filter given.has
  let shown := fun (names : List String) => "[" ++ Text.join " " names ++ "]"
  if used.length ≤ 1 then .ok ()
  else .error ("if any flags in the group " ++ shown group ++
    " are set none of the others can be; " ++ shown used ++ " were all set")

end DomainGen.Cli
