import DomainGen.Config.Basic
import DomainGen.Data.Basic
import DomainGen.Toml.Writer

/-!
# Configurations in writing

A configuration as data, and as a TOML file.
-/

namespace DomainGen.Config

/-- The settings by section. -/
def sections (config : Config) : List (String × List (String × Data)) :=
  [("generate",
      [("target", .text config.target), ("destination", .text config.destination),
        ("root", .text config.root), ("quiet", .bool config.quiet)]),
    ("java", [("root_package", .text config.rootPackage)]),
    ("log", [("json", .bool config.jsonLog), ("verbosity", .int config.verbosity)]),
    ("watch", [("debounce_ms", .int config.debounceMs)])]

/-- A configuration as a data tree. -/
def data (config : Config) : Data :=
  .record (config.sections.map fun (name, fields) => (name, .record fields))

/-- A configuration as TOML. -/
def toToml (config : Config) : String := Toml.writeTables config.sections

/-- The first line of every written configuration. -/
def title : String := "# ddgen configuration\n"

/-- The comment at the top of a configuration file. -/
def fileHeader : String :=
  title ++ "#
# Precedence (lowest to highest): defaults, ~/.ddgen/ddgen.toml, the nearest
# ddgen.toml above the working directory, DDGEN_* environment variables
# (e.g. DDGEN_GENERATE_TARGET=ts), command line flags.

"

/-- The configuration file that is written to start from. -/
def defaultFile : String := fileHeader ++ toToml {}

end DomainGen.Config
