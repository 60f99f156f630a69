import DomainGen.Text.Segments
import DomainGen.Text.Utf8

/-!
# Build information

Which build of the program is running.  What was stamped at build time counts
first; what the build itself recorded fills the gaps.
-/

namespace DomainGen

/-- What is known about a build. -/
structure BuildInfo where
  version : String := ""
  commit : String := ""
  date : String := ""
  /-- Whether the sources differed from the commit. -/
  modified : Bool := false
  toolchain : String := ""
  platform : String := ""
  deriving Repr, DecidableEq, Inhabited

namespace BuildInfo

/-- Take up one recorded setting. -/
def withSetting (info : BuildInfo) (setting : String × String) : BuildInfo :=
  match setting with
  | ("vcs.revision", value) => { info with commit := Text.orElse info.commit value }
  | ("vcs.time", value) => { info with date := Text.orElse info.date value }
  | ("vcs.modified", value) => { info with modified := value == "true" }
  | _ => info

/-- Fill the gaps from what the build recorded.  A development build has no
version of its own. -/
def withRecord (info : BuildInfo) (version : String) (settings : List (String × String)) :
    BuildInfo :=
  let known := if version = "(devel)" then "" else version
  settings.foldl withSetting { info with version := Text.orElse info.version known }

/-- Fill the gaps that are left with words for what is not known. -/
def withDefaults (info : BuildInfo) : BuildInfo :=
  { info with
    version := Text.orElse info.version "dev"
    commit := Text.orElse info.commit "unknown"
    date := Text.orElse info.date "unknown" }

/-- The build on one line, with a short commit. -/
def text (info : BuildInfo) : String :=
  let commit := Text.takeBytes 7 info.commit ++ (if info.modified then "-dirty" else "")
  "ddgen " ++ info.version ++ " (commit " ++ commit ++ ", built " ++ info.date ++ ", " ++
    info.toolchain ++ " " ++ info.platform ++ ")"

end BuildInfo

end DomainGen
