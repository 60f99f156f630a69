import DomainGen.Diagnostic

/-!
# Failures

Why an operation did not succeed: a cause and, around it, what each caller
added.  Callers add messages, hints and details for the user, and marks that
later code asks for.

Failures are told apart by what they say and by the kind of their innermost
cause, never by identity: a failure that says the same as a well-known one and
has a cause of the same kind counts as that one.  A mark makes a failure count
as another one, such as a well-known one, whatever it says.
-/

namespace DomainGen

/-- The well-known failures. -/
inductive Sentinel where
  | invalidTarget | parse | unsupportedInput | outOfDate | reported | canceled
  deriving Repr, DecidableEq, Inhabited

/-- What a well-known failure says. -/
def Sentinel.text : Sentinel → String
  | invalidTarget => "invalid target"
  | parse => "parse error"
  | unsupportedInput => "unsupported input"
  | outOfDate => "generated output is out of date"
  | reported => "error already reported"
  | canceled => "context canceled"

/-- Why the file system refused an operation.  The last three depend on users and devices: a
file tree in memory, which everyone may read and change and which is never full, does not know
them. -/
inductive Refusal where
  | missing | isDirectory | notDirectory | alreadyExists | nameTooLong | notEmpty | invalid
  | denied | noSpace | broken
  deriving Repr, DecidableEq, Inhabited

namespace Refusal

/-- A refusal in words. -/
def text : Refusal → String
  | missing => "no such file or directory"
  | isDirectory => "is a directory"
  | notDirectory => "not a directory"
  | alreadyExists => "file exists"
  | nameTooLong => "file name too long"
  | notEmpty => "directory not empty"
  | invalid => "invalid argument"
  | denied => "permission denied"
  | noSpace => "no space left on device"
  | broken => "input/output error"

/-- Whether this happens to files that are open already. -/
def isLate : Refusal → Bool
  | noSpace | broken => true
  | _ => false

end Refusal

/-- The kind of an innermost cause. -/
inductive CauseKind where
  | message
  | canceled
  | malformed
  | system
  | external
  deriving Repr, DecidableEq, Inhabited

/-- Why an operation did not succeed. -/
inductive Failure where
  /-- A message of this program. -/
  | message (text : String)
  /-- A well-known failure. -/
  | sentinel (which : Sentinel)
  /-- Malformed input, by itself or as a case of the well-known parse failure. -/
  | malformed (diagnostic : Diagnostic) (parse : Bool)
  /-- A refused file operation on one or two paths. -/
  | system (operation : String) (paths : List String) (refusal : Refusal)
  /-- A failure that is only known by its text. -/
  | external (text : String)
  /-- A message in front of a cause. -/
  | context (text : String) (cause : Failure)
  /-- Advice for the user. -/
  | hint (text : String) (cause : Failure)
  /-- Further information for the user. -/
  | detail (text : String) (cause : Failure)
  /-- The failure counts as another one too. -/
  | likened (reference cause : Failure)
  /-- The place where the failure passed through was noted. -/
  | trace (cause : Failure)
  deriving Repr, DecidableEq, Inhabited

namespace Failure

/-- The failure counts as a well-known one too. -/
abbrev mark (which : Sentinel) (cause : Failure) : Failure := likened (sentinel which) cause

/-- Whether the failure was made by this program, as opposed to one it was only
told of. -/
def isOwn : Failure → Bool
  | message _ | sentinel _ => true
  | context .. | hint .. | detail .. | likened .. | trace _ => true
  | malformed .. | system .. | external _ => false

/-- A text without empty lines. -/
def squeezed (text : String) : String :=
  Text.join "\n" ((Text.lines text).filter (· ≠ ""))

/-- The parts of what a failure says: the messages in front of the cause, outermost
first, then what the cause itself says. -/
def parts : Failure → List String
  | message text | external text => [text]
  | sentinel which => [which.text]
  | malformed diagnostic _ => [diagnostic.text]
  | system operation paths refusal =>
      if operation = "" then [refusal.text]
      else [operation ++ " " ++ Text.join " " paths, refusal.text]
  | context text cause => text :: cause.parts
  | hint _ cause | detail _ cause | likened _ cause | trace cause => cause.parts

/-- The parts of a failure in one text, without empty parts and empty lines. -/
def summary (failure : Failure) : String :=
  Text.join ": " ((failure.parts.map squeezed).filter (· ≠ ""))

/-- What a failure says.  A message in front of a failure of this program is
followed by its summary, in front of any other by what that says. -/
def text : Failure → String
  | message text | external text => text
  | sentinel which => which.text
  | malformed diagnostic _ => diagnostic.text
  | system operation paths refusal =>
      if operation = "" then refusal.text
      else operation ++ " " ++ Text.join " " paths ++ ": " ++ refusal.text
  | context text cause =>
      if text = "" then cause.text
      else text ++ ": " ++ (if cause.isOwn then cause.summary else cause.text)
  | hint _ cause | detail _ cause | likened _ cause | trace cause => cause.text

/-- A failure and the failures inside it, outermost first. -/
def chain : Failure → List Failure
  | malformed diagnostic parse =>
      malformed diagnostic parse :: if parse then [sentinel .parse] else []
  | context text cause => context text cause :: cause.chain
  | hint text cause => hint text cause :: cause.chain
  | detail text cause => detail text cause :: cause.chain
  | likened reference cause => likened reference cause :: cause.chain
  | trace cause => trace cause :: cause.chain
  | other => [other]

/-- What the innermost cause says. -/
def rootText (failure : Failure) : String :=
  match failure.chain.getLast? with
  | some (system _ _ refusal) => refusal.text
  | some root => root.text
  | none => ""

/-- The kind of the innermost cause. -/
def causeKind : Failure → CauseKind
  | message _ => .message
  | sentinel which => if which = .canceled then .canceled else .message
  | malformed _ parse => if parse then .message else .malformed
  | system .. => .system
  | external _ => .external
  | context _ cause | hint _ cause | detail _ cause | likened _ cause | trace cause =>
      cause.causeKind

/-- What a failure is recognised by: its text and the kind of its innermost
cause, or what the failure is recognised by that it is likened to. -/
def identity : Failure → String × CauseKind
  | likened reference _ => reference.identity
  | failure => (failure.text, failure.causeKind)

/-- Whether a failure, or one inside it, counts as a well-known one. -/
def counts (failure : Failure) (which : Sentinel) : Bool :=
  failure.chain.any fun link => link.identity == (sentinel which).identity

/-- The malformed input a failure is about. -/
def diagnostic? (failure : Failure) : Option Diagnostic :=
  failure.chain.findSome? fun
    | malformed diagnostic _ => some diagnostic
    | _ => none

/-- Whether the innermost cause is a file that does not exist. -/
def isMissingFile (failure : Failure) : Bool :=
  match failure.chain.getLast? with
  | some (system _ _ .missing) => true
  | _ => false

/-- The advice for the user, innermost first, without empty or repeated ones. -/
def hints (failure : Failure) : List String :=
  failure.chain.reverse.foldl
    (fun found link => match link with
      | hint text _ => if text = "" || text ∈ found then found else found ++ [text]
      | _ => found) []

/-- The further information for the user, innermost first. -/
def details (failure : Failure) : List String :=
  failure.chain.reverse.filterMap fun
    | detail text _ => some text
    | _ => none

/-- An unknown target. -/
def invalidTarget (text : String) : Failure :=
  hint "supported targets: java, ts" (mark .invalidTarget (message text))

/-- Malformed model source. -/
def ofDiagnostic (diagnostic : Diagnostic) : Failure := malformed diagnostic true

end Failure

/-- The exit status of the program: 0 without a failure, 1 when generated output
is out of date, 3 for an invalid target, else 2. -/
def exitStatus : Option Failure → Nat
  | none => 0
  | some failure =>
      if failure.counts .outOfDate then 1
      else if failure.counts .invalidTarget then 3
      else 2

end DomainGen
