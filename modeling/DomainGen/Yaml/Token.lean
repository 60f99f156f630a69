/-!
# Tokens of a YAML stream

The stream is seen as a sequence of tokens: marks of the notation, marks that
stand for the indentation (the start and end of block collections), and
scalars.
-/

namespace DomainGen.Yaml

/-- A place in the stream, counted from zero. -/
structure Mark where
  index : Nat := 0
  line : Nat := 0
  column : Nat := 0
  deriving Repr, DecidableEq, Inhabited

/-- What a token is. -/
inductive TokenKind where
  | streamStart
  | streamEnd
  | versionDirective (major minor : Nat)
  | tagDirective (handle start : String)
  | documentStart
  | documentEnd
  | blockSequenceStart
  | blockMappingStart
  | blockEnd
  | flowSequenceStart
  | flowSequenceEnd
  | flowMappingStart
  | flowMappingEnd
  | blockEntry
  | flowEntry
  | key
  | value
  | reference (name : String)
  | anchor (name : String)
  | tag (handle suffix : String)
  | scalar (text : String) (plain : Bool)
  deriving Repr, DecidableEq, Inhabited

/-- A token with the places where it starts and ends. -/
structure Token where
  kind : TokenKind
  start : Mark
  finish : Mark
  deriving Repr, DecidableEq, Inhabited

/-- What is wrong with a stream.  The place of the construct around the problem
counts before that of the problem itself. -/
structure Fault where
  problem : String
  context : Mark := {}
  place : Mark := {}
  /-- Whether the problem is with the characters rather than with the tokens. -/
  lexical : Bool
  deriving Repr, DecidableEq, Inhabited

/-- A fault in words.  Lines are counted from one for characters and from zero
for tokens, and a first line is left out. -/
def Fault.message (fault : Fault) : String :=
  let line := if fault.context.line != 0 then fault.context.line else fault.place.line
  let shown := if fault.lexical then line + 1 else line
  if line == 0 then fault.problem else "line " ++ toString shown ++ ": " ++ fault.problem

end DomainGen.Yaml
