import DomainGen.Yaml.Node
import DomainGen.Yaml.Source
import DomainGen.Yaml.TokenStream

/-!
# Reading a YAML document from its tokens

The first document of a stream as a tree of nodes.  What follows the first
document is not looked at.
-/

namespace DomainGen.Yaml

/-- What an anchor stands for: a node, or a collection that is still being read,
without its contents. -/
inductive Anchored where
  | complete (node : Node)
  | unfinished (outline : Node)
  deriving Repr, Inhabited

/-- What is known while nodes are read: the tokens that are left, the fault that
follows them, the nodes with an anchor, newest first, and the tags that handles
stand for. -/
structure NodeState where
  tokens : List Token
  fault : Option Fault := none
  anchors : List (String × Anchored) := []
  handles : List (String × String) := []
  deriving Repr, Inhabited

/-- A step of reading nodes.  An exception is the problem in words. -/
abbrev NodeReader := StateT NodeState (Except String)

namespace NodeReader

/-- The next token. -/
def peek : NodeReader Token := do
  let s ← get
  match s.tokens, s.fault with
  | token :: _, _ => return token
  | [], some fault => throw fault.message
  | [], none => return ⟨.streamEnd, {}, {}⟩

/-- Take the next token. -/
def skip : NodeReader Unit := modify fun s => { s with tokens := s.tokens.tail }

private def refuse {α : Type} (problem : String) (place : Mark) (context : Mark := {}) :
    NodeReader α :=
  throw (Fault.message { problem, context, place, lexical := false })

private def positionOf (mark : Mark) : Position := ⟨mark.line + 1, mark.column + 1⟩

/-- The scalar that stands where nothing is written. -/
def empty (mark : Mark) : Node := .scalar (positionOf mark) Tag.null.short ""

/-- The properties of a node: its tag and its anchor. -/
structure Properties where
  tag : String := ""
  anchor : Option String := none
  /-- Where the first of them stands. -/
  start : Mark
  deriving Repr, Inhabited

/-- The tag that a handle and a suffix stand for. -/
def resolveTag (start place : Mark) (handle suffix : String) : NodeReader String := do
  if handle = "" then return suffix
  match (← get).handles.find? (·.1 == handle) with
  | some (_, lead) =>
      if lead ++ suffix = "" then refuse "found undefined tag handle" place start
      else return lead ++ suffix
  | none => refuse "found undefined tag handle" place start

/-- The properties in front of a node. -/
def properties : NodeReader Properties := do
  let first ← peek
  match first.kind with
  | .anchor name =>
      skip
      let second ← peek
      match second.kind with
      | .tag handle suffix =>
          skip
          discard peek
          let tag ← resolveTag first.start second.start handle suffix
          return { tag, anchor := some name, start := first.start }
      | _ => return { anchor := some name, start := first.start }
  | .tag handle suffix =>
      skip
      let second ← peek
      match second.kind with
      | .anchor name =>
          skip
          discard peek
          let tag ← resolveTag first.start first.start handle suffix
          return { tag, anchor := some name, start := first.start }
      | _ =>
          let tag ← resolveTag first.start first.start handle suffix
          return { tag, start := first.start }
  | _ => return { start := first.start }

/-- The short tag of a scalar. -/
def scalarTag (tag text : String) (plain : Bool) : String :=
  if tag != "" && tag != "!" then shortTag tag
  else if !plain then Tag.str.short
  else if text = "<<" then Tag.merge.short
  else (plainTag text).short

/-- The short tag of a collection. -/
def collectionTag (tag : String) (usual : Tag) : String :=
  if tag != "" && tag != "!" then shortTag tag else usual.short

/-- Note what an anchor stands for while it is being read. -/
def openAnchor (anchor : Option String) (outline : Node) : NodeReader Unit :=
  match anchor with
  | none => pure ()
  | some name => modify fun s => { s with anchors := (name, .unfinished outline) :: s.anchors }

/-- Anchors, with the newest unfinished one of a name completed. -/
def complete (name : String) (node : Node) :
    List (String × Anchored) → List (String × Anchored)
  | [] => []
  | (other, .unfinished outline) :: rest =>
      if other == name then (other, .complete node) :: rest
      else (other, .unfinished outline) :: complete name node rest
  | other :: rest => other :: complete name node rest

/-- Note the node that an anchor stands for. -/
def closeAnchor (anchor : Option String) (node : Node) : NodeReader Node := do
  match anchor with
  | none => return node
  | some name =>
      modify fun s => { s with anchors := complete name node s.anchors }
      return node

/-- A collection, which its anchor stands for already while it is read. -/
def collection {α : Type} (anchor : Option String) (build : List α → Node)
    (contents : NodeReader (List α)) : NodeReader Node := do
  openAnchor anchor (build [])
  let found ← contents
  closeAnchor anchor (build found)

/-- A scalar. -/
def scalar (anchor : Option String) (node : Node) : NodeReader Node := do
  openAnchor anchor node
  closeAnchor anchor node

/-- The node that an alias stands for. -/
def aliasNode (mark : Mark) (name : String) : NodeReader Node := do
  match (← get).anchors.find? (·.1 == name) with
  | none => throw ("unknown anchor '" ++ name ++ "' referenced")
  | some (_, .unfinished outline) => return .selfReference (positionOf mark) name outline
  | some (_, .complete node) => return .reference (positionOf mark) name node

mutual

/-- A node.  Block collections are allowed only in block context, and a sequence
without indentation only as part of a block mapping. -/
def node (block indentless : Bool) : Nat → NodeReader Node
  | 0 => throw "too deeply nested"
  | fuel + 1 => do
      let first ← peek
      if let .reference name := first.kind then
        let found ← aliasNode first.start name
        skip
        return found
      let found ← properties
      let token ← peek
      let pos := positionOf found.start
      let sequence := Node.sequence pos (collectionTag found.tag .seq)
      let mapping := Node.mapping pos (collectionTag found.tag .map)
      match token.kind with
      | .scalar text plain =>
          skip
          scalar found.anchor (.scalar pos (scalarTag found.tag text plain) text)
      | .flowSequenceStart =>
          skip
          collection found.anchor sequence (flowItems token.start true fuel)
      | .flowMappingStart =>
          skip
          collection found.anchor mapping (flowEntries token.start true fuel)
      | kind =>
          if indentless && kind = .blockEntry then
            collection found.anchor sequence (indentlessItems fuel)
          else if block && kind = .blockSequenceStart then
            skip
            collection found.anchor sequence (blockItems token.start fuel)
          else if block && kind = .blockMappingStart then
            skip
            collection found.anchor mapping (blockEntries token.start fuel)
          else if found.anchor.isSome || found.tag != "" then
            scalar found.anchor (.scalar pos (scalarTag found.tag "" true) "")
          else refuse "did not find expected node content" token.start found.start

/-- The items of a block sequence through its end. -/
def blockItems (context : Mark) : Nat → NodeReader (List Node)
  | 0 => throw "too deeply nested"
  | fuel + 1 => do
      let token ← peek
      match token.kind with
      | .blockEntry =>
          skip
          let next ← peek
          let item ← if next.kind = .blockEntry || next.kind = .blockEnd then
              pure (empty token.finish)
            else node true false fuel
          let rest ← blockItems context fuel
          return item :: rest
      | .blockEnd => skip; return []
      | _ => refuse "did not find expected '-' indicator" token.start context

/-- The items of a sequence that is not indented. -/
def indentlessItems : Nat → NodeReader (List Node)
  | 0 => throw "too deeply nested"
  | fuel + 1 => do
      let token ← peek
      match token.kind with
      | .blockEntry =>
          skip
          let next ← peek
          let item ← if next.kind = .blockEntry || next.kind = .key || next.kind = .value ||
                next.kind = .blockEnd then
              pure (empty token.finish)
            else node true false fuel
          let rest ← indentlessItems fuel
          return item :: rest
      | _ => return []

/-- The entries of a block mapping through its end. -/
def blockEntries (context : Mark) : Nat → NodeReader (List (Node × Node))
  | 0 => throw "too deeply nested"
  | fuel + 1 => do
      let ends (kind : TokenKind) : Bool :=
        kind = .key || kind = .value || kind = .blockEnd
      let token ← peek
      match token.kind with
      | .key =>
          skip
          let next ← peek
          let key ← if ends next.kind then pure (empty token.finish) else node true true fuel
          let mark ← peek
          let value ← if mark.kind = .value then do
              skip
              let next ← peek
              if ends next.kind then pure (empty mark.finish) else node true true fuel
            else pure (empty mark.start)
          let rest ← blockEntries context fuel
          return (key, value) :: rest
      | .blockEnd => skip; return []
      | _ => refuse "did not find expected key" token.start context

/-- The items of a flow sequence through its end. -/
def flowItems (context : Mark) (first : Bool) : Nat → NodeReader (List Node)
  | 0 => throw "too deeply nested"
  | fuel + 1 => do
      let token ← peek
      if token.kind = .flowSequenceEnd then
        skip
        return []
      if !first then
        if token.kind = .flowEntry then skip
        else refuse "did not find expected ',' or ']'" token.start context
      let token ← peek
      match token.kind with
      | .flowSequenceEnd => skip; return []
      | .key =>
          skip
          let item ← flowPair token.start fuel
          let rest ← flowItems context false fuel
          return item :: rest
      | _ =>
          let item ← node false false fuel
          let rest ← flowItems context false fuel
          return item :: rest

/-- A mapping of one entry inside a flow sequence. -/
def flowPair (start : Mark) : Nat → NodeReader Node
  | 0 => throw "too deeply nested"
  | fuel + 1 => do
      let ends (kind : TokenKind) : Bool := kind = .flowEntry || kind = .flowSequenceEnd
      let token ← peek
      let key ← if token.kind = .value || ends token.kind then do
          skip
          pure (empty token.finish)
        else node false false fuel
      let mark ← peek
      let value ← if mark.kind = .value then do
          skip
          let next ← peek
          if ends next.kind then pure (empty next.start) else node false false fuel
        else pure (empty mark.start)
      discard peek
      return .mapping (positionOf start) Tag.map.short [(key, value)]

/-- The entries of a flow mapping through its end. -/
def flowEntries (context : Mark) (first : Bool) : Nat → NodeReader (List (Node × Node))
  | 0 => throw "too deeply nested"
  | fuel + 1 => do
      let ends (kind : TokenKind) : Bool := kind = .flowEntry || kind = .flowMappingEnd
      let token ← peek
      if token.kind = .flowMappingEnd then
        skip
        return []
      if !first then
        if token.kind = .flowEntry then skip
        else refuse "did not find expected ',' or '\x7d'" token.start context
      let token ← peek
      match token.kind with
      | .flowMappingEnd => skip; return []
      | .key =>
          skip
          let next ← peek
          let key ← if next.kind = .value || ends next.kind then pure (empty next.start)
            else node false false fuel
          let mark ← peek
          let value ← if mark.kind = .value then do
              skip
              let next ← peek
              if ends next.kind then pure (empty next.start) else node false false fuel
            else pure (empty mark.start)
          let rest ← flowEntries context false fuel
          return (key, value) :: rest
      | _ =>
          let key ← node false false fuel
          let mark ← peek
          let rest ← flowEntries context false fuel
          return (key, empty mark.start) :: rest

end

/-- The directives in front of a document. -/
def directives : Nat → (version : Bool) → NodeReader Unit
  | 0, _ => pure ()
  | fuel + 1, version => do
      let token ← peek
      match token.kind with
      | .versionDirective major minor =>
          if version then refuse "found duplicate %YAML directive" token.start
          if major != 1 || minor != 1 then
            refuse "found incompatible YAML document" token.start
          skip
          directives fuel true
      | .tagDirective handle lead =>
          if (← get).handles.any (·.1 == handle) then
            refuse "found duplicate %TAG directive" token.start
          modify fun s => { s with handles := s.handles ++ [(handle, lead)] }
          skip
          directives fuel version
      | _ => pure ()

private def defaultHandles (handles : List (String × String)) : List (String × String) :=
  let addMissing (handles : List (String × String)) (handle lead : String) :=
    if handles.any (·.1 == handle) then handles else handles ++ [(handle, lead)]
  addMissing (addMissing handles "!" "!") "!!" "tag:yaml.org,2002:"

/-- The first document of a stream, if there is one. -/
def document : NodeReader (Option Node) := do
  let fuel := 4 * (← get).tokens.length + 8
  discard peek
  skip
  let token ← peek
  let explicitly := match token.kind with
    | .versionDirective .. | .tagDirective .. | .documentStart => true
    | _ => false
  if token.kind = .streamEnd then return none
  if explicitly then
    directives fuel false
    modify fun s => { s with handles := defaultHandles s.handles }
    let start ← peek
    if start.kind != .documentStart then
      refuse "did not find expected <document start>" start.start
    skip
    let next ← peek
    let bare := match next.kind with
      | .versionDirective .. | .tagDirective .. | .documentStart | .documentEnd | .streamEnd => true
      | _ => false
    let root ← if bare then pure (empty next.start) else node true false fuel
    discard peek
    return some root
  else
    modify fun s => { s with handles := defaultHandles s.handles }
    let root ← node true false fuel
    discard peek
    return some root

end NodeReader

/-- The first document of a stream of bytes. -/
def firstDocument (bytes : List UInt8) : Except String (Option Node) := do
  let chars ← charsOf bytes
  let stream := TokenStream.ofChars chars
  let (root, _) ← NodeReader.document.run { tokens := stream.tokens, fault := stream.fault }
  return root

end DomainGen.Yaml
