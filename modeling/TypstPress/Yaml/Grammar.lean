import TypstPress.Yaml.Implicit
import TypstPress.Yaml.Node
import TypstPress.Yaml.Scan

/-!
# From tokens to a node

A text holds at most one document, and a document is one node. Anchors name the nodes of the
document, and an alias stands for the node of its anchor; an anchor is used once only. A node that
is left out where one is expected is empty and counts as null.

Every call either takes a token or calls another reader that does, so a multiple of the number of
tokens is enough fuel.
-/

namespace TypstPress.Yaml

/-- What is known while nodes are read. -/
structure Progress where
  tokens : List Token
  /-- The nodes of the anchors. -/
  anchors : List (String × Node) := []
  /-- What the handles of tags stand for. -/
  handles : List (String × String) := []

/-- A reader of tokens. -/
abbrev Reader := StateT Progress (Except Problem)

namespace Reader

/-- Refuses the text. -/
def refuse (rule : String) : Reader α := throw (.malformed rule)

/-- The next token. Where the tokens stop because of a problem, reading stops, too. -/
def peek : Reader Token := do
  match (← get).tokens with
  | .problem p :: _ => throw p
  | t :: _ => pure t
  | [] => refuse "the text is over"

/-- Takes the next token. -/
def take : Reader Unit := modify fun s => { s with tokens := s.tokens.drop 1 }

/-- The handles of every document. -/
def commonHandles : List (String × String) := [("!", "!"), ("!!", Tag.repository)]

/-- The node of a place where none is written. -/
def emptyNode : Node := .scalar .null ""

/-- Gives an anchor to a node. -/
def bindAnchor (anchor : Option String) (node : Node) : Reader Unit :=
  match anchor with
  | none => pure ()
  | some name => modify fun s =>
    { s with anchors := (name, node) :: s.anchors.filter (·.1 != name) }

/-- Checks that an anchor is new. -/
def checkAnchor (anchor : Option String) : Reader Unit := do
  match anchor with
  | none => pure ()
  | some name =>
    if ((← get).anchors.lookup name).isSome then refuse "an anchor is used twice"

/-- The node of an alias. -/
def resolveAlias (name : String) : Reader Node := do
  match (← get).anchors.lookup name with
  | some node => pure node
  | none => refuse "an alias has no anchor"

/-- The full name of a tag. -/
def tagName (handle : Option String) (suffix : String) : Reader String := do
  match handle with
  | none => pure suffix
  | some handle =>
    match (← get).handles.lookup handle with
    | some expansion => pure (expansion ++ suffix)
    | none => refuse "a tag handle is not introduced"

/-- The marks before a node: its anchor and the name of its tag. -/
structure Marks where
  anchor : Option String := none
  tag : Option String := none

/-- Reads the marks before a node, in any order. -/
def marks : Reader Marks := do
  match ← peek with
  | .anchor name => do
    take
    match ← peek with
    | .tag handle suffix => do
      take
      pure { anchor := name, tag := some (← tagName handle suffix) }
    | _ => pure { anchor := name }
  | .tag handle suffix => do
    take
    match ← peek with
    | .anchor name => do
      take
      pure { anchor := name, tag := some (← tagName handle suffix) }
    | _ => pure { tag := some (← tagName handle suffix) }
  | _ => pure {}

/-- The tag of a scalar. The tag `!` asks for the form of the text even between quotes. -/
def scalarTag (tag : Option String) (text : String) (plain : Bool) : Tag :=
  match tag with
  | none => if plain then .ofForm text else .text
  | some "!" => .ofForm text
  | some name => .ofName name

/-- The tag of a collection. -/
def collectionTag (tag : Option String) (usual : Tag) : Tag :=
  match tag with
  | none | some "!" => usual
  | some name => .ofName name

/-- A node with marks and no content. -/
def bareNode (m : Marks) : Reader Node := do
  if m.anchor.isNone && m.tag.isNone then refuse "a node is expected"
  checkAnchor m.anchor
  let found := Node.scalar (scalarTag m.tag "" true) ""
  bindAnchor m.anchor found
  pure found

/-- A scalar with its marks. -/
def scalarNode (m : Marks) (text : String) (plain : Bool) : Reader Node := do
  checkAnchor m.anchor
  let found := Node.scalar (scalarTag m.tag text plain) text
  bindAnchor m.anchor found
  pure found

/-- A sequence with its marks and a reader of its items. -/
def sequenceNode (m : Marks) (items : Reader (List Node)) : Reader Node := do
  checkAnchor m.anchor
  bindAnchor m.anchor .enclosing
  let found := Node.sequence (collectionTag m.tag .sequence) (← items)
  bindAnchor m.anchor found
  pure found

/-- A mapping with its marks and a reader of its entries. -/
def mappingNode (m : Marks) (entries : Reader (List (Node × Node))) : Reader Node := do
  checkAnchor m.anchor
  bindAnchor m.anchor .enclosing
  let found := Node.ofEntries (collectionTag m.tag .mapping) (← entries)
  bindAnchor m.anchor found
  pure found

/-- Whether a token ends a flow sequence. -/
def isSequenceEnd : Token → Bool
  | .flowSequenceEnd => true
  | _ => false

/-- Whether a token ends a flow mapping. -/
def isMappingEnd : Token → Bool
  | .flowMappingEnd => true
  | _ => false

/-- Takes the end of a flow collection, if it is here, or otherwise the comma before an entry that
is not the first. A comma before the end is taken as well. -/
def flowEnds (closing : Token → Bool) (first : Bool) : Reader Bool := do
  let t ← peek
  if closing t then do
    take
    pure true
  else if first then pure false
  else
    match t with
    | .flowEntry => do
      take
      if closing (← peek) then do
        take
        pure true
      else pure false
    | _ => refuse "a comma is expected"

/-- What a reader answers that has no fuel left. -/
def exhausted : Reader α := refuse "the text is nested too deeply"

mutual

/-- Reads a node. `block` admits indented collections, and `indentless` also a sequence at the
column of the mapping around it. -/
def node (block indentless : Bool) : Nat → Reader Node
  | 0 => exhausted
  | fuel + 1 => do
    match ← peek with
    | .alias name => do
      take
      resolveAlias name
    | _ => do
      let m ← marks
      match ← peek with
      | .scalar text plain => do
        take
        scalarNode m text plain
      | .blockEntry =>
        if indentless then sequenceNode m (indentlessItems fuel) else bareNode m
      | .flowSequenceStart => do
        take
        sequenceNode m (flowItems true fuel)
      | .flowMappingStart => do
        take
        mappingNode m (flowEntries true fuel)
      | .blockSequenceStart =>
        if block then do
          take
          sequenceNode m (blockItems fuel)
        else bareNode m
      | .blockMappingStart =>
        if block then do
          take
          mappingNode m (blockEntries fuel)
        else bareNode m
      | _ => bareNode m

/-- Reads the items of an indented sequence. -/
def blockItems : Nat → Reader (List Node)
  | 0 => exhausted
  | fuel + 1 => do
    match ← peek with
    | .blockEntry => do
      take
      let item ←
        match ← peek with
        | .blockEntry | .blockEnd => pure emptyNode
        | _ => node true false fuel
      pure (item :: (← blockItems fuel))
    | .blockEnd => do
      take
      pure []
    | _ => refuse "a sequence does not end here"

/-- Reads the items of a sequence at the column of the mapping around it. -/
def indentlessItems : Nat → Reader (List Node)
  | 0 => exhausted
  | fuel + 1 => do
    match ← peek with
    | .blockEntry => do
      take
      let item ←
        match ← peek with
        | .blockEntry | .key | .value | .blockEnd => pure emptyNode
        | _ => node true false fuel
      pure (item :: (← indentlessItems fuel))
    | _ => pure []

/-- Reads the entries of an indented mapping. -/
def blockEntries : Nat → Reader (List (Node × Node))
  | 0 => exhausted
  | fuel + 1 => do
    match ← peek with
    | .key => do
      take
      let key ← blockPart fuel
      let value ←
        match ← peek with
        | .value => do
          take
          blockPart fuel
        | _ => pure emptyNode
      pure ((key, value) :: (← blockEntries fuel))
    | .blockEnd => do
      take
      pure []
    | _ => refuse "a mapping does not end here"

/-- Reads a key or a value of an indented mapping. -/
def blockPart : Nat → Reader Node
  | 0 => exhausted
  | fuel + 1 => do
    match ← peek with
    | .key | .value | .blockEnd => pure emptyNode
    | _ => node true true fuel

/-- Reads a part of an entry of a flow collection; `closing` ends the collection. -/
def flowPart (closing : Token → Bool) : Nat → Reader Node
  | 0 => exhausted
  | fuel + 1 => do
    let t ← peek
    match t with
    | .value | .flowEntry => pure emptyNode
    | _ => if closing t then pure emptyNode else node false false fuel

/-- Reads the value of an entry of a flow collection, if it has one. -/
def flowValue (closing : Token → Bool) : Nat → Reader Node
  | 0 => exhausted
  | fuel + 1 => do
    match ← peek with
    | .value => do
      take
      let t ← peek
      match t with
      | .flowEntry => pure emptyNode
      | _ => if closing t then pure emptyNode else node false false fuel
    | _ => pure emptyNode

/-- Reads the items of a flow sequence. A pair with a mark of its own is a mapping of one entry. -/
def flowItems (first : Bool) : Nat → Reader (List Node)
  | 0 => exhausted
  | fuel + 1 => do
    if ← flowEnds isSequenceEnd first then pure []
    else
      match ← peek with
      | .key => do
        take
        let key ← flowPart isSequenceEnd fuel
        let value ← flowValue isSequenceEnd fuel
        pure (Node.ofEntries .mapping [(key, value)] :: (← flowItems false fuel))
      | _ => do
        let item ← node false false fuel
        pure (item :: (← flowItems false fuel))

/-- Reads the entries of a flow mapping. An entry without a colon has no value. -/
def flowEntries (first : Bool) : Nat → Reader (List (Node × Node))
  | 0 => exhausted
  | fuel + 1 => do
    if ← flowEnds isMappingEnd first then pure []
    else
      match ← peek with
      | .key => do
        take
        let key ← flowPart isMappingEnd fuel
        let value ← flowValue isMappingEnd fuel
        pure ((key, value) :: (← flowEntries false fuel))
      | _ => do
        let key ← node false false fuel
        pure ((key, emptyNode) :: (← flowEntries false fuel))

end

/-- Reads the directives of a document. -/
def directives : Nat → Bool → Reader Unit
  | 0, _ => exhausted
  | fuel + 1, versioned => do
    match ← peek with
    | .directive (.version major) => do
      take
      if versioned then refuse "the version is given twice"
      if major != 1 then refuse "the version is not known"
      directives fuel true
    | .directive (.tagHandle handle expansion) => do
      take
      if ((← get).handles.lookup handle).isSome then refuse "a tag handle is introduced twice"
      modify fun s => { s with handles := (handle, expansion) :: s.handles }
      directives fuel versioned
    | .directive .reserved => do
      take
      directives fuel versioned
    | _ => modify fun s => { s with handles := s.handles ++ commonHandles }

/-- Skips marks of document ends. -/
def skipEnds : Nat → Reader Unit
  | 0 => exhausted
  | fuel + 1 => do
    match ← peek with
    | .documentEnd => do
      take
      skipEnds fuel
    | _ => pure ()

/-- Reads the start of a document: nothing if the text is over. -/
def documentStart (fuel : Nat) : Reader Bool := do
  skipEnds fuel
  match ← peek with
  | .streamEnd => pure false
  | _ => do
    directives fuel false
    match ← peek with
    | .documentStart => do
      take
      pure true
    | _ => refuse "a document does not start here"

/-- Reads the content of a document that has a mark at its start. -/
def documentContent (fuel : Nat) : Reader Node := do
  match ← peek with
  | .directive _ | .documentStart | .documentEnd | .streamEnd => pure emptyNode
  | _ => node true false fuel

/-- Reads the only document of a text, if there is one. -/
def document (fuel : Nat) : Reader (Option Node) := do
  let found ←
    match ← peek with
    | .directive _ | .documentStart | .streamEnd => do
      if ← documentStart fuel then (documentContent fuel).map some else pure none
    | _ => do
      modify fun s => { s with handles := commonHandles }
      (node true false fuel).map some
  match found with
  | none => pure none
  | some root => do
    match ← peek with
    | .documentEnd => take
    | _ => pure ()
    if ← documentStart fuel then refuse "there is more than one document"
    pure (some root)

end Reader

/-- The node of the only document of a text; nothing for an empty text. -/
def Node.ofText? (cs : List Char) : Except Problem (Option Node) :=
  if cs.all isAllowed then
    let tokens := Token.ofText cs
    (Reader.document (4 * tokens.length + 8)).run' { tokens }
  else .error (.malformed "a character is not allowed")

end TypstPress.Yaml
