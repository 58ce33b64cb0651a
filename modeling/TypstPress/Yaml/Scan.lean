import TypstPress.Yaml.BlockText
import TypstPress.Yaml.Plain
import TypstPress.Yaml.Property
import TypstPress.Yaml.Quoted

/-!
# From text to tokens

A key without a mark of its own is known only when its colon is read. Until then the place before
it is kept as pending, one for each open flow collection, and the colon puts the token of the key
there. A pending key is given up at the end of its line and after 1024 characters; a key that is
required by the layout is then a mistake.

Indented collections end where the text returns to a column further left. Inside flow collections
layout has no meaning.
-/

namespace TypstPress.Yaml

/-- A place where a key may turn out to start. -/
structure PendingKey where
  /-- The number of tokens before the key. -/
  place : Nat
  /-- Whether the layout allows nothing but a key here. -/
  required : Bool
  index : Nat
  line : Nat
  column : Nat

/-- What is known while a text is read. -/
structure Scan where
  cursor : Cursor
  /-- The tokens so far, the latest first. -/
  tokens : List Token := []
  /-- The columns of the open indented collections, the innermost first. -/
  indents : List Nat := []
  /-- Whether a key may start here. -/
  keyAllowed : Bool := true
  /-- The pending key of the innermost collection. -/
  pending : Option PendingKey := none
  /-- The pending keys around the open flow collections, the innermost first. -/
  outer : List (Option PendingKey) := []
  /-- Whether the end of the text is reached. -/
  finished : Bool := false

namespace Scan

/-- Whether the cursor is inside a flow collection. -/
def inFlow (s : Scan) : Bool := !s.outer.isEmpty

/-- Adds a token. -/
def push (t : Token) (s : Scan) : Scan := { s with tokens := t :: s.tokens }

/-- Adds a token of some characters at the cursor. -/
def mark (t : Token) (width : Nat) (s : Scan) : Scan :=
  { s with tokens := t :: s.tokens, cursor := s.cursor.advance width }

/-- Adds tokens at an earlier place. -/
def insert (place : Nat) (ts : List Token) (s : Scan) : Scan :=
  let later := s.tokens.take (s.tokens.length - place)
  { s with tokens := later ++ ts.reverse ++ s.tokens.drop (s.tokens.length - place) }

/-- The mistake of a key without its colon. -/
def missingColon : Problem := .malformed "a key is not followed by a colon"

/-- Whether a pending key is too far back. -/
def isStale (s : Scan) (key : PendingKey) : Bool :=
  key.line != s.cursor.line || key.index + 1024 < s.cursor.index

/-- The state without the pending keys that are too far back. -/
def dropStale (s : Scan) : Except Problem Scan :=
  let stale := (s.pending :: s.outer).filterMap fun key => key.filter s.isStale
  if stale.any (·.required) then .error missingColon
  else
    .ok { s with
      pending := s.pending.filter (!s.isStale ·)
      outer := s.outer.map fun key => key.filter (!s.isStale ·) }

/-- The state without the pending key of the innermost collection. -/
def dropPending (s : Scan) : Except Problem Scan :=
  if (s.pending.map (·.required)).getD false then .error missingColon
  else .ok { s with pending := none }

/-- Makes the cursor a place where a key may start. -/
def noteKey (s : Scan) : Except Problem Scan :=
  if s.keyAllowed then
    (dropPending s).map fun s =>
      { s with
        pending := some
          { place := s.tokens.length
            required := !s.inFlow && s.indents.head? == some s.cursor.column
            index := s.cursor.index
            line := s.cursor.line
            column := s.cursor.column } }
  else .ok s

/-- Ends the indented collections that satisfy `p`, from the innermost on. -/
def closeWhile (p : Nat → Bool) (s : Scan) : Scan :=
  if s.inFlow then s
  else
    { s with
      tokens := (s.indents.takeWhile p).map (fun _ => .blockEnd) ++ s.tokens
      indents := s.indents.dropWhile p }

/-- Ends all indented collections. -/
def closeAll (s : Scan) : Scan := s.closeWhile fun _ => true

/-- Whether a column is further right than that of the innermost collection. -/
def isDeeper (s : Scan) (column : Nat) : Bool :=
  match s.indents.head? with
  | some indent => indent < column
  | none => true

/-- Starts a collection at the cursor if its column is further right. -/
def openBlock (start : Token) (s : Scan) : Scan :=
  if s.isDeeper s.cursor.column then
    { s with indents := s.cursor.column :: s.indents, tokens := start :: s.tokens }
  else s

/-- The least indentation of the lines of a scalar. -/
def scalarIndent (s : Scan) : Nat :=
  match s.indents.head? with
  | some indent => indent + 1
  | none => 0

/-- Moves the cursor to the next token. A line end outside flow collections allows a key. -/
def skipBlanks : Nat → Scan → Scan
  | 0, s => s
  | fuel + 1, s =>
    let c := (s.cursor.skip (· == ' ')).skipComment
    if startsWith isBreak c.rest then
      skipBlanks fuel
        { s with cursor := c.lineBreak.2, keyAllowed := s.keyAllowed || !s.inFlow }
    else { s with cursor := c }

/-- Moves the cursor to the next token. A byte order mark at the start of the text is skipped. -/
def toToken (s : Scan) : Scan :=
  let c := s.cursor
  let c := if c.index == 0 && c.rest.head? == some '\uFEFF' then c.next else c
  skipBlanks (c.rest.length + 1) { s with cursor := c }

/-- The end of the text. -/
def finish (s : Scan) : Except Problem Scan :=
  s.closeAll.dropPending.map fun s =>
    { s with tokens := .streamEnd :: s.tokens, finished := true }

/-- A document marker. -/
def documentMark (t : Token) (s : Scan) : Except Problem Scan :=
  s.closeAll.dropPending.map fun s => { s.mark t 3 with keyAllowed := false }

/-- A directive. -/
def directive (s : Scan) : Except Problem Scan := do
  let s ← s.closeAll.dropPending
  let (d, c) ← Property.directive s.cursor
  .ok { s with keyAllowed := false, cursor := c, tokens := .directive d :: s.tokens }

/-- The start of a flow collection. -/
def flowStart (t : Token) (s : Scan) : Except Problem Scan :=
  s.noteKey.map fun s =>
    { s.mark t 1 with keyAllowed := true, pending := none, outer := s.pending :: s.outer }

/-- The end of a flow collection. -/
def flowEnd (t : Token) (s : Scan) : Except Problem Scan := do
  let s ← s.dropPending
  match s.outer with
  | pending :: outer => .ok { s.mark t 1 with keyAllowed := false, pending, outer }
  | [] => .error (.malformed "a flow collection ends that never started")

/-- A comma of a flow collection. -/
def flowEntry (s : Scan) : Except Problem Scan :=
  s.dropPending.map fun s => { s.mark .flowEntry 1 with keyAllowed := true }

/-- The mark of an entry of an indented sequence. -/
def blockEntry (s : Scan) : Except Problem Scan :=
  if !s.inFlow && !s.keyAllowed then .error (.malformed "an entry cannot stand here")
  else
    let s := if s.inFlow then s else s.openBlock .blockSequenceStart
    s.dropPending.map fun s => { s.mark .blockEntry 1 with keyAllowed := true }

/-- The mark of a key. -/
def keyMark (s : Scan) : Except Problem Scan :=
  if !s.inFlow && !s.keyAllowed then .error (.malformed "a key cannot stand here")
  else
    let s := if s.inFlow then s else s.openBlock .blockMappingStart
    s.dropPending.map fun s => { s.mark .key 1 with keyAllowed := !s.inFlow }

/-- The colon before a value. The pending key becomes a key. -/
def valueMark (s : Scan) : Except Problem Scan :=
  match s.pending with
  | some key =>
    let opens := !s.inFlow && s.isDeeper key.column
    let s := s.insert key.place (if opens then [.blockMappingStart, .key] else [.key])
    .ok { s.mark .value 1 with
      indents := if opens then key.column :: s.indents else s.indents
      keyAllowed := false
      pending := none }
  | none =>
    if !s.inFlow && !s.keyAllowed then .error (.malformed "a value cannot stand here")
    else
      let s := if s.inFlow then s else s.openBlock .blockMappingStart
      .ok { s.mark .value 1 with keyAllowed := !s.inFlow }

/-- An anchor or an alias. -/
def named (make : String → Token) (s : Scan) : Except Problem Scan := do
  let s ← s.noteKey
  let (name, c) ← Property.name s.cursor.next
  .ok { s with keyAllowed := false, cursor := c, tokens := make name :: s.tokens }

/-- A tag. -/
def tag (s : Scan) : Except Problem Scan := do
  let s ← s.noteKey
  let (token, c) ← Property.tag s.cursor
  .ok { s with keyAllowed := false, cursor := c, tokens := token :: s.tokens }

/-- A block scalar. -/
def blockText (folded : Bool) (s : Scan) : Except Problem Scan := do
  let s ← s.dropPending
  let (text, c) ← BlockText.read folded (max 1 s.scalarIndent) s.cursor
  .ok { s with
    keyAllowed := true, cursor := c, tokens := .scalar (String.ofList text) false :: s.tokens }

/-- A quoted scalar. -/
def quoted (double : Bool) (s : Scan) : Except Problem Scan := do
  let s ← s.noteKey
  let (text, c) ← Quoted.read double s.cursor
  .ok { s with
    keyAllowed := false, cursor := c, tokens := .scalar (String.ofList text) false :: s.tokens }

/-- A plain scalar. -/
def plain (s : Scan) : Except Problem Scan :=
  s.noteKey.map fun s =>
    let found := Plain.read s.inFlow s.scalarIndent s.cursor
    { s with
      keyAllowed := found.broken
      cursor := found.after
      tokens := .scalar (String.ofList found.text) true :: s.tokens }

/-- Whether a plain scalar may start with the character before the given text. -/
def startsPlain (inFlow : Bool) (c : Char) (rest : List Char) : Bool :=
  !(isGap c || "-?:,[]\x7b\x7d#&*!|>'\"%@\x60".toList.contains c) ||
    (!atGap rest && (c == '-' || (!inFlow && (c == '?' || c == ':'))))

/-- Reads the token at the cursor. -/
def token (s : Scan) : Except Problem Scan :=
  let c := s.cursor
  match c.rest with
  | [] => s.finish
  | ch :: rest =>
    let apart := s.inFlow || atGap rest
    if ch == '%' && c.column == 0 then s.directive
    else if c.column == 0 && atMarker '-' c.rest then s.documentMark .documentStart
    else if c.column == 0 && atMarker '.' c.rest then s.documentMark .documentEnd
    else if ch == '[' then s.flowStart .flowSequenceStart
    else if ch == '\x7b' then s.flowStart .flowMappingStart
    else if ch == ']' then s.flowEnd .flowSequenceEnd
    else if ch == '\x7d' then s.flowEnd .flowMappingEnd
    else if ch == ',' then s.flowEntry
    else if ch == '-' && atGap rest then s.blockEntry
    else if ch == '?' && apart then s.keyMark
    else if ch == ':' && apart then s.valueMark
    else if ch == '*' then s.named .alias
    else if ch == '&' then s.named .anchor
    else if ch == '!' then s.tag
    else if ch == '|' && !s.inFlow then s.blockText false
    else if ch == '>' && !s.inFlow then s.blockText true
    else if ch == '\'' then s.quoted false
    else if ch == '"' then s.quoted true
    else if startsPlain s.inFlow ch rest then s.plain
    else .error (.malformed "no token starts with this character")

/-- Reads the next token. -/
def step (s : Scan) : Except Problem Scan := do
  let s ← s.toToken.dropStale
  (s.closeWhile (s.cursor.column < ·)).token

/-- The number of tokens that no later text can change. -/
def settled (s : Scan) : Nat :=
  (s.pending :: s.outer).foldl (fun n key => (key.map fun k => min n k.place).getD n)
    s.tokens.length

/-- The tokens when reading stops because of a problem: what later text could still have changed
is not among them. -/
def stopped (s : Scan) (p : Problem) : List Token :=
  (s.tokens.drop (s.tokens.length - s.settled)).reverse ++ [.problem p]

/-- Reads tokens to the end of the text. -/
def run : Nat → Scan → List Token
  | 0, s => s.stopped (.malformed "the text is too long")
  | fuel + 1, s =>
    match s.dropStale with
    | .error p => s.stopped p
    | .ok s =>
      match s.step with
      | .error p => s.stopped p
      | .ok s => if s.finished then s.tokens.reverse else run fuel s

end Scan

/-- The tokens of a text. -/
def Token.ofText (cs : List Char) : List Token :=
  Scan.run (cs.length + 2) { cursor := { rest := cs } }

end TypstPress.Yaml
