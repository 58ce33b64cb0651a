import TypstPress.Markdown.Inline.Delimiter
import TypstPress.Markdown.Inline.Span
import TypstPress.Markdown.Link
import TypstPress.Options.Markdown
import TypstPress.Text.Alphanumeric

/-!
# Reading inlines

A text is read from left to right. Where nothing is recognised, or what was recognised cannot be
read, one character is literal text. Code, formulas, HTML, addresses and struck passages are read
as a whole where they begin, so brackets inside them are none.

An opening bracket is kept until the bracket that closes it is met. If a target or a known label
follows that one, what stands between them becomes a link or an image; otherwise both brackets are
literal text. Links do not stand inside links: when one is read, the brackets still open around it
can only be those of images.

The texts of struck passages are texts of their own. Each is shorter than the text it stands in, so
a text has no more levels than characters (`readInlines`).
-/

namespace TypstPress.Markdown

/-- What is known while inlines are read: the options, the link definitions, and the keys of the
footnotes. -/
structure InlineContext where
  options : MarkdownOptions
  links : LinkTable
  notes : List String

/-- An opening bracket that is not closed yet. -/
structure Bracket where
  image : Bool
  /-- Whether it may open a link or an image. -/
  active : Bool := true
  /-- The text behind it. -/
  behind : List Char
  /-- The pieces before it, the last one first. -/
  pieces : List Piece

namespace Bracket

/-- The bracket as text. -/
def literal (b : Bracket) : Piece := .literal (if b.image then ['!', '['] else ['['])

/-- The pieces before the bracket, the bracket as text, and the pieces behind it; all of them the
last one first. -/
def asText (b : Bracket) (pieces : List Piece) : List Piece := pieces ++ b.literal :: b.pieces

/-- The bracket once a link stands behind it: an image may hold links, a link may not. -/
def aroundLink (b : Bracket) : Bracket := { b with active := b.active && b.image }

end Bracket

/-- How far reading has come. -/
structure InlineState where
  /-- The text still to read. -/
  rest : List Char
  /-- The character before it. -/
  before : Char := '\n'
  /-- Whether HTML has opened a link around it. -/
  inAnchor : Bool := false
  /-- How many runs of emphasis marks come before it. -/
  runs : Nat := 0
  /-- The pieces read since the last open bracket, the last one first. -/
  pieces : List Piece := []
  /-- The open brackets, the last one first. -/
  brackets : List Bracket := []
  /-- The keys of the footnotes referred to so far. -/
  cited : List String

namespace InlineState

/-- The state after reading on to `rest`. -/
def moveTo (s : InlineState) (rest : List Char) : InlineState :=
  let read := s.rest.take (s.rest.length - rest.length)
  { s with rest, before := read.getLast?.getD s.before }

/-- The state after one more piece. -/
def push (s : InlineState) (piece : Piece) (rest : List Char) : InlineState :=
  { s.moveTo rest with pieces := piece :: s.pieces }

/-- The state after one more token. -/
def pushToken (s : InlineState) (t : Token) (rest : List Char) : InlineState :=
  s.push (.token t) rest

/-- Takes the text up to `rest` as literal text. -/
def pushLiteral (s : InlineState) (rest : List Char) : InlineState :=
  s.push (.literal (s.rest.take (s.rest.length - rest.length))) rest

/-- Takes one character as literal text. -/
def pushChar (s : InlineState) (c : Char) (rest : List Char) : InlineState :=
  { s with rest, before := c, pieces := .literal [c] :: s.pieces }

/-- All pieces in order, with the brackets that nothing closes as text. -/
def allPieces (s : InlineState) : List Piece :=
  (s.brackets.foldl (fun pieces b => b.asText pieces) s.pieces).reverse

end InlineState

/-- A character that is neither white space nor a letter or digit. -/
def isMarkLike (c : Char) : Bool := !Text.isBlank c && !Text.isAlphanumeric c

/-- The run of emphasis marks between two characters. -/
def runBetween (before after mark : Char) (place size : Nat) : Run :=
  let leftFlanking := !Text.isBlank after &&
    (!isMarkLike after || Text.isBlank before || isMarkLike before)
  let rightFlanking := !Text.isBlank before &&
    (!isMarkLike before || Text.isBlank after || isMarkLike after)
  let (opens, closes) :=
    if mark == '*' then (leftFlanking, rightFlanking)
    else
      (leftFlanking && (!rightFlanking || isMarkLike before),
        rightFlanking && (!leftFlanking || isMarkLike after))
  { mark, place, size, width := size, opens, closes }

/-- Reads a run of emphasis marks. The end of the text and of a line count as white space. -/
def readRun (s : InlineState) (mark : Char) : InlineState :=
  let size := (s.rest.takeWhile (· == mark)).length
  let behind := s.rest.drop size
  let after :=
    match behind with
    | '\\' :: '\n' :: _ | [] => '\n'
    | c :: _ => c
  { s.push (.run (runBetween s.before after mark s.runs size)) behind with runs := s.runs + 1 }

/-- The text after a row of escapes. -/
def afterEscapes : List Char → List Char
  | '\\' :: c :: rest => if isPunctuation c then afterEscapes rest else '\\' :: c :: rest
  | rest => rest

/-- Reads a code span, or its opening mark as literal text if nothing closes it. -/
def readCode (s : InlineState) : InlineState :=
  let size := (s.rest.takeWhile (· == '\x60')).length
  let behind := s.rest.drop size
  match codeSpan? size behind with
  | some (code, rest) => s.pushToken (.flat .codespan (String.ofList code)) rest
  | none => s.pushLiteral behind

/-- Reads what stands between angle brackets as a link to the url that `urlOf` makes of it. Where
HTML has opened a link it is literal text. -/
def readAddress (urlOf : List Char → List Char) (s : InlineState) (rest : List Char) :
    InlineState :=
  if s.inAnchor then s.pushLiteral rest
  else
    let source := s.rest.take (s.rest.length - rest.length)
    let address := source.dropLast.drop 1
    let target := Target.url (storedUrl (urlOf address)) none
    s.push (.address (.branch (.link target) [Token.ofText address]) source) rest

/-- Reads HTML. The tags of links tell whether a text stands within a link. -/
def readTag (s : InlineState) (rest : List Char) : InlineState :=
  let tag := s.rest.take (s.rest.length - rest.length)
  let startsWithAny (starts : List String) : Bool := starts.any fun p => p.toList.isPrefixOf tag
  let inAnchor :=
    if startsWithAny ["<a ", "<a>", "<A ", "<A>"] then true
    else if startsWithAny ["</a ", "</a>", "</A ", "</A>"] then false
    else s.inAnchor
  { s.pushToken (.flat .inlineHtml (String.ofList tag)) rest with inAnchor }

/-- Reads an address or HTML. -/
def readAngle? (s : InlineState) : Option InlineState :=
  match afterAddress? s.rest with
  | some rest => some (readAddress id s rest)
  | none =>
    match afterMailAddress? s.rest with
    | some rest => some (readAddress ("mailto:".toList ++ ·) s rest)
    | none => (Html.after? s.rest).map (readTag s)

/-- Reads an opening bracket. -/
def openBracket (s : InlineState) (image : Bool) : InlineState :=
  let behind := s.rest.drop (if image then 2 else 1)
  let bracket : Bracket := { image, behind, pieces := s.pieces }
  { s.moveTo behind with pieces := [], brackets := bracket :: s.brackets }

/-- The label in brackets behind a link text, with what follows it. An empty one gives the label
that is there already. -/
def trailingLabel (label : Option (List Char)) (beyond : List Char) :
    Option (List Char) × List Char :=
  match beyond with
  | '[' :: rest =>
    match label? rest with
    | some (more, rest) => (if more.isEmpty then label else some more, rest)
    | none => (label, beyond)
  | _ => (label, beyond)

/-- What the bracket that closes a text behind `behind` makes it a link or an image to, with what
follows; `beyond` is what stands behind that bracket. -/
def targetOf? (ctx : InlineContext) (behind beyond : List Char) :
    Option (Target × List Char) :=
  let target := do
    let ((url, title), rest) ←
      match beyond with
      | '(' :: rest => inlineTarget? rest
      | _ => none
    some (Target.url url title, rest)
  target.or do
    let own := (label? behind).filter fun r => r.2.length == beyond.length
    let (label, rest) := trailingLabel (own.map (·.1)) beyond
    let label ← label
    let key := referenceKey label
    let _ ← ctx.links.lookup key
    some (.reference key (some (String.ofList label)), rest)

/-- Reads the link or the image that ends at a closing bracket. -/
def readLink? (ctx : InlineContext) (s : InlineState) (b : Bracket) (outer : List Bracket) :
    Option InlineState :=
  if !b.active || (s.inAnchor && !b.image) then none
  else do
    let (target, rest) ← targetOf? ctx b.behind (s.rest.drop 1)
    let inside := s.pieces.reverse
    let t :=
      if b.image then Token.branch (.image target) (finishPieces inside)
      else .branch (.link target) (finishPieces (inside.map Piece.inLink))
    if deepestToken < t.depth then none
    else
      some { s.moveTo rest with
        pieces := .token t :: b.pieces
        brackets := if b.image then outer else outer.map Bracket.aroundLink }

/-- Reads a closing bracket. -/
def closeBracket (ctx : InlineContext) (s : InlineState) : InlineState :=
  match s.brackets with
  | [] => s.pushLiteral (s.rest.drop 1)
  | b :: outer =>
    (readLink? ctx s b outer).getD
      ({ s with pieces := b.asText s.pieces, brackets := outer }.pushLiteral (s.rest.drop 1))

/-- Reads a reference to a footnote; one that is not defined is literal text. -/
def readNote (ctx : InlineContext) (s : InlineState) (label rest : List Char) : InlineState :=
  let key := referenceKey label
  if ctx.notes.contains key then
    { s.pushToken (.flat .footnoteRef key) rest with
      cited := if s.cited.contains key then s.cited else s.cited ++ [key] }
  else s.pushLiteral rest

/-- Reads a formula. -/
def readMath? (s : InlineState) : Option InlineState :=
  let behind := s.rest.drop 1
  let display :=
    match behind with
    | '$' :: rest => displayMath? rest
    | _ => none
  match display with
  | some (content, rest) => some (s.pushToken (.flat .blockMath (String.ofList content)) rest)
  | none =>
    (inlineMath? behind).map fun (content, rest) =>
      s.pushToken (.flat .inlineMath (String.ofList content)) rest

/-- How the text of a struck passage is read: whether HTML has opened a link around it, the text,
and the footnotes cited so far. -/
abbrev ReadText := Bool → List Char → List String → List Token × List String

/-- Reads struck text. -/
def readStruck? (read : ReadText) (s : InlineState) : Option InlineState := do
  let (text, rest) ← struck? s.rest
  let (children, cited) := read s.inAnchor text s.cited
  some { s.pushToken (.branch .strikethrough children) rest with cited }

/-- Reads a line break. -/
def readBreak? (s : InlineState) : Option InlineState :=
  (lineBreak? s.rest).map fun (soft, rest) =>
    s.pushToken (.flat (if soft then .softbreak else .linebreak) "") rest

/-- Reads what is recognised at the start of a text; nothing if that is one literal character. -/
def readPiece? (ctx : InlineContext) (read : ReadText) (s : InlineState) : Option InlineState :=
  match s.rest with
  | [] => none
  | c :: rest =>
    match c with
    | '\\' =>
      let after := afterEscapes s.rest
      if after.length < s.rest.length then
        let source := s.rest.take (s.rest.length - after.length)
        some (s.pushToken (Token.ofText (dropEscapes source)) after)
      else readBreak? s
    | '$' => if ctx.options.math then readMath? s else none
    | '\x60' => some (readCode s)
    | '*' | '_' => some (readRun s c)
    | '~' => if ctx.options.strikethrough then readStruck? read s else none
    | '[' =>
      let note :=
        match ctx.options.footnotes, rest with
        | true, '^' :: rest => footnoteLabel? rest
        | _, _ => none
      match note with
      | some (label, rest) => some (readNote ctx s label rest)
      | none => some (openBracket s false)
    | ']' => some (closeBracket ctx s)
    | '!' => if rest.head? == some '[' then some (openBracket s true) else none
    | '<' => readAngle? s
    | ' ' | '\n' => readBreak? s
    | _ => none

/-- Reads a text piece by piece, for a text with at most `fuel` characters. -/
def readPieces (ctx : InlineContext) (read : ReadText) : Nat → InlineState → InlineState
  | 0, s => s
  | fuel + 1, s =>
    match s.rest with
    | [] => s
    | c :: rest => readPieces ctx read fuel ((readPiece? ctx read s).getD (s.pushChar c rest))

/-- Reads a text with at most `levels` texts inside each other, and the footnotes that it cites
after those cited before. A text without characters is one empty text. -/
def readInlines (ctx : InlineContext) : Nat → ReadText
  | 0, _, text, cited => ([Token.ofText text], cited)
  | levels + 1, inAnchor, text, cited =>
    if text.isEmpty then ([Token.ofText []], cited)
    else
      let s := readPieces ctx (readInlines ctx levels) text.length { rest := text, inAnchor, cited }
      (finishPieces s.allPieces, s.cited)

/-- White space that does not count at the ends of a text. -/
def isTextMargin (c : Char) : Bool :=
  c == ' ' || c == '\r' || c == '\n' || c == '\t' || c == '\x0c'

/-- The tokens of a text, and the footnotes cited up to its end. -/
def inlinesOf (ctx : InlineContext) (text : List Char) (cited : List String) :
    List Token × List String :=
  let text := Text.trimWhile isTextMargin text
  readInlines ctx (text.length + 1) false text cited

end TypstPress.Markdown
