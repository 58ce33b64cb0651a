import TypstPress.Markdown.Block
import TypstPress.Markdown.Directive
import TypstPress.Markdown.Html
import TypstPress.Text.Digit

/-!
# Recognising blocks

Each rule recognises a block by what stands at the start of a line. Most marks may be indented by
up to three spaces.
-/

namespace TypstPress.Markdown

/-- The level and the text of a heading behind its indentation, for a line such as `## text`. -/
def atxHeading? (line : List Char) : Option (Nat × List Char) :=
  let level := (line.takeWhile (· == '#')).length
  let text := line.drop level
  if 1 ≤ level && level ≤ 6 && (text.isEmpty || text.head?.any isSpaceOrTab) then
    some (level, text)
  else none

/-- The level of the heading that a line of `=` or `-` makes of the paragraph before it. -/
def setextLevel? (line : List Char) : Option Nat :=
  let isMark (c : Char) : Bool := c == '=' || c == '-'
  match (line.takeWhile isMark).getLast? with
  | some last =>
    if (line.dropWhile isMark).all isSpaceOrTab then some (if last == '=' then 1 else 2) else none
  | none => none

/-- Whether a line holds three or more of one of the marks `-`, `_` and `*`, and only blanks
besides. -/
def isThematicBreak (line : List Char) : Bool :=
  match line with
  | mark :: _ =>
    (mark == '-' || mark == '_' || mark == '*') &&
      line.all (fun c => c == mark || isSpaceOrTab c) && 3 ≤ line.count mark
  | [] => false

/-- The fence that opens a block of code. -/
structure CodeFence where
  indent : Nat
  mark : Char
  size : Nat
  info : List Char

/-- The fence on a line. -/
def codeFence? (line : List Char) : Option CodeFence := do
  let inner ← dropIndent? 3 line
  let mark ← inner.head?
  let size := (inner.takeWhile (· == mark)).length
  if (mark == '\x60' || mark == '~') && 3 ≤ size then
    some { indent := indentOf line, mark, size, info := (inner.drop size).dropWhile isSpaceOrTab }
  else none

/-- What follows a line that is indented by four spaces or a tab, and the line feeds after it. -/
def indentedLine? (cs : List Char) : Option (List Char) :=
  let isText (rest : List Char) : Bool := rest.head?.any (· != '\n')
  let indent := indentOf cs
  let inner :=
    if 4 ≤ indent && isText (cs.drop 4) then some (cs.drop 4)
    else
      match cs.drop indent with
      | '\t' :: rest => if isText rest then some rest else none
      | _ => none
  inner.map fun rest => (rest.dropWhile (· != '\n')).dropWhile (· == '\n')

/-- The mark of a list item with its indentation and the rest of its line. -/
structure ItemMark where
  indent : Nat
  mark : List Char
  text : List Char

/-- The mark of an item: a bullet, or a number of `digits` digits and what closes it. -/
def itemMark? (limit : Nat) (isMark : List Char → Bool) (cs : List Char) : Option ItemMark := do
  let line := firstLine cs
  let inner ← dropIndent? limit line
  let digits := inner.takeWhile Text.isDigit
  let mark := inner.take (digits.length + 1)
  let text := inner.drop (digits.length + 1)
  if isMark mark && (text.isEmpty || text.head?.any isSpaceOrTab) then
    some { indent := indentOf line, mark, text }
  else none

/-- The mark of a list that begins: a bullet, or up to nine digits with `.` or `)`. -/
def isListMark (mark : List Char) : Bool :=
  match mark.reverse with
  | [c] => c == '-' || c == '+' || c == '*'
  | c :: digits => (c == '.' || c == ')') && digits.length ≤ 9
  | [] => false

/-- The mark of a further item in a list whose marks end in `bullet`. -/
def isItemMark (bullet : Char) (mark : List Char) : Bool :=
  match mark.reverse with
  | c :: digits =>
    c == bullet && (digits.isEmpty || ((c == '.' || c == ')') && digits.length ≤ 9))
  | [] => false

/-- Reads the key of a footnote with its marks and the blank after them. -/
def footnoteStart? (cs : List Char) : Option (List Char × List Char) := do
  match ← dropIndent? 4 cs with
  | '[' :: '^' :: rest =>
    match ← footnoteLabel? rest with
    | (key, ':' :: c :: rest) => if isSpaceOrTab c || c == '\n' then some (key, rest) else none
    | _ => none
  | _ => none

/-- The label of a link definition with what follows the colon. -/
def linkStart? (cs : List Char) : Option (List Char × List Char) := do
  match ← dropIndent? 3 cs with
  | '[' :: rest =>
    match ← label? rest with
    | (label, ':' :: rest) => some (label, rest)
    | _ => none
  | _ => none

/-- Reads the lines up to one that closes a formula; at least one line comes before it. -/
def mathLines (first : Bool) : Nat → List Char → Option (List (List Char) × List Char)
  | 0, _ => none
  | fuel + 1, cs =>
    let line := firstLine cs
    let isEnd := "$$".toList.isPrefixOf line && (line.drop 2).all isSpaceOrTab
    if isEnd && !first then some ([], afterLine cs)
    else if line.length == cs.length then none
    else (mathLines false fuel (afterLine cs)).map fun r => (line :: r.1, r.2)

/-- Reads a formula between `$$`, on one line or with the marks on lines of their own. -/
def math? (cs : List Char) : Option (List Char × List Char) := do
  match ← dropIndent? 3 cs with
  | '$' :: '$' :: rest =>
    let line := Text.dropEndWhile isSpaceOrTab (firstLine rest)
    if "$$".toList.isSuffixOf line then
      some (line.take (line.length - 2), afterLine rest)
    else if line.isEmpty && (firstLine rest).length < rest.length then
      (mathLines true rest.length (afterLine rest)).map fun r => (joinLines r.1, r.2)
    else none
  | _ => none

/-- Whether a line starts a quote. -/
def isQuoteLine (line : List Char) : Bool :=
  (dropIndent? 3 line).any fun rest => rest.head? == some '>'

/-- Whether the rule recognises the text at the start of a line. -/
def Rule.starts (cs : List Char) : Rule → Bool
  | .directive => (openingFence? cs).isSome
  | .fence => (codeFence? (firstLine cs)).isSome
  | .indented => (indentedLine? cs).isSome
  | .atxHeading => (dropIndent? 3 (firstLine cs)).any fun line => (atxHeading? line).isSome
  | .setextHeading => (dropIndent? 3 (firstLine cs)).any fun line => (setextLevel? line).isSome
  | .thematicBreak => (dropIndent? 3 (firstLine cs)).any isThematicBreak
  | .quote => isQuoteLine (firstLine cs)
  | .math => (math? cs).isSome
  | .list => (itemMark? 3 isListMark cs).isSome
  | .footnote => (footnoteStart? cs).isSome
  | .link => (linkStart? cs).isSome
  | .html => (dropIndent? 3 cs).any fun rest => (Html.opening? rest).isSome
  | .blank => startsBlankLine cs
  | .enclosedTable => (enclosedRows? cs).isSome
  | .openTable => (openTable? cs).isSome

/-- Whether the rule recognises text that is indented by at most `limit` spaces, where a block
ends a quote or a list item. Of HTML only known tags do, and blank lines do anyway. -/
def Rule.interrupts (limit : Nat) (cs : List Char) (rule : Rule) : Bool :=
  match rule with
  | .blank => startsBlankLine cs
  | .html => indentOf cs ≤ limit && (dropIndent? 3 cs).any Html.interrupts
  | rule => indentOf cs ≤ limit && rule.starts cs

/-- The first position where a line is recognised by one of the rules: the text before it and the
rule. -/
def nextStart (rules : List Rule) (lineStart : Bool) : List Char → List Char × Option Rule
  | [] => ([], none)
  | c :: rest =>
    match if lineStart then rules.find? (Rule.starts (c :: rest)) else none with
    | some rule => ([], some rule)
    | none =>
      let (skipped, rule) := nextStart rules (c == '\n') rest
      (c :: skipped, rule)

end TypstPress.Markdown
