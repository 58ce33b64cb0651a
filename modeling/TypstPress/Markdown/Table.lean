import TypstPress.Markdown.Indent

/-!
# Tables

A table is a header line, a delimiter line that gives the alignment of the columns, and body
lines. Either all lines are enclosed in `|`, or none has to be and a body line is any line with a
`|`. A `|` behind a backslash that is not itself escaped does not separate cells. All rows have as
many cells as the header.
-/

namespace TypstPress.Markdown

/-- The cells of a line, as written. -/
def splitCells : List Char → List (List Char)
  | '\\' :: c :: rest => extend ['\\', c] (splitCells rest)
  | c :: rest => if c == '|' then [] :: splitCells rest else extend [c] (splitCells rest)
  | [] => [[]]
where
  /-- The cells with some text before the first. -/
  extend (text : List Char) : List (List Char) → List (List Char)
    | [] => [text]
    | cell :: cells => (text ++ cell) :: cells

/-- Where the content of a column stands. -/
inductive Alignment where
  | left
  | center
  | right
deriving DecidableEq, Repr, Inhabited

/-- The word for an alignment. -/
def Alignment.word : Alignment → String
  | .left => "left"
  | .center => "center"
  | .right => "right"

/-- A table with the texts of its cells. -/
structure TableText where
  alignments : List (Option Alignment)
  head : List (List Char)
  rows : List (List (List Char))

/-- The alignment that a cell of the delimiter line stands for; none for a text that is no such
cell. -/
def alignment? (cell : List Char) : Option (Option Alignment) :=
  let marks := Text.trim cell
  let left := marks.head? == some ':'
  let right := marks.getLast? == some ':'
  let dashes := (marks.drop (if left then 1 else 0)).reverse.drop (if right then 1 else 0)
  if marks.isEmpty then some none
  else if dashes.isEmpty || dashes.any (· != '-') then none
  else
    match left, right with
    | true, true => some (some .center)
    | true, false => some (some .left)
    | false, true => some (some .right)
    | false, false => some none

/-- The trimmed cells of a line, if there are as many as there are columns. -/
def rowCells? (columns : Nat) (line : List Char) : Option (List (List Char)) :=
  let cells := splitCells line
  if cells.length == columns then some (cells.map Text.trim) else none

/-- The table with the given header line, delimiter line and body lines. -/
def TableText.ofRows? : List (List Char) → Option TableText
  | head :: delimiters :: body => do
    let alignments ← (splitCells delimiters).mapM alignment?
    let head ← rowCells? alignments.length head
    let rows ← body.mapM (rowCells? alignments.length)
    some { alignments, head, rows }
  | _ => none

/-- The lines of a text that ends with a line feed. -/
def wholeLinesOf (cs : List Char) : List (List Char) :=
  let lines := splitLines cs
  if lines.getLast? == some [] then lines.dropLast else lines

/-- What a line that is enclosed in `|` holds between them; a single `|` is both. -/
def insidePipes? (line : List Char) : Option (List Char) :=
  match Text.trim line with
  | '|' :: rest =>
    if rest.isEmpty || rest.getLast? == some '|' then some rest.dropLast else none
  | _ => none

/-- What two or more lines hold that are enclosed in `|`, and what follows them. -/
def enclosedRows? (cs : List Char) : Option (List (List Char) × List Char) := do
  let _ ← (← dropIndent? 3 cs).head?.filter (· == '|')
  let (lines, rest) := spanLines (fun line => (insidePipes? line).isSome) cs.length cs
  let rows := (wholeLinesOf lines).filterMap insidePipes?
  if 2 ≤ rows.length then some (rows, rest) else none

/-- The table at the start of a text whose lines need not be enclosed, and what follows it. -/
def openTable? (cs : List Char) : Option (TableText × List Char) := do
  let head ← dropIndent? 3 (firstLine cs)
  let delimiters := firstLine (afterLine cs)
  if !head.head?.any (!Text.isBlank ·) || !head.tail.contains '|' || !delimiters.contains '|' then
    none
  else
    let body := afterLine (afterLine cs)
    let (lines, rest) := spanLines (·.contains '|') body.length body
    let table ← TableText.ofRows? (head :: delimiters :: wholeLinesOf lines)
    some (table, rest)

end TypstPress.Markdown
