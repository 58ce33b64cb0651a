import TypstPress.Text.Blank

/-!
# Lines and their indentation

Block structure is read line by line. A line ends at a line feed; by the time blocks are read no
other line end is left. Tabs count only at the start of a line, after at most three spaces, where
they are replaced by spaces.
-/

namespace TypstPress.Markdown

/-- A space or a tab. -/
def isSpaceOrTab (c : Char) : Bool := c == ' ' || c == '\t'

/-- A character that a blank line may hold. -/
def isLineBlank (c : Char) : Bool := c == ' ' || c == '\t' || c == '\x0b' || c == '\x0c'

/-- White space of ASCII. -/
def isAsciiBlank (c : Char) : Bool := isLineBlank c || c == '\n' || c == '\r'

/-- The pieces of a text between its line feeds. -/
def splitLines : List Char → List (List Char)
  | [] => [[]]
  | c :: rest =>
    if c == '\n' then [] :: splitLines rest
    else
      match splitLines rest with
      | [] => [[c]]
      | line :: lines => (c :: line) :: lines

/-- The text that has the given pieces between its line feeds. -/
def joinLines (lines : List (List Char)) : List Char := List.intercalate ['\n'] lines

/-- The text with every line rewritten. -/
def mapLines (f : List Char → List Char) (cs : List Char) : List Char :=
  joinLines ((splitLines cs).map f)

/-- The first line of a text, without its end. -/
def firstLine (cs : List Char) : List Char := cs.takeWhile (· != '\n')

/-- What follows the first line. -/
def afterLine (cs : List Char) : List Char := (cs.dropWhile (· != '\n')).drop 1

/-- The first line of a text with its line feed, if it has one. -/
def firstLineKept (cs : List Char) : List Char :=
  firstLine cs ++ (cs.dropWhile (· != '\n')).take 1

/-- The number of spaces at the start of a line. -/
def indentOf (cs : List Char) : Nat := (cs.takeWhile (· == ' ')).length

/-- The text after its leading spaces, provided that there are at most `limit` of them. -/
def dropIndent? (limit : Nat) (cs : List Char) : Option (List Char) :=
  let n := indentOf cs
  if n ≤ limit then some (cs.drop n) else none

/-- A line without up to `limit` leading spaces. -/
def dropUpTo (limit : Nat) (line : List Char) : List Char := line.drop (min limit (indentOf line))

/-- The rest of a line after a tab that stands behind at most three spaces, with their number. -/
def leadingTab? (line : List Char) : Option (Nat × List Char) :=
  let n := indentOf line
  match line.drop n with
  | '\t' :: rest => if n ≤ 3 then some (n, rest) else none
  | _ => none

/-- The text with the leading tab of every line widened to the given column. -/
def widenTabs (column : Nat) (cs : List Char) : List Char :=
  mapLines (fun line =>
    match leadingTab? line with
    | some (n, rest) => List.replicate (max n column) ' ' ++ rest
    | none => line) cs

/-- The text with the leading tab of every line replaced by four spaces. -/
def replaceTabs (cs : List Char) : List Char :=
  mapLines (fun line =>
    match leadingTab? line with
    | some (n, rest) => List.replicate (n + 4) ' ' ++ rest
    | none => line) cs

/-- A text that starts at the given column, with spaces in place of its leading tabs; a tab reaches
to the next multiple of four. -/
def spreadTabs (column : Nat) : List Char → List Char
  | ' ' :: rest => ' ' :: spreadTabs (column + 1) rest
  | '\t' :: rest =>
    let width := 4 - column % 4
    List.replicate width ' ' ++ spreadTabs (column + width) rest
  | rest => rest

/-- The first lines of a text that satisfy `p`, for a text with at most `fuel` lines, and what
follows them. -/
def spanLines (p : List Char → Bool) : Nat → List Char → List Char × List Char
  | 0, cs => ([], cs)
  | fuel + 1, cs =>
    if !cs.isEmpty && p (firstLine cs) then
      let (lines, rest) := spanLines p fuel (afterLine cs)
      (firstLineKept cs ++ lines, rest)
    else ([], cs)

/-- Whether the text starts with a blank line that has an end. -/
def startsBlankLine (cs : List Char) : Bool := (cs.dropWhile isLineBlank).head? == some '\n'

/-- The text after the blank lines at its start, for a text with at most `fuel` of them. -/
def dropBlankLines : Nat → List Char → List Char
  | 0, cs => cs
  | fuel + 1, cs => if startsBlankLine cs then dropBlankLines fuel (afterLine cs) else cs

/-- The text up to its first blank line. The text may begin within a line; then that line does not
count as blank. -/
def upToBlankLine (lineStart : Bool) : List Char → List Char
  | [] => []
  | c :: rest =>
    if lineStart && startsBlankLine (c :: rest) then [] else c :: upToBlankLine (c == '\n') rest

end TypstPress.Markdown
