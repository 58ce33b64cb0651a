/-!
# Positions in a YAML text

Layout carries meaning in YAML, so a text is read with a cursor that knows its line and its column.
A byte order mark takes no column. Line ends are the line feed, the carriage return, the two
together, the next line character and the two separators of Unicode; all but the separators count
as a line feed in the value of a scalar.
-/

namespace TypstPress.Yaml

/-- A place in a text: what follows, and where it is. -/
structure Cursor where
  rest : List Char
  index : Nat := 0
  line : Nat := 0
  column : Nat := 0
deriving Repr, Inhabited

/-- Characters that may stand in a text. -/
def isAllowed (c : Char) : Bool :=
  let n := c.toNat
  n == 0x09 || n == 0x0A || n == 0x0D || (0x20 ≤ n && n ≤ 0x7E) || n == 0x85 ||
    (0xA0 ≤ n && n ≤ 0xD7FF) || (0xE000 ≤ n && n ≤ 0xFFFD) || 0x10000 ≤ n

/-- Characters that end a line. -/
def isBreak (c : Char) : Bool :=
  c == '\n' || c == '\r' || c == '\u0085' || c == '\u2028' || c == '\u2029'

/-- Characters that end a word: blanks and line ends. -/
def isGap (c : Char) : Bool := c == ' ' || c == '\t' || isBreak c

/-- Whether a text starts with a line end or is over. -/
def atBreak : List Char → Bool
  | [] => true
  | c :: _ => isBreak c

/-- Whether a text starts with a blank or a line end or is over. -/
def atGap : List Char → Bool
  | [] => true
  | c :: _ => isGap c

/-- Whether a text starts with a space or a line end or is over. -/
def atSpaceOrBreak : List Char → Bool
  | [] => true
  | c :: _ => c == ' ' || isBreak c

/-- Whether a text starts with a character that satisfies `p`. -/
def startsWith (p : Char → Bool) : List Char → Bool
  | [] => false
  | c :: _ => p c

/-- Letters of names: of anchors, of tag handles and of directives. -/
def isNameChar (c : Char) : Bool := c.isAlphanum || c == '-' || c == '_'

/-- The value of a hexadecimal digit. -/
def hexValue? (c : Char) : Option Nat :=
  if '0' ≤ c && c ≤ '9' then some (c.toNat - 0x30)
  else if 'a' ≤ c && c ≤ 'f' then some (c.toNat - 0x57)
  else if 'A' ≤ c && c ≤ 'F' then some (c.toNat - 0x37)
  else none

/-- The number written by hexadecimal digits, if there are `count` of them at the front. -/
def hexNumber? (count : Nat) (cs : List Char) : Option Nat :=
  if (cs.take count).length < count then none
  else ((cs.take count).mapM hexValue?).map fun ds => ds.foldl (fun n d => 16 * n + d) 0

/-- Whether a text starts with a document marker: three `-` or three `.` on their own. -/
def atMarker (mark : Char) : List Char → Bool
  | a :: b :: c :: rest => a == mark && b == mark && c == mark && atGap rest
  | _ => false

/-- Whether a text starts with a marker of either kind. -/
def atSeparator (cs : List Char) : Bool := atMarker '-' cs || atMarker '.' cs

namespace Cursor

/-- The cursor after one character. -/
def next (c : Cursor) : Cursor :=
  match c.rest with
  | [] => c
  | ch :: rest =>
    if (isBreak ch && ch != '\r') || (ch == '\r' && rest.head? != some '\n') then
      { rest, index := c.index + 1, line := c.line + 1, column := 0 }
    else if ch == '\uFEFF' then { c with rest, index := c.index + 1 }
    else { c with rest, index := c.index + 1, column := c.column + 1 }

/-- The cursor after several characters. -/
def advance : Nat → Cursor → Cursor
  | 0, c => c
  | n + 1, c => advance n c.next

/-- The characters at the front that satisfy `p`, and the cursor after them. -/
def span (p : Char → Bool) (c : Cursor) : List Char × Cursor :=
  let taken := c.rest.takeWhile p
  (taken, c.advance taken.length)

/-- The cursor after the characters at the front that satisfy `p`. -/
def skip (p : Char → Bool) (c : Cursor) : Cursor := (c.span p).2

/-- Reads a line end, if there is one: its value and the cursor after it. -/
def lineBreak (c : Cursor) : List Char × Cursor :=
  match c.rest with
  | '\r' :: '\n' :: _ => (['\n'], c.advance 2)
  | ch :: _ =>
    if ch == '\u2028' || ch == '\u2029' then ([ch], c.next)
    else if isBreak ch then (['\n'], c.next)
    else ([], c)
  | [] => ([], c)

/-- The cursor after a comment, if there is one. -/
def skipComment (c : Cursor) : Cursor :=
  if c.rest.head? == some '#' then c.skip (!isBreak ·) else c

/-- The cursor after the rest of a line that holds nothing but a comment; nothing if it holds
something else. -/
def ignoredLine? (c : Cursor) : Option Cursor :=
  let c := (c.skip (· == ' ')).skipComment
  if atBreak c.rest then some c.lineBreak.2 else none

end Cursor

end TypstPress.Yaml
