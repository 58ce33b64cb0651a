import TypstPress.Yaml.Cursor
import TypstPress.Yaml.Problem

/-!
# Block scalars

A block scalar is introduced by `|` or `>` and holds the lines that are indented below it. Its
header may fix the indentation by a digit and tell what happens to the line ends at its end: by
default one is kept, `-` keeps none and `+` keeps all. With `>` a single line end between two lines
that start with no blank becomes a space.
-/

namespace TypstPress.Yaml.BlockText

/-- What a header says. -/
structure Header where
  /-- Whether all line ends at the end are kept, or none; missing for one. -/
  keep : Option Bool
  indent : Option Nat
  after : Cursor

/-- Reads a sign of the header. -/
def sign (c : Cursor) : Option Bool × Cursor :=
  match c.rest.head? with
  | some '+' => (some true, c.next)
  | some '-' => (some false, c.next)
  | _ => (none, c)

/-- Reads the digit of the header. -/
def digit (c : Cursor) : Except Problem (Option Nat × Cursor) :=
  match c.rest.head? with
  | some ch =>
    if ch == '0' then .error (.malformed "a block scalar is indented by nothing")
    else if ch.isDigit then .ok (some (ch.toNat - 0x30), c.next)
    else .ok (none, c)
  | none => .ok (none, c)

/-- Reads the header after its first character; the sign and the digit may come in any order. -/
def header (c : Cursor) : Except Problem Header := do
  let (first, c) := sign c
  let (indent, c) ← digit c
  let (second, c) := if first.isNone && indent.isSome then sign c else (none, c)
  if !atSpaceOrBreak c.rest then
    .error (.malformed "a block scalar has an unknown header")
  else
    match c.ignoredLine? with
    | some c => .ok { keep := first.or second, indent, after := c }
    | none => .error (.malformed "text follows the header of a block scalar")

/-- The line ends before the first line with text, and the widest indentation up to it. -/
def leading : Nat → Nat → Cursor → List Char × Nat × Cursor
  | 0, widest, c => ([], widest, c)
  | fuel + 1, widest, c =>
    if startsWith (· == ' ') c.rest then leading fuel (max widest c.next.column) c.next
    else if startsWith isBreak c.rest then
      let (ending, c) := c.lineBreak
      let (more, widest, c) := leading fuel widest c
      (ending ++ more, widest, c)
    else ([], widest, c)

/-- The cursor after the spaces up to a column. -/
def toColumn (indent : Nat) : Nat → Cursor → Cursor
  | 0, c => c
  | fuel + 1, c =>
    if c.column < indent && startsWith (· == ' ') c.rest then toColumn indent fuel c.next else c

/-- The line ends of lines without text. -/
def emptyLines (indent : Nat) : Nat → Cursor → List Char × Cursor
  | 0, c => ([], c)
  | fuel + 1, c =>
    let c := toColumn indent c.rest.length c
    if startsWith isBreak c.rest then
      let (ending, c) := c.lineBreak
      let (more, c) := emptyLines indent fuel c
      (ending ++ more, c)
    else ([], c)

/-- Whether the cursor stands at a line of the scalar. -/
def atLine (indent : Nat) (c : Cursor) : Bool := c.column == indent && !c.rest.isEmpty

/-- Whether a line starts with a blank. -/
def startsBlank (cs : List Char) : Bool := startsWith (fun ch => ch == ' ' || ch == '\t') cs

/-- Reads the lines: the value without the line ends at its end, the last line end, the ends of
the empty lines after it, and the cursor. -/
def lines (folded : Bool) (indent : Nat) : Nat → Cursor → List Char × List Char × List Char × Cursor
  | 0, c => ([], [], [], c)
  | fuel + 1, c =>
    let blankStart := startsBlank c.rest
    let (line, c) := c.span (!isBreak ·)
    let (ending, c) := c.lineBreak
    let (empty, c) := emptyLines indent (c.rest.length + 1) c
    if atLine indent c then
      let joint :=
        if folded && ending == ['\n'] && !blankStart && !startsBlank c.rest then
          if empty.isEmpty then [' '] else []
        else ending
      let (rest, last, trailing, c) := lines folded indent fuel c
      (line ++ joint ++ empty ++ rest, last, trailing, c)
    else (line, ending, empty, c)

/-- Reads a block scalar from its first character. Its lines have more indentation than
`minimum`, which is at least one. -/
def read (folded : Bool) (minimum : Nat) (c : Cursor) : Except Problem (List Char × Cursor) := do
  let h ← header c.next
  let c := h.after
  let (before, indent, c) :=
    match h.indent with
    | some n =>
      let indent := minimum + n - 1
      let (before, c) := emptyLines indent (c.rest.length + 1) c
      (before, indent, c)
    | none =>
      let (before, widest, c) := leading c.rest.length 0 c
      (before, max minimum widest, c)
  let (text, last, trailing, c) :=
    if atLine indent c then
      let (text, last, trailing, c) := lines folded indent (c.rest.length + 1) c
      (before ++ text, last, trailing, c)
    else ([], [], before, c)
  let ends := match h.keep with
    | some true => last ++ trailing
    | some false => []
    | none => last
  .ok (text ++ ends, c)

end TypstPress.Yaml.BlockText
