import TypstPress.Yaml.Cursor
import TypstPress.Yaml.Problem

/-!
# Quoted scalars

Between single quotes only the doubled quote has a meaning of its own. Between double quotes a
backslash starts an escape: of one character, of a code point in hexadecimal digits, or of a line
end. Line ends fold as in plain scalars, and the blanks around them are dropped.

A code point beyond the last one is a fault of the value and not of the format.
-/

namespace TypstPress.Yaml.Quoted

/-- The characters that one letter after a backslash stands for. -/
def simpleEscape? (c : Char) : Option Char :=
  match c with
  | '0' => some '\x00'
  | 'a' => some '\x07'
  | 'b' => some '\x08'
  | 't' | '\t' => some '\t'
  | 'n' => some '\n'
  | 'v' => some '\x0b'
  | 'f' => some '\x0c'
  | 'r' => some '\r'
  | 'e' => some '\x1b'
  | ' ' => some ' '
  | '"' => some '"'
  | '\\' => some '\\'
  | '/' => some '/'
  | 'N' => some '\u0085'
  | '_' => some '\u00a0'
  | 'L' => some '\u2028'
  | 'P' => some '\u2029'
  | _ => none

/-- The number of hexadecimal digits that a letter after a backslash asks for. -/
def escapeWidth? (c : Char) : Option Nat :=
  match c with
  | 'x' => some 2
  | 'u' => some 4
  | 'U' => some 8
  | _ => none

/-- Checks that a number is a code point. -/
def codePoint (n : Nat) : Except Problem Nat :=
  if n < 0x110000 then .ok n
  else if n < 0x80000000 then .error (.wrongValue "chr() arg not in range(0x110000)")
  else .error (.fault ⟨"OverflowError", "Python int too large to convert to C int"⟩)

/-- The text of a sequence of code points. Two halves of a surrogate pair in a row are one
character. -/
def ofCodePoints : List Nat → List Char
  | high :: low :: rest =>
    if 0xD800 ≤ high && high < 0xDC00 && 0xDC00 ≤ low && low < 0xE000 then
      Char.ofNat (0x10000 + (high - 0xD800) * 0x400 + (low - 0xDC00)) :: ofCodePoints rest
    else Char.ofNat high :: ofCodePoints (low :: rest)
  | [n] => [Char.ofNat n]
  | [] => []

/-- The line ends at the start of lines, with the blanks before them dropped. -/
def breaks : Nat → Cursor → Except Problem (List Char × Cursor)
  | 0, c => .ok ([], c)
  | fuel + 1, c =>
    if atSeparator c.rest then .error (.malformed "a document ends inside quotes")
    else
      let c := c.skip fun ch => ch == ' ' || ch == '\t'
      if startsWith isBreak c.rest then
        let (ending, c) := c.lineBreak
        (breaks fuel c).map fun (more, c) => (ending ++ more, c)
      else .ok ([], c)

/-- Reads an escape after its backslash. -/
def escape (c : Cursor) : Except Problem (List Nat × Cursor) :=
  match c.rest with
  | [] => .error (.malformed "an escape is not known")
  | ch :: rest =>
    match simpleEscape? ch, escapeWidth? ch with
    | some plain, _ => .ok ([plain.toNat], c.next)
    | none, some width =>
      match hexNumber? width rest with
      | some n => (codePoint n).map fun n => ([n], c.advance (width + 1))
      | none => .error (.malformed "an escape lacks digits")
    | none, none =>
      if isBreak ch then
        let after := c.lineBreak.2
        (breaks (after.rest.length + 1) after).map fun (kept, c) => (kept.map Char.toNat, c)
      else .error (.malformed "an escape is not known")

/-- What blanks inside quotes are in the value. -/
def blanks (c : Cursor) : Except Problem (List Char × Cursor) :=
  let (spaces, c) := c.span fun ch => ch == ' ' || ch == '\t'
  if c.rest.isEmpty then .error (.malformed "a quoted scalar is not closed")
  else if startsWith isBreak c.rest then
    let (ending, c) := c.lineBreak
    (breaks (c.rest.length + 1) c).map fun (more, c) =>
      if ending != ['\n'] then (ending ++ more, c)
      else if more.isEmpty then ([' '], c)
      else (more, c)
  else .ok (spaces, c)

/-- Reads up to the closing quote. -/
def body (double : Bool) : Nat → Cursor → Except Problem (List Nat × Cursor)
  | 0, _ => .error (.malformed "a quoted scalar is not closed")
  | fuel + 1, c =>
    let followedBy (first : List Nat) (c : Cursor) : Except Problem (List Nat × Cursor) :=
      (body double fuel c).map fun (rest, c) => (first ++ rest, c)
    match c.rest with
    | [] => .error (.malformed "a quoted scalar is not closed")
    | ch :: rest =>
      if !double && ch == '\'' then
        if rest.head? == some '\'' then followedBy ['\''.toNat] (c.advance 2)
        else .ok ([], c.next)
      else if double && ch == '"' then .ok ([], c.next)
      else if double && ch == '\\' then do
        let (first, c) ← escape c.next
        followedBy first c
      else if isGap ch then do
        let (first, c) ← blanks c
        followedBy (first.map Char.toNat) c
      else followedBy [ch.toNat] c.next

/-- Reads a quoted scalar from its opening quote. -/
def read (double : Bool) (c : Cursor) : Except Problem (List Char × Cursor) :=
  (body double (c.rest.length + 1) c.next).map fun (codes, c) => (ofCodePoints codes, c)

end TypstPress.Yaml.Quoted
