import TypstPress.Markdown.EntityTable

/-!
# Character references

A reference is `&` followed by a decimal number, a hexadecimal number or a name, and a semicolon.
Numbers follow the rules of HTML 5: some stand for another character, some for the replacement
character, and some for nothing. A name that is not known as a whole may start with one that is.
-/

namespace TypstPress.Markdown

/-- The value of a hexadecimal digit. -/
def hexValue? (c : Char) : Option Nat :=
  if '0' ≤ c && c ≤ '9' then some (c.toNat - 0x30)
  else if 'a' ≤ c && c ≤ 'f' then some (c.toNat - 0x57)
  else if 'A' ≤ c && c ≤ 'F' then some (c.toNat - 0x37)
  else none

/-- The number that a row of digits writes in the given base. -/
def numberOf (base : Nat) (digits : List Char) : Nat :=
  digits.foldl (fun n c => base * n + (hexValue? c).getD 0) 0

/-- The entry of the table in an item such as `amp;=26`. -/
def readEntity (item : String) : String × List Char :=
  let name := item.toList.takeWhile (· != '=')
  let code := (item.toList.dropWhile (· != '=')).drop 1
  let points := (String.ofList code).splitOn "+"
  (String.ofList name, points.map fun p => Char.ofNat (numberOf 16 p.toList))

/-- The named character references with what they stand for. -/
def entities : List (String × List Char) :=
  entityLines.flatMap fun line => (line.splitOn " ").map readEntity

/-- What a known name stands for. -/
def entity? (name : List Char) : Option (List Char) := entities.lookup (String.ofList name)

/-- Numbers that stand for another character than the one with that code point. -/
def remappedReferences : List (Nat × Nat) := [
  (0x00, 0xFFFD), (0x80, 0x20AC), (0x82, 0x201A), (0x83, 0x0192), (0x84, 0x201E), (0x85, 0x2026),
  (0x86, 0x2020), (0x87, 0x2021), (0x88, 0x02C6), (0x89, 0x2030), (0x8A, 0x0160), (0x8B, 0x2039),
  (0x8C, 0x0152), (0x8E, 0x017D), (0x91, 0x2018), (0x92, 0x2019), (0x93, 0x201C), (0x94, 0x201D),
  (0x95, 0x2022), (0x96, 0x2013), (0x97, 0x2014), (0x98, 0x02DC), (0x99, 0x2122), (0x9A, 0x0161),
  (0x9B, 0x203A), (0x9C, 0x0153), (0x9E, 0x017E), (0x9F, 0x0178)]

/-- Numbers that stand for the control character with that code point. -/
def keptControls : List Nat := [0x0D, 0x81, 0x8D, 0x8F, 0x90, 0x9D]

/-- Whether a number stands for nothing: other controls and code points that are no characters. -/
def isVoidReference (n : Nat) : Bool :=
  (0x01 ≤ n && n ≤ 0x08) || n == 0x0B || (0x0E ≤ n && n ≤ 0x1F) || (0x7F ≤ n && n ≤ 0x9F) ||
    (0xFDD0 ≤ n && n ≤ 0xFDEF) || n % 0x10000 == 0xFFFE || n % 0x10000 == 0xFFFF

/-- What a number stands for. -/
def numericReference (n : Nat) : List Char :=
  match remappedReferences.lookup n with
  | some code => [Char.ofNat code]
  | none =>
    if keptControls.contains n then [Char.ofNat n]
    else if (0xD800 ≤ n && n ≤ 0xDFFF) || 0x10FFFF < n then ['\uFFFD']
    else if isVoidReference n then []
    else [Char.ofNat n]

/-- What a name with its semicolon stands for: the name itself if it is known, otherwise the
longest known start of at least two characters with the rest, otherwise the name as written. -/
def namedReference (name : List Char) : List Char :=
  match entity? name with
  | some text => text
  | none =>
    let sizes := ((List.range name.length).filter (2 ≤ ·)).reverse
    match sizes.findSome? fun n => (entity? (name.take n)).map (· ++ name.drop n) with
    | some text => text
    | none => '&' :: name

/-- A character of a name. -/
def isNameChar (c : Char) : Bool :=
  !(c == '\t' || c == '\n' || c == '\x0c' || c == ' ' || c == '<' || c == '&' || c == '#' ||
    c == ';')

/-- What the reference after an `&` stands for, with its length. -/
def reference? (cs : List Char) : Option (List Char × Nat) :=
  let ended (size : Nat) : Bool := (cs.drop size).head? == some ';'
  match cs with
  | '#' :: rest =>
    let decimal := rest.takeWhile Char.isDigit
    if !decimal.isEmpty && decimal.length ≤ 7 && ended (decimal.length + 1) then
      some (numericReference (numberOf 10 decimal), decimal.length + 2)
    else
      match rest with
      | x :: rest =>
        let hexadecimal := rest.takeWhile fun c => (hexValue? c).isSome
        if (x == 'x' || x == 'X') && !hexadecimal.isEmpty && ended (hexadecimal.length + 2) then
          some (numericReference (numberOf 16 hexadecimal), hexadecimal.length + 3)
        else none
      | [] => none
  | cs =>
    let name := cs.takeWhile isNameChar
    if !name.isEmpty && name.length ≤ 32 && ended name.length then
      some (namedReference (name ++ [';']), name.length + 1)
    else none

/-- Decodes the references of a text after skipping some characters. -/
def decodeFrom : Nat → List Char → List Char
  | _, [] => []
  | skip + 1, _ :: rest => decodeFrom skip rest
  | 0, c :: rest =>
    if c == '&' then
      match reference? rest with
      | some (text, size) => text ++ decodeFrom size rest
      | none => c :: decodeFrom 0 rest
    else c :: decodeFrom 0 rest

/-- The text with its character references replaced by what they stand for. -/
def decodeReferences (cs : List Char) : List Char := decodeFrom 0 cs

end TypstPress.Markdown
