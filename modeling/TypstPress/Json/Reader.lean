import TypstPress.Json

/-!
# Reading JSON

A value is read from the start of a text, with blanks around its parts. Escapes stand for UTF-16
units, and two of them may make up one character. What nests is read with a budget of steps that
any text of its length can be read with.
-/

namespace TypstPress.Json

/-- Whether a character may stand between the parts of a value. -/
def isGap (c : Char) : Bool := c == ' ' || c == '\n' || c == '\r' || c == '\t'

/-- The text without the gap in front. -/
def skipGap (cs : List Char) : List Char := cs.dropWhile isGap

/-- The value of a hexadecimal digit. -/
def hexValue? (c : Char) : Option Nat :=
  if c.isDigit then some (c.toNat - 0x30)
  else if 'a' ≤ c && c ≤ 'f' then some (c.toNat - 0x57)
  else if 'A' ≤ c && c ≤ 'F' then some (c.toNat - 0x37)
  else none

/-- The number that hexadecimal digits stand for. -/
def hexNumber? (digits : List Char) : Option Nat :=
  digits.foldlM (fun n c => (hexValue? c).map (16 * n + ·)) 0

/-- The character that a letter after a backslash stands for. -/
def unescape? : Char → Option Char
  | 'n' => some '\n'
  | 't' => some '\t'
  | 'r' => some '\r'
  | 'b' => some '\x08'
  | 'f' => some '\x0c'
  | '"' => some '"'
  | '\\' => some '\\'
  | '/' => some '/'
  | _ => none

/-- Reads a string after its opening quote, into the numbers of its characters and units; `done`
holds those before, the last one first. -/
def readUnits? (done : List Nat) : List Char → Option (List Nat × List Char)
  | [] => none
  | '"' :: rest => some (done.reverse, rest)
  | '\\' :: 'u' :: a :: b :: c :: d :: rest =>
    match hexNumber? [a, b, c, d] with
    | some unit => readUnits? (unit :: done) rest
    | none => none
  | '\\' :: c :: rest =>
    match unescape? c with
    | some c => readUnits? (c.toNat :: done) rest
    | none => none
  | c :: rest => readUnits? (c.toNat :: done) rest

/-- The character of two units, the first of the upper and the second of the lower half. -/
def joinUnits? (high low : Nat) : Option Char :=
  if 0xD800 ≤ high && high < 0xDC00 && 0xDC00 ≤ low && low < 0xE000 then
    some (Char.ofNat (0x10000 + (high - 0xD800) * 0x400 + (low - 0xDC00)))
  else none

/-- The characters of numbers, with units joined. A unit alone is no character. -/
def ofUnits : List Nat → List Char
  | [] => []
  | [n] => [Char.ofNat n]
  | n :: low :: rest =>
    match joinUnits? n low with
    | some c => c :: ofUnits rest
    | none => Char.ofNat n :: ofUnits (low :: rest)

/-- Reads a string after its opening quote. -/
def readString? (cs : List Char) : Option (String × List Char) :=
  (readUnits? [] cs).map fun r => (String.ofList (ofUnits r.1), r.2)

/-- Whether a character belongs to a number or a word. -/
def isWordChar (c : Char) : Bool := c.isAlphanum || c == '-' || c == '+' || c == '.'

/-- Whether a word is a number: digits, then perhaps a point with digits, then perhaps an exponent,
with a minus sign in front or not. -/
def isNumber (word : List Char) : Bool :=
  let unsigned := if word.head? == some '-' then word.drop 1 else word
  let whole := unsigned.takeWhile Char.isDigit
  let afterWhole := unsigned.drop whole.length
  let point := afterWhole.head? == some '.'
  let places := if point then (afterWhole.drop 1).takeWhile Char.isDigit else []
  let afterPlaces := if point then afterWhole.drop (places.length + 1) else afterWhole
  !whole.isEmpty && (!point || !places.isEmpty) &&
    match afterPlaces with
    | [] => true
    | e :: exponent =>
      let digits :=
        if exponent.head? == some '-' || exponent.head? == some '+' then exponent.drop 1
        else exponent
      (e == 'e' || e == 'E') && !digits.isEmpty && digits.all Char.isDigit

/-- The value of a word. -/
def ofWord? (word : List Char) : Option Json :=
  if word == ['n', 'u', 'l', 'l'] then some .null
  else if word == ['t', 'r', 'u', 'e'] then some (.bool true)
  else if word == ['f', 'a', 'l', 's', 'e'] then some (.bool false)
  else if isNumber word then some (.num (String.ofList word))
  else none

mutual

/-- Reads a value. -/
def readValue? : Nat → List Char → Option (Json × List Char)
  | 0, _ => none
  | fuel + 1, cs =>
    match skipGap cs with
    | '\x7b' :: rest =>
      match skipGap rest with
      | '\x7d' :: rest => some (.obj [], rest)
      | rest => readEntries? fuel [] rest
    | '[' :: rest =>
      match skipGap rest with
      | ']' :: rest => some (.arr [], rest)
      | rest => readItems? fuel [] rest
    | '"' :: rest => (readString? rest).map fun r => (.str r.1, r.2)
    | rest =>
      let word := rest.takeWhile isWordChar
      (ofWord? word).map fun j => (j, rest.drop word.length)

/-- Reads the rest of an array; `done` holds the items before, the last one first. -/
def readItems? : Nat → List Json → List Char → Option (Json × List Char)
  | 0, _, _ => none
  | fuel + 1, done, cs =>
    match readValue? fuel cs with
    | none => none
    | some (item, rest) =>
      match skipGap rest with
      | ',' :: rest => readItems? fuel (item :: done) rest
      | ']' :: rest => some (.arr (item :: done).reverse, rest)
      | _ => none

/-- Reads the rest of an object; `done` holds the entries before, the last one first. -/
def readEntries? : Nat → List (String × Json) → List Char → Option (Json × List Char)
  | 0, _, _ => none
  | fuel + 1, done, cs =>
    match skipGap cs with
    | '"' :: rest =>
      match readString? rest with
      | none => none
      | some (key, rest) =>
        match skipGap rest with
        | ':' :: rest =>
          match readValue? fuel rest with
          | none => none
          | some (value, rest) =>
            match skipGap rest with
            | ',' :: rest => readEntries? fuel ((key, value) :: done) rest
            | '\x7d' :: rest => some (.obj ((key, value) :: done).reverse, rest)
            | _ => none
        | _ => none
    | _ => none

end

/-- Reads a text that is one value. -/
def read? (text : String) : Option Json :=
  let cs := text.toList
  match readValue? (2 * cs.length + 2) cs with
  | some (j, rest) => if (skipGap rest).isEmpty then some j else none
  | none => none

end TypstPress.Json
