/-!
# Relative lengths of Typst

A relative length such as `1pt + 50%` is one or more terms joined by signs, with one sign allowed
in front. A term is a number of ASCII digits directly followed by a unit, and only the plain space
separates. Image attributes are written into the source unquoted, so exactly this language may
pass.
-/

namespace TypstPress.Typst

/-- An ASCII digit. -/
def isAsciiDigit (c : Char) : Bool := '0' ≤ c && c ≤ '9'

/-- What follows the spaces at the start. -/
def skipSpaces (cs : List Char) : List Char := cs.dropWhile (· == ' ')

/-- What follows one or more digits at the start. -/
def readDigits : List Char → Option (List Char)
  | c :: rest => if isAsciiDigit c then some (rest.dropWhile isAsciiDigit) else none
  | [] => none

/-- What follows a number at the start: digits, digits with a fraction, or a fraction alone. -/
def readNumber : List Char → Option (List Char)
  | '.' :: rest => readDigits rest
  | cs =>
    match readDigits cs with
    | some ('.' :: rest) => (readDigits rest).orElse fun _ => some ('.' :: rest)
    | other => other

/-- What follows a unit at the start. -/
def readUnit : List Char → Option (List Char)
  | 'p' :: 't' :: rest => some rest
  | 'm' :: 'm' :: rest => some rest
  | 'c' :: 'm' :: rest => some rest
  | 'i' :: 'n' :: rest => some rest
  | 'e' :: 'm' :: rest => some rest
  | '%' :: rest => some rest
  | _ => none

/-- What follows a term at the start. -/
def readTerm (cs : List Char) : Option (List Char) := (readNumber cs).bind readUnit

/-- What follows a sign at the start. -/
def readSign : List Char → Option (List Char)
  | '+' :: rest => some rest
  | '-' :: rest => some rest
  | _ => none

/-- Whether the text is signs and terms in turn up to the spaces at its end. The number of signs
bounds the terms. -/
def isLengthTail : Nat → List Char → Bool
  | 0, cs => (skipSpaces cs).isEmpty
  | fuel + 1, cs =>
    match skipSpaces cs with
    | [] => true
    | c :: rest =>
      match readSign (c :: rest) with
      | some rest =>
        match readTerm (skipSpaces rest) with
        | some rest => isLengthTail fuel rest
        | none => false
      | none => false

/-- Whether a text is a relative length. -/
def isLength (cs : List Char) : Bool :=
  let start := skipSpaces cs
  match readTerm (skipSpaces ((readSign start).getD start)) with
  | some rest => isLengthTail rest.length rest
  | none => false

/-- Whether a string is a relative length. -/
def isRelativeLength (s : String) : Bool := isLength s.toList

end TypstPress.Typst
