import TypstPress.Decimal.Binary64
import TypstPress.Text.Blank
import TypstPress.Text.Digit
import TypstPress.Text.Quoted
import TypstPress.Yaml.Problem

/-!
# Numbers of YAML

Whole numbers are written in base 10, with `0b` in base 2, with `0` in base 8, with `0x` in base 16
and with colons in base 60. Underscores between digits are dropped. A tag may call any scalar a
number, so these functions take every text: what is no number is a fault of the value.

Digits may come from every script, and blanks around a number do not count.
-/

namespace TypstPress.Yaml.Number

/-- A character as number readers see it: digits and blanks of all scripts count as those of
ASCII. -/
def plainChar (c : Char) : Char :=
  if c.toNat < 127 then c
  else if Text.isBlank c then ' '
  else
    match Text.digitValue? c with
    | some d => Char.ofNat (0x30 + d)
    | none => '?'

/-- Blanks that may surround a number. -/
def isOuterBlank (c : Char) : Bool := (0x09 ≤ c.toNat && c.toNat ≤ 0x0D) || c == ' '

/-- The text of a number as its readers see it. -/
def simplified (cs : List Char) : List Char := Text.trimWhile isOuterBlank (cs.map plainChar)

/-- Splits off a sign. -/
def splitSign : List Char → Bool × List Char
  | '-' :: rest => (true, rest)
  | '+' :: rest => (false, rest)
  | cs => (false, cs)

/-- The value of a digit or a letter as a digit of a large base. -/
def letterValue? (c : Char) : Option Nat :=
  if '0' ≤ c && c ≤ '9' then some (c.toNat - 0x30)
  else if 'a' ≤ c && c ≤ 'z' then some (c.toNat - 0x57)
  else if 'A' ≤ c && c ≤ 'Z' then some (c.toNat - 0x37)
  else none

/-- The value of a digit of the given base. -/
def baseDigit? (base : Nat) (c : Char) : Option Nat := (letterValue? c).filter (· < base)

/-- The text without the mark of its base. -/
def dropBaseMark (base : Nat) (cs : List Char) : List Char :=
  let mark := if base == 2 then 'b' else if base == 8 then 'o' else 'x'
  match cs with
  | '0' :: m :: rest => if base != 10 && m.toLower == mark then rest else cs
  | _ => cs

/-- A text in a message about numbers: quoted, and cut after two hundred characters. -/
def shown (cs : List Char) : String :=
  String.ofList ((Text.quoted (String.ofList cs)).toList.take 200)

/-- Reads a whole number in the given base. -/
def wholeNumber (base : Nat) (cs : List Char) : Except Problem Int :=
  let (negative, body) := splitSign (simplified cs)
  let body := dropBaseMark base body
  let digits := body.takeWhile fun c => (baseDigit? base c).isSome
  if base == 10 && Problem.digitLimit < digits.length then .error (.tooManyDigits digits.length)
  else if digits.isEmpty || digits.length < body.length then
    .error (.wrongValue ("invalid literal for int() with base " ++ toString base ++ ": " ++
      shown cs))
  else
    let n := (digits.filterMap (baseDigit? base)).foldl (fun n d => base * n + d) 0
    .ok (if negative then -(n : Int) else n)

/-- The parts of a text between colons. -/
def parts : List Char → List (List Char)
  | [] => [[]]
  | c :: rest =>
    match parts rest with
    | [] => [[c]]
    | part :: more => if c == ':' then [] :: part :: more else (c :: part) :: more

/-- A text that is asked for its first character but has none. -/
def tooShort : Problem := .fault ⟨"IndexError", "string index out of range"⟩

/-- The number that a scalar tagged as a whole number stands for. -/
def int (text : String) : Except Problem Int :=
  match text.toList.filter (· != '_') with
  | [] => .error tooShort
  | cs =>
    let (negative, body) := splitSign cs
    let signed (n : Except Problem Int) : Except Problem Int :=
      n.map fun n => if negative then -n else n
    match body with
    | [] => .error tooShort
    | ['0'] => .ok 0
    | '0' :: 'b' :: rest => signed (wholeNumber 2 rest)
    | '0' :: 'x' :: rest => signed (wholeNumber 16 rest)
    | '0' :: _ => signed (wholeNumber 8 body)
    | _ =>
      if body.contains ':' then
        signed (((parts body).mapM (wholeNumber 10)).map fun ns =>
          ns.foldl (fun sum n => 60 * sum + n) 0)
      else signed (wholeNumber 10 body)

/-- Reads a point, digits and an exponent in base ten up to the end of the text: the digits, and
the exponent of the last one. -/
def decimal? (cs : List Char) : Option (Nat × Int) :=
  let whole := cs.takeWhile Char.isDigit
  let (fraction, rest) :=
    match cs.dropWhile Char.isDigit with
    | '.' :: rest => (rest.takeWhile Char.isDigit, rest.dropWhile Char.isDigit)
    | rest => ([], rest)
  let digits := Text.numeral (whole ++ fraction)
  if whole.isEmpty && fraction.isEmpty then none
  else
    match rest with
    | [] => some (digits, -fraction.length)
    | e :: rest =>
      let (negative, exponent) := splitSign rest
      if e.toLower == 'e' && !exponent.isEmpty && exponent.all Char.isDigit then
        let n : Int := Text.numeral exponent
        some (digits, (if negative then -n else n) - fraction.length)
      else none

/-- Reads a floating point number. -/
def floatingPoint (cs : List Char) : Except Problem Binary64 :=
  let (negative, body) := splitSign (simplified cs)
  let word := String.ofList (body.map Char.toLower)
  if word == "inf" || word == "infinity" then .ok (.infinite negative)
  else if word == "nan" then .ok .nan
  else
    match decimal? body with
    | some (digits, exponent) => .ok (Binary64.ofDecimal negative digits exponent)
    | none =>
      .error (.wrongValue ("could not convert string to float: " ++
        Text.quoted (String.ofList cs)))

/-- Adds up parts in base sixty, the lowest first. `base` is the weight of the next one. -/
def addSixties : List Binary64 → Nat → Binary64 → Except Problem Binary64
  | [], _, sum => .ok sum
  | part :: parts, base, sum =>
    match Binary64.ofInt base with
    | .infinite _ => .error (.fault ⟨"OverflowError", "int too large to convert to float"⟩)
    | weight => addSixties parts (60 * base) (sum.add (part.mul weight))

/-- The number that a scalar tagged as a number with a fraction stands for; the text is in lower
case. -/
def float (text : String) : Except Problem Binary64 :=
  match text.toList.filter (· != '_') with
  | [] => .error tooShort
  | cs =>
    let (negative, body) := splitSign cs
    let signed (x : Except Problem Binary64) : Except Problem Binary64 :=
      x.map fun x => if negative then x.neg else x
    if body == ".inf".toList then .ok (.infinite negative)
    else if body == ".nan".toList then .ok .nan
    else if body.contains ':' then
      signed (((parts body).mapM floatingPoint).bind fun xs =>
        addSixties xs.reverse 1 (.finite false 0 Binary64.minExponent))
    else signed (floatingPoint body)

end TypstPress.Yaml.Number
