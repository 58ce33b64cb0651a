import TypstPress.Yaml.Moment
import TypstPress.Yaml.Tag

/-!
# Tags of plain scalars

A plain scalar without a tag is a truth value, a number, a date, a null or a text by its form. The
forms are those of YAML 1.1: numbers may have underscores, whole numbers may be written in base 2,
8, 16 and 60, a fraction needs a point and an exponent its sign. One line end after the scalar is
not counted.
-/

namespace TypstPress.Yaml.Implicit

/-- Binary, octal and hexadecimal digits with underscores. -/
def isBinary (c : Char) : Bool := c == '0' || c == '1' || c == '_'

@[inherit_doc isBinary]
def isOctal (c : Char) : Bool := ('0' ≤ c && c ≤ '7') || c == '_'

@[inherit_doc isBinary]
def isHex (c : Char) : Bool :=
  c.isDigit || ('a' ≤ c && c ≤ 'f') || ('A' ≤ c && c ≤ 'F') || c == '_'

/-- A decimal digit or an underscore. -/
def isDecimal (c : Char) : Bool := c.isDigit || c == '_'

/-- The text without a sign at its start. -/
def dropSign : List Char → List Char
  | '-' :: rest => rest
  | '+' :: rest => rest
  | cs => cs

/-- Parts of base sixty: `:` and a number below sixty, at least `least` of them, and the end. -/
def isSixties (least : Nat) : List Char → Bool
  | [] => least == 0
  | ':' :: a :: ':' :: rest => a.isDigit && isSixties (least - 1) (':' :: rest)
  | [':', a] => a.isDigit && least ≤ 1
  | ':' :: a :: b :: rest =>
    ('0' ≤ a && a ≤ '5') && b.isDigit && isSixties (least - 1) rest
  | _ => false

/-- Whether the text is a whole number. -/
def isInt (cs : List Char) : Bool :=
  match dropSign cs with
  | ['0'] => true
  | '0' :: 'b' :: rest => !rest.isEmpty && rest.all isBinary
  | '0' :: 'x' :: rest => !rest.isEmpty && rest.all isHex
  | '0' :: rest => rest.all isOctal
  | c :: rest =>
    ('1' ≤ c && c ≤ '9') &&
      (rest.all isDecimal || isSixties 1 (rest.dropWhile isDecimal))
  | [] => false

/-- Whether the text is a signed exponent or nothing. -/
def isExponent : List Char → Bool
  | [] => true
  | e :: sign :: digits =>
    (e == 'e' || e == 'E') && (sign == '-' || sign == '+') && !digits.isEmpty &&
      digits.all Char.isDigit
  | _ => false

/-- Whether the text is a point with digits and an exponent, or with digits only. -/
def isFraction (exponent : Bool) : List Char → Bool
  | '.' :: rest =>
    let after := rest.dropWhile isDecimal
    after.isEmpty || (exponent && isExponent after)
  | _ => false

/-- Whether the text is a number with a fraction. -/
def isFloat (cs : List Char) : Bool :=
  let body := dropSign cs
  match body with
  | '.' :: rest =>
    [".inf", ".Inf", ".INF"].any (·.toList == body) ||
      [".nan", ".NaN", ".NAN"].any (·.toList == cs) ||
      (startsWithDigit rest && cs == body && isFraction true body)
  | _ =>
    startsWithDigit body &&
      (let after := body.dropWhile isDecimal
       isFraction true after ||
        (let sixties := after.takeWhile (· != '.')
         isSixties 1 sixties && isFraction false (after.drop sixties.length)))
where
  /-- Whether a text starts with a decimal digit. -/
  startsWithDigit : List Char → Bool
    | [] => false
    | c :: _ => c.isDigit

/-- Words for truth values. -/
def boolWords : List String :=
  ["yes", "Yes", "YES", "no", "No", "NO", "true", "True", "TRUE", "false", "False", "FALSE",
   "on", "On", "ON", "off", "Off", "OFF"]

/-- Words for nothing. -/
def nullWords : List String := ["~", "null", "Null", "NULL", ""]

/-- The tag of a scalar by its form, without a line end. -/
def ofForm (cs : List Char) : Tag :=
  let text := String.ofList cs
  if boolWords.contains text then .bool
  else if isFloat cs then .float
  else if isInt cs then .int
  else if text == "<<" then .merge
  else if nullWords.contains text then .null
  else if (Moment.read? cs).any (·.isImplicit) then .timestamp
  else if text == "=" then .default
  else if ["!", "&", "*"].contains text then .other "tag:yaml.org,2002:yaml"
  else .text

end Implicit

/-- The tag of a scalar by its form. A line end alone is a text. -/
def Tag.ofForm (text : String) : Tag :=
  match text.toList with
  | ['\n'] => .text
  | cs => Implicit.ofForm (if cs.getLast? == some '\n' then cs.dropLast else cs)

end TypstPress.Yaml
