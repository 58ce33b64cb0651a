/-!
# JSON values

Values of JSON as they are written: an object keeps the order of its entries and a number its
digits. What is looked for and not there is null or empty, so that optional fields need no care.
-/

namespace TypstPress

/-- A JSON value. -/
inductive Json where
  | null
  | bool (b : Bool)
  | num (digits : String)
  | str (s : String)
  | arr (items : List Json)
  | obj (entries : List (String × Json))
deriving Inhabited, Repr

namespace Json

/-- The items of an array. -/
def items : Json → List Json
  | .arr items => items
  | _ => []

/-- The entries of an object. -/
def entries : Json → List (String × Json)
  | .obj entries => entries
  | _ => []

/-- A field of an object; null when it is missing. -/
def get (j : Json) (key : String) : Json := (j.entries.lookup key).getD .null

/-- Whether an object has a field. -/
def has (j : Json) (key : String) : Bool := (j.entries.lookup key).isSome

/-- The text of a string; nothing for other values. -/
def text? : Json → Option String
  | .str s => some s
  | _ => none

/-- The text of a string; the empty text for other values. -/
def text (j : Json) : String := j.text?.getD ""

/-- Whether the value is null. -/
def isNull : Json → Bool
  | .null => true
  | _ => false

/-- A truth value, with a default for anything else. -/
def flag (j : Json) (default : Bool) : Bool :=
  match j with
  | .bool b => b
  | _ => default

/-- A whole number. -/
def int? : Json → Option Int
  | .num digits => digits.toInt?
  | _ => none

/-- A number from a whole number. -/
def ofInt (n : Int) : Json := .num (toString n)

/-- A number from a natural number. -/
def ofNat (n : Nat) : Json := .num (toString n)

/-- A string or null. -/
def ofText? : Option String → Json
  | some s => .str s
  | none => .null

end Json

end TypstPress
