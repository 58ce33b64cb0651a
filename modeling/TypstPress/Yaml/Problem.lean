import TypstPress.Failure

/-!
# What can go wrong with YAML

A text is malformed when it breaks the rules of the format: its characters, its layout, its tags or
the shape of its values. Some well-formed scalars still stand for nothing, such as a day that no
calendar has; those faults come from the value and not from the format, and are kept apart.
-/

namespace TypstPress.Yaml

/-- Why a text has no value. -/
inductive Problem where
  /-- The text breaks a rule of the format. -/
  | malformed (rule : String)
  /-- A scalar stands for no value of its type. -/
  | fault (fault : Fault)
deriving DecidableEq, Repr, Inhabited

namespace Problem

/-- A scalar whose value is out of range. -/
def wrongValue (text : String) : Problem := .fault (Fault.wrongValue text)

/-- The greatest number of digits of a number in base ten. -/
def digitLimit : Nat := 4300

/-- A number with more digits than allowed. -/
def tooManyDigits (count : Nat) : Problem :=
  wrongValue ("Exceeds the limit (" ++ toString digitLimit ++
    " digits) for integer string conversion: value has " ++ toString count ++
    " digits; use sys.set_int_max_str_digits() to increase the limit")

end Problem

end TypstPress.Yaml
