import TypstPress.Failure

/-!
# Fields of options

Options are records with named fields. For listing and updating them by name a field's value is a
flag, a text or a list of texts, and each field carries a short description.
-/

namespace TypstPress

/-- The value of an option. -/
inductive OptionValue where
  | flag (b : Bool)
  | text (s : String)
  | texts (ss : List String)
deriving DecidableEq, Repr, Inhabited

/-- The description of an option, as name and text of its parts. -/
abbrev OptionInfo := List (String × String)

namespace Failure

/-- The failure for an option that does not exist. -/
def unknownOption (name : String) : Failure :=
  .fault (Fault.wrongType ("unexpected option '" ++ name ++ "'"))

/-- The failure for changing an option in place. -/
def frozenOption (name : String) : Failure :=
  .fault (Fault.unchangeable ("cannot assign to option '" ++ name ++ "'"))

end Failure

end TypstPress
