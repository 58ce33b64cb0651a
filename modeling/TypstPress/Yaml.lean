import TypstPress.Yaml.Content
import TypstPress.Yaml.Grammar

/-!
# YAML

A text is cut into tokens, the tokens form the node of the only document, and the node has a value.
Only values of the common types are known; a tag of any other kind makes the text malformed.
-/

namespace TypstPress.Yaml

/-- The value of a text; null for an empty text. -/
def load (cs : List Char) : Except Problem Value := do
  match ← Node.ofText? cs with
  | none => .ok .null
  | some root => root.value.mapError (·.problem)

end TypstPress.Yaml
