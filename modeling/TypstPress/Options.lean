import TypstPress.Options.Markdown
import TypstPress.Options.Typst

/-!
# Options of any component

A component takes options of its own kind or none, which stands for the defaults. Options of
another kind are refused with a message that names both kinds.
-/

namespace TypstPress

/-- Options of some component. The plain kinds hold no fields. -/
inductive AnyOptions where
  | markdown (o : MarkdownOptions)
  | typst (o : TypstOptions)
  | plainParser
  | plainRenderer
deriving DecidableEq, Repr, Inhabited

namespace AnyOptions

/-- The name of the kind. -/
def name : AnyOptions → String
  | .markdown _ => "MarkdownParserOptions"
  | .typst _ => "TypstRendererOptions"
  | .plainParser => "BaseParserOptions"
  | .plainRenderer => "BaseRendererOptions"

/-- The fields in order, by name. -/
def fields : AnyOptions → List (String × OptionValue)
  | .markdown o => o.fields
  | .typst o => o.fields
  | .plainParser | .plainRenderer => []

/-- The descriptions of the fields. -/
def descriptions : AnyOptions → List (String × OptionInfo)
  | .markdown _ => MarkdownOptions.descriptions
  | .typst _ => TypstOptions.descriptions
  | .plainParser | .plainRenderer => []

/-- The options with several fields changed and then checked. -/
def updated (changes : List (String × OptionValue)) : AnyOptions → Except Failure AnyOptions
  | .markdown o => (o.updated changes).map .markdown
  | .typst o => (o.updated changes).map .typst
  | plain =>
    match changes with
    | [] => .ok plain
    | (name, _) :: _ => .error (.unknownOption name)

/-- Options for the Markdown reader. -/
def forMarkdown : Option AnyOptions → Except Failure MarkdownOptions
  | none => .ok {}
  | some (.markdown o) => .ok o
  | some other => .error (.wrongOptions "markdown" "MarkdownParserOptions" other.name)

/-- Options for the Typst compiler. -/
def forTypst : Option AnyOptions → Except Failure TypstOptions
  | none => .ok {}
  | some (.typst o) => .ok o
  | some other => .error (.wrongOptions "typst" "TypstRendererOptions" other.name)

end AnyOptions

end TypstPress
