import TypstPress.Options.Basic

/-!
# Options of the Markdown reader

Each syntax beyond the common core can be switched off. Directives are recognised by name; a name
is made of ASCII letters, digits, `_` and `-`, since the fence syntax can express no other.
-/

namespace TypstPress

/-- What the Markdown reader recognises. -/
structure MarkdownOptions where
  tables : Bool := true
  footnotes : Bool := true
  math : Bool := true
  strikethrough : Bool := true
  frontMatter : Bool := true
  directives : Bool := true
  directiveNames : List String := ["figure", "typst", "pause", "meanwhile"]
deriving DecidableEq, Repr, Inhabited

namespace MarkdownOptions

/-- A character of a directive name. -/
def isNameChar (c : Char) : Bool := c.isAlphanum || c == '_' || c == '-'

/-- Whether the fence syntax can express the name. -/
def isDirectiveName (name : String) : Bool :=
  !name.isEmpty && name.toList.all isNameChar

/-- The failure for a directive name that the fence syntax cannot express. -/
def badDirectiveName (name : String) : Failure :=
  .fault (Fault.wrongValue ("Invalid directive name " ++ Text.quoted name ++
    ": use letters, digits, '_' or '-'"))

/-- The options, if all directive names can be expressed. -/
def validated (o : MarkdownOptions) : Except Failure MarkdownOptions :=
  match o.directiveNames.find? (!isDirectiveName ·) with
  | some name => .error (badDirectiveName name)
  | none => .ok o

/-- The fields in order, by name. -/
def fields (o : MarkdownOptions) : List (String × OptionValue) :=
  [("parse_tables", .flag o.tables), ("parse_footnotes", .flag o.footnotes),
   ("parse_math", .flag o.math), ("parse_strikethrough", .flag o.strikethrough),
   ("parse_frontmatter", .flag o.frontMatter), ("parse_directives", .flag o.directives),
   ("directive_names", .texts o.directiveNames)]

/-- The options with one field changed; fails for a field that does not exist. -/
def set (o : MarkdownOptions) : String × OptionValue → Except Failure MarkdownOptions
  | ("parse_tables", .flag b) => .ok { o with tables := b }
  | ("parse_footnotes", .flag b) => .ok { o with footnotes := b }
  | ("parse_math", .flag b) => .ok { o with math := b }
  | ("parse_strikethrough", .flag b) => .ok { o with strikethrough := b }
  | ("parse_frontmatter", .flag b) => .ok { o with frontMatter := b }
  | ("parse_directives", .flag b) => .ok { o with directives := b }
  | ("directive_names", .texts names) => .ok { o with directiveNames := names }
  | (name, _) => .error (.unknownOption name)

/-- The options with several fields changed and then checked. -/
def updated (o : MarkdownOptions) (changes : List (String × OptionValue)) :
    Except Failure MarkdownOptions :=
  (changes.foldlM set o).bind validated

/-- The descriptions of the fields. -/
def descriptions : List (String × OptionInfo) :=
  [("parse_tables",
     [("help", "Parse table syntax (GFM pipe tables)"), ("cli_name", "no-parse-tables"),
      ("importance", "core")]),
   ("parse_footnotes",
     [("help", "Parse footnote references and definitions"), ("cli_name", "no-parse-footnotes"),
      ("importance", "core")]),
   ("parse_math",
     [("help", "Parse inline and block math ($...$ and $$...$$)"), ("cli_name", "no-parse-math"),
      ("importance", "core")]),
   ("parse_strikethrough",
     [("help", "Parse strikethrough syntax (~~text~~)"), ("cli_name", "no-parse-strikethrough"),
      ("importance", "core")]),
   ("parse_frontmatter",
     [("help", "Parse YAML front matter at document start"), ("cli_name", "no-parse-frontmatter"),
      ("importance", "core")]),
   ("parse_directives",
     [("help", "Parse colon-fenced directives (:::\x7bname\x7d title)"),
      ("cli_name", "no-parse-directives"), ("importance", "advanced")]),
   ("directive_names",
     [("help", "Directive names recognized by the fenced directive syntax"),
      ("importance", "advanced")])]

end MarkdownOptions

end TypstPress
