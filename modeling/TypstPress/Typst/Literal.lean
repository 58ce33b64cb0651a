/-!
# String literals of Typst

All text of a document is set as Typst string literals, so that none of it is read as markup.
Inside a literal the backslash, the double quote, the line feed, the tab and the carriage return
are written with a backslash.
-/

namespace TypstPress.Typst

/-- A character inside a literal. -/
def escapeChar : Char → List Char
  | '\\' => ['\\', '\\']
  | '"' => ['\\', '"']
  | '\n' => ['\\', 'n']
  | '\t' => ['\\', 't']
  | '\r' => ['\\', 'r']
  | c => [c]

/-- The inside of the literal for a text. -/
def escapeChars (cs : List Char) : List Char := cs.flatMap escapeChar

/-- The inside of the literal for a string. -/
def escape (s : String) : String := String.ofList (escapeChars s.toList)

end TypstPress.Typst
