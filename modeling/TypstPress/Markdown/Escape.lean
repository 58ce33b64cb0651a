/-!
# Backslash escapes

A backslash before ASCII punctuation stands for the punctuation itself.
-/

namespace TypstPress.Markdown

/-- ASCII punctuation. -/
def isPunctuation (c : Char) : Bool :=
  ('!' ≤ c && c ≤ '/') || (':' ≤ c && c ≤ '@') || ('[' ≤ c && c ≤ '\x60') ||
    ('\x7b' ≤ c && c ≤ '~')

/-- The text with its escapes replaced by what they stand for. -/
def dropEscapes : List Char → List Char
  | '\\' :: c :: rest =>
    if isPunctuation c then c :: dropEscapes rest else '\\' :: dropEscapes (c :: rest)
  | c :: rest => c :: dropEscapes rest
  | [] => []

end TypstPress.Markdown
