import TypstPress.Failure

/-!
# Urls

An image is stored under a hash of the UTF-8 form of its url. Reading Markdown makes urls of ASCII
characters, but trees are also built by callers, and a url that was cut out of UTF-16 may hold half
of a pair without the other half. Such a url has no UTF-8 form. Where it is only shown, the
replacement character stands for every such half, since what is shown is text; where it has to be
encoded that is a fault.
-/

namespace TypstPress

/-- Half of a UTF-16 pair that stands alone, by its place among all of them. -/
abbrev Surrogate := Fin 0x800

namespace Surrogate

/-- The code point of a surrogate. -/
def codePoint (half : Surrogate) : Nat := 0xD800 + half.val

/-- A surrogate as messages name it. -/
def mention (half : Surrogate) : String :=
  "'" ++ String.ofList ('\\' :: 'u' :: Text.hexDigits 4 half.codePoint) ++ "'"

end Surrogate

/-- A code point: a character or a surrogate. -/
inductive CodePoint where
  | scalar (c : Char)
  | surrogate (half : Surrogate)
deriving DecidableEq, Repr, Inhabited

namespace CodePoint

/-- The character that a code point is shown as. -/
def shown : CodePoint → Char
  | .scalar c => c
  | .surrogate _ => '\uFFFD'

/-- How many surrogates stand at the front of a row of code points. -/
def leadingSurrogates : List CodePoint → Nat
  | .surrogate _ :: rest => leadingSurrogates rest + 1
  | _ => 0

end CodePoint

/-- A row of code points that is no text: the characters before its first surrogate, that
surrogate, and what follows it. -/
structure IllFormedText where
  before : String
  first : Surrogate
  after : List CodePoint
deriving DecidableEq, Repr, Inhabited

namespace IllFormedText

/-- The row as source and messages show it. -/
def shown (t : IllFormedText) : String :=
  t.before ++ String.ofList (CodePoint.shown (.surrogate t.first) :: t.after.map CodePoint.shown)

/-- The fault of encoding the row. It tells which surrogates stand at the first place that has one:
one by itself with its code point, several with their positions. -/
def fault (t : IllFormedText) : Fault :=
  let start := t.before.length
  let place :=
    match CodePoint.leadingSurrogates t.after with
    | 0 => s!"character {t.first.mention} in position {start}"
    | more => s!"characters in position {start}-{start + more}"
  ⟨"UnicodeEncodeError", "'utf-8' codec can't encode " ++ place ++ ": surrogates not allowed"⟩

end IllFormedText

/-- A url: a text, or a row of code points that is none. -/
inductive Url where
  | text (s : String)
  | illFormed (t : IllFormedText)
deriving DecidableEq, Repr, Inhabited

instance : Coe String Url := ⟨.text⟩

namespace Url

/-- The url as source and messages show it. -/
def shown : Url → String
  | .text s => s
  | .illFormed t => t.shown

/-- The text whose UTF-8 form is that of the url, or what stands in the way of one. -/
def encodable : Url → Except IllFormedText String
  | .text s => .ok s
  | .illFormed t => .error t

end Url

end TypstPress
