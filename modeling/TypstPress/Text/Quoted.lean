import TypstPress.Text.Printable

/-!
# Quoted texts in messages

Messages show a text between quotes. The quote is `'`, or `"` for a text that holds `'` and no
`"`. The backslash, the quote in use, the line feed, the carriage return and the tab are written
with a backslash, other characters that do not print as `\xhh`, `\uhhhh` or `\Uhhhhhhhh`.
-/

namespace TypstPress.Text

/-- The lower case hexadecimal digit of a number below sixteen. -/
def hexDigit (n : Nat) : Char :=
  if n < 10 then Char.ofNat (0x30 + n) else Char.ofNat (0x57 + n)

/-- The last `width` hexadecimal digits of a number, the highest first. -/
def hexDigits : Nat → Nat → List Char
  | 0, _ => []
  | width + 1, n => hexDigits width (n / 16) ++ [hexDigit (n % 16)]

/-- The escape of a character that does not print. -/
def escapeUnprintable (c : Char) : List Char :=
  let n := c.toNat
  if n < 0x100 then '\\' :: 'x' :: hexDigits 2 n
  else if n < 0x10000 then '\\' :: 'u' :: hexDigits 4 n
  else '\\' :: 'U' :: hexDigits 8 n

/-- A character inside the given quotes. -/
def quotedChar (quote c : Char) : List Char :=
  if c == quote || c == '\\' then ['\\', c]
  else if c == '\n' then ['\\', 'n']
  else if c == '\r' then ['\\', 'r']
  else if c == '\t' then ['\\', 't']
  else if isPrintable c then [c]
  else escapeUnprintable c

/-- The quote around a text. -/
def quoteFor (cs : List Char) : Char :=
  if cs.contains '\'' && !cs.contains '"' then '"' else '\''

/-- The text between quotes. -/
def quoted (s : String) : String :=
  let quote := quoteFor s.toList
  String.ofList (quote :: s.toList.flatMap (quotedChar quote) ++ [quote])

/-- A row of quoted texts in parentheses; one alone is followed by a comma. -/
def quotedTuple : List String → String
  | [] => "()"
  | [s] => "(" ++ quoted s ++ ",)"
  | ss => "(" ++ ", ".intercalate (ss.map quoted) ++ ")"

end TypstPress.Text
