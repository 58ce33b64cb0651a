import TypstPress.Markdown.Entity
import TypstPress.Markdown.Escape
import TypstPress.Text.Blank
import TypstPress.Text.Case

/-!
# Urls and reference keys

Urls are stored percent-encoded: character references are decoded first, then every byte of the
UTF-8 form that is not a letter, a digit or one of a few marks is written as `%HH`. The percent
sign is one of the marks, so that what is encoded already stays as it is.

References are matched by a key that ignores case and the amount of white space.
-/

namespace TypstPress.Markdown

/-- A character that urls keep. -/
def isUrlChar (c : Char) : Bool := c.isAlphanum || "_.-~:/?#@!$&()*+,;=%".toList.contains c

/-- The upper case hexadecimal digit of a number below sixteen. -/
def upperHexDigit (n : Nat) : Char :=
  if n < 10 then Char.ofNat (0x30 + n) else Char.ofNat (0x37 + n)

/-- A byte as `%HH`. -/
def percentByte (b : UInt8) : List Char :=
  ['%', upperHexDigit (b.toNat / 16), upperHexDigit (b.toNat % 16)]

/-- A character of a url, encoded if need be. -/
def percentChar (c : Char) : List Char :=
  if isUrlChar c then [c] else (String.singleton c).toUTF8.toList.flatMap percentByte

/-- The text percent-encoded. -/
def percentEncode (cs : List Char) : List Char := cs.flatMap percentChar

/-- A url as it is stored. -/
def storedUrl (cs : List Char) : String := String.ofList (percentEncode (decodeReferences cs))

/-- The key of a reference label. -/
def referenceKey (label : List Char) : String :=
  let spaced := List.intercalate [' '] (Text.words label)
  String.ofList (Text.upper (Text.lower spaced))

end TypstPress.Markdown
