import TypstPress.Charset.SingleByte
import TypstPress.Charset.Utf16
import TypstPress.Charset.Utf8
import TypstPress.Text.Alphanumeric

/-!
# Character encodings

The encodings that text is read in. Names are compared without regard to case, and every run of
other characters than letters, digits and points counts as one separator.

A platform may have further encodings than the ones here. They are given by a `Registry`, with
whatever goes wrong when they are used.
-/

namespace TypstPress

/-- An encoding. -/
inductive Charset where
  | ascii
  | utf8
  /-- UTF-8 whose byte order mark, if there is one, is no part of the text. -/
  | utf8Marked
  | utf16
  | latin1
  | windows1252
deriving DecidableEq, Repr

namespace Charset

/-- A name in its common form: words in lower case, joined by underscores. -/
def commonName (name : List Char) : List Char :=
  let parts := words [] name
  (List.intercalate ['_'] (parts.filter (!·.isEmpty))).filterMap fun c =>
    if c.toNat < 128 then some c.toLower else none
where
  /-- The runs of letters, digits and points. -/
  words (word : List Char) : List Char → List (List Char)
    | [] => [word]
    | c :: rest =>
      if Text.isAlphanumeric c || c == '.' then words (word ++ [c]) rest
      else word :: words [] rest

/-- The encodings by their names. -/
def names : List (Charset × List String) :=
  [(.ascii, ["ascii", "646", "ansi_x3.4_1968", "ansi_x3_4_1968", "ansi_x3.4_1986", "cp367",
     "csascii", "ibm367", "iso646_us", "iso_646.irv_1991", "iso_ir_6", "us", "us_ascii"]),
   (.utf8, ["utf_8", "u8", "utf", "utf8", "utf8_ucs2", "utf8_ucs4", "cp65001"]),
   (.utf8Marked, ["utf_8_sig"]),
   (.utf16, ["utf_16", "u16", "utf16"]),
   (.latin1, ["latin_1", "8859", "cp819", "csisolatin1", "ibm819", "iso8859", "iso8859_1",
     "iso_8859_1", "iso_8859_1_1987", "iso_ir_100", "l1", "latin", "latin1"]),
   (.windows1252, ["cp1252", "1252", "windows_1252"])]

/-- The encoding of a name. -/
def ofName? (name : String) : Option Charset :=
  let common := String.ofList (commonName name.toList)
  (names.find? (·.2.contains common)).map (·.1)

/-- The text that bytes encode. -/
def decode : Charset → List UInt8 → Except Defect (List Char)
  | .ascii => SingleByte.decode "ascii" "ordinal not in range(128)" SingleByte.ascii? 0
  | .utf8 => Utf8.decode
  | .utf8Marked => fun bytes => Utf8.decode (Utf8.dropMark bytes)
  | .utf16 => Utf16.decode
  | .latin1 => fun bytes => .ok (bytes.map SingleByte.latin1)
  | .windows1252 =>
    SingleByte.decode "charmap" "character maps to <undefined>" SingleByte.windows1252? 0

/-- The encodings that a platform has besides these, by their names: how it reads bytes. -/
abbrev Registry := String → Option (List UInt8 → Except Fault (List Char))

/-- The registry without further encodings. -/
def noFurther : Registry := fun _ => none

/-- The text that bytes encode in the encoding of a name. An unknown name is a failed look-up, and
one with a zero character cannot even be looked up. -/
def decodeNamed (further : Registry) (name : String) (bytes : List UInt8) :
    Except Fault (List Char) :=
  if name.toList.contains '\x00' then .error (Fault.wrongValue "embedded null character")
  else
    match ofName? name with
    | some charset => (charset.decode bytes).mapError Defect.fault
    | none =>
      match further name with
      | some read => read bytes
      | none => .error ⟨"LookupError", "unknown encoding: " ++ name⟩

end Charset

end TypstPress
