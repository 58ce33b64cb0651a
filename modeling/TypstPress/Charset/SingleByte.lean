import TypstPress.Charset.Defect

/-!
# Encodings of one byte a character

ASCII has the bytes below 128, Latin-1 all bytes. Windows-1252 is Latin-1 with letters and
punctuation in place of most of the control characters from 128 to 159; five bytes have no
character.
-/

namespace TypstPress.Charset.SingleByte

/-- The characters of Windows-1252 for the bytes from 128 to 159; zero for none. -/
def windowsTable : List Nat := [
  0x20AC, 0, 0x201A, 0x192, 0x201E, 0x2026, 0x2020, 0x2021, 0x2C6, 0x2030, 0x160, 0x2039, 0x152, 0,
  0x17D, 0, 0, 0x2018, 0x2019, 0x201C, 0x201D, 0x2022, 0x2013, 0x2014, 0x2DC, 0x2122, 0x161, 0x203A,
  0x153, 0, 0x17E, 0x178]

/-- The character of a byte in ASCII. -/
def ascii? (b : UInt8) : Option Char := if b < 128 then some (Char.ofNat b.toNat) else none

/-- The character of a byte in Latin-1. -/
def latin1 (b : UInt8) : Char := Char.ofNat b.toNat

/-- The character of a byte in Windows-1252. -/
def windows1252? (b : UInt8) : Option Char :=
  if 128 ≤ b && b < 160 then
    ((windowsTable[b.toNat - 128]?).filter (· != 0)).map Char.ofNat
  else some (latin1 b)

/-- Decodes byte by byte. -/
def decode (encoding reason : String) (char? : UInt8 → Option Char) (position : Nat) :
    List UInt8 → Except Defect (List Char)
  | [] => .ok []
  | b :: rest =>
    match char? b with
    | some c => (decode encoding reason char? (position + 1) rest).map (c :: ·)
    | none => .error { encoding, position, bytes := [b], reason }

end TypstPress.Charset.SingleByte
