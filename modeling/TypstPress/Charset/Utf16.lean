import TypstPress.Charset.Defect

/-!
# UTF-16

A byte order mark at the start tells the order of the two bytes of a unit; without one the lower
byte comes first. A character beyond the first plane takes two units.
-/

namespace TypstPress.Charset.Utf16

/-- The unit of two bytes. -/
def unit (bigEndian : Bool) (a b : UInt8) : Nat :=
  if bigEndian then 0x100 * a.toNat + b.toNat else 0x100 * b.toNat + a.toNat

/-- Decodes units up to the end of the bytes; `position` is the place of the first byte. -/
def units (bigEndian : Bool) (position : Nat) : List UInt8 → Except Defect (List Char)
  | [] => .ok []
  | [a] => .error (defect [a] "truncated data")
  | a :: b :: rest =>
    let n := unit bigEndian a b
    if n < 0xD800 || 0xE000 ≤ n then
      (units bigEndian (position + 2) rest).map (Char.ofNat n :: ·)
    else if 0xDC00 ≤ n then .error (defect [a, b] "illegal encoding")
    else
      match rest with
      | c :: d :: rest =>
        let low := unit bigEndian c d
        if 0xDC00 ≤ low && low < 0xE000 then
          (units bigEndian (position + 4) rest).map
            (Char.ofNat (0x10000 + (n - 0xD800) * 0x400 + (low - 0xDC00)) :: ·)
        else .error (defect [a, b] "illegal UTF-16 surrogate")
      | rest => .error (defect (a :: b :: rest) "unexpected end of data")
where
  /-- A defect at the place of the unit. -/
  defect (bytes : List UInt8) (reason : String) : Defect :=
    { encoding := if bigEndian then "utf-16-be" else "utf-16-le", position, bytes, reason }

/-- The text that bytes encode. -/
def decode : List UInt8 → Except Defect (List Char)
  | 0xFE :: 0xFF :: rest => units true 2 rest
  | 0xFF :: 0xFE :: rest => units false 2 rest
  | bytes => units false 0 bytes

end TypstPress.Charset.Utf16
