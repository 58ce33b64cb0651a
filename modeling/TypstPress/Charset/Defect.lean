import TypstPress.Failure

/-!
# Defects of encoded text

A defect is a run of bytes that encode no character, with its place and the reason. Messages name
the byte, or the places of the first and the last byte of a longer run.
-/

namespace TypstPress.Charset

/-- A run of bytes that encode no character. -/
structure Defect where
  /-- The name of the encoding in messages. -/
  encoding : String
  position : Nat
  bytes : List UInt8
  reason : String
deriving DecidableEq, Repr, Inhabited

namespace Defect

/-- Where and why decoding fails. -/
def message (d : Defect) : String :=
  let place :=
    match d.bytes with
    | [b] =>
      "byte 0x" ++ String.ofList (Text.hexDigits 2 b.toNat) ++ " in position " ++
        toString d.position
    | bs => "bytes in position " ++ toString d.position ++ "-" ++
        toString (d.position + bs.length - 1)
  "'" ++ d.encoding ++ "' codec can't decode " ++ place ++ ": " ++ d.reason

/-- The defect as an error of the platform. -/
def fault (d : Defect) : Fault := ⟨"UnicodeDecodeError", d.message⟩

end Defect

end TypstPress.Charset
