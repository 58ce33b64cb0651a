import TypstPress.Charset.Defect

/-!
# UTF-8

The first byte of a character tells how many bytes follow and, since a character has one encoding
only and surrogates have none, in which range the second one lies. Bytes that fit no character are
cut into the longest runs that could have been the start of one. Strict decoding fails at the
first such run (`decode`), lossy decoding puts one replacement character for each (`decodeLossy`).
-/

namespace TypstPress.Charset.Utf8

/-- The bytes of a code point. -/
def encodeCodePoint (n : Nat) : List UInt8 :=
  if n < 0x80 then [n.toUInt8]
  else if n < 0x800 then [(0xC0 + n / 0x40).toUInt8, (0x80 + n % 0x40).toUInt8]
  else if n < 0x10000 then
    [(0xE0 + n / 0x1000).toUInt8, (0x80 + n / 0x40 % 0x40).toUInt8, (0x80 + n % 0x40).toUInt8]
  else
    [(0xF0 + n / 0x40000).toUInt8, (0x80 + n / 0x1000 % 0x40).toUInt8,
     (0x80 + n / 0x40 % 0x40).toUInt8, (0x80 + n % 0x40).toUInt8]

/-- The bytes of a text. -/
def encode (cs : List Char) : List UInt8 := cs.flatMap fun c => encodeCodePoint c.toNat

/-- What the first byte of a character tells. -/
structure Lead where
  /-- The number of bytes that follow. -/
  tails : Nat
  /-- The least second byte. -/
  low : Nat
  /-- The greatest second byte. -/
  high : Nat
  /-- The bits of the first byte. -/
  bits : Nat

/-- Reads a first byte. -/
def lead? (b : Nat) : Option Lead :=
  if b < 0x80 then some ⟨0, 0x80, 0xBF, b⟩
  else if b < 0xC2 then none
  else if b < 0xE0 then some ⟨1, 0x80, 0xBF, b - 0xC0⟩
  else if b == 0xE0 then some ⟨2, 0xA0, 0xBF, 0⟩
  else if b == 0xED then some ⟨2, 0x80, 0x9F, 0xD⟩
  else if b < 0xF0 then some ⟨2, 0x80, 0xBF, b - 0xE0⟩
  else if b == 0xF0 then some ⟨3, 0x90, 0xBF, 0⟩
  else if b < 0xF4 then some ⟨3, 0x80, 0xBF, b - 0xF0⟩
  else if b == 0xF4 then some ⟨3, 0x80, 0x8F, 4⟩
  else none

/-- A piece of an encoded text: a code point, or bytes that encode none. -/
inductive Piece where
  | character (codePoint : Nat)
  | broken (bytes : List UInt8) (reason : String)

/-- Reads the bytes after a first one: `count` more are due, the next between `low` and `high`.
`taken` holds the bytes so far. -/
def tail (taken : List UInt8) (bits : Nat) :
    (count low high : Nat) → List UInt8 → Piece × List UInt8
  | 0, _, _, rest => (.character bits, rest)
  | _ + 1, _, _, [] => (.broken taken "unexpected end of data", [])
  | count + 1, low, high, b :: rest =>
    if low ≤ b.toNat && b.toNat ≤ high then
      tail (taken ++ [b]) (0x40 * bits + (b.toNat - 0x80)) count 0x80 0xBF rest
    else (.broken taken "invalid continuation byte", b :: rest)

/-- Reads the piece that starts with a byte. -/
def piece (b : UInt8) (rest : List UInt8) : Piece × List UInt8 :=
  match lead? b.toNat with
  | some l => tail [b] l.bits l.tails l.low l.high rest
  | none => (.broken [b] "invalid start byte", rest)

theorem length_tail_le (taken : List UInt8) (bits count low high : Nat) (bs : List UInt8) :
    (tail taken bits count low high bs).2.length ≤ bs.length := by
  induction bs generalizing taken bits count low high with
  | nil => cases count <;> simp [tail]
  | cons b rest ih =>
    cases count with
    | zero => simp [tail]
    | succ count =>
      simp only [tail]
      split
      · exact Nat.le_succ_of_le (ih ..)
      · simp

theorem length_piece_le (b : UInt8) (rest : List UInt8) :
    (piece b rest).2.length ≤ rest.length := by
  unfold piece
  split
  · exact length_tail_le ..
  · exact Nat.le_refl _

/-- The pieces of an encoded text. -/
def pieces : List UInt8 → List Piece
  | [] => []
  | b :: rest => (piece b rest).1 :: pieces (piece b rest).2
termination_by bs => bs.length
decreasing_by exact Nat.lt_succ_of_le (length_piece_le b rest)

/-- The text of pieces that are all characters; otherwise the first defect. `position` is the
place of the first piece. -/
def ofPieces (position : Nat) : List Piece → Except Defect (List Char)
  | [] => .ok []
  | .character n :: rest =>
    (ofPieces (position + (encodeCodePoint n).length) rest).map (Char.ofNat n :: ·)
  | .broken bytes reason :: _ => .error { encoding := "utf-8", position, bytes, reason }

/-- The text that bytes encode. -/
def decode (bytes : List UInt8) : Except Defect (List Char) := ofPieces 0 (pieces bytes)

/-- The character of a piece, or the replacement character. -/
def Piece.lossy : Piece → Char
  | .character n => Char.ofNat n
  | .broken .. => '\uFFFD'

/-- The text that bytes encode, with a replacement character for each defect. -/
def decodeLossy (bytes : List UInt8) : List Char := (pieces bytes).map Piece.lossy

/-- The bytes of the byte order mark. -/
def mark : List UInt8 := [0xEF, 0xBB, 0xBF]

/-- The bytes without a byte order mark at their start. -/
def dropMark (bytes : List UInt8) : List UInt8 :=
  if bytes.take 3 == mark then bytes.drop 3 else bytes

end TypstPress.Charset.Utf8
