/-!
# xxHash64

The 64-bit hash xxHash of a list of bytes and a seed. Input of 32 bytes or more goes through four
lanes, a stripe of eight bytes each at a time; what is left is mixed in by words of eight bytes,
then four, then single bytes, and a final avalanche spreads every bit.
-/

namespace TypstPress.XXH64

/-- The first of the five multipliers. -/
def prime1 : UInt64 := 11400714785074694791
/-- The second of the five multipliers. -/
def prime2 : UInt64 := 14029467366897019727
/-- The third of the five multipliers. -/
def prime3 : UInt64 := 1609587929392839161
/-- The fourth of the five multipliers. -/
def prime4 : UInt64 := 9650029242287828579
/-- The fifth of the five multipliers. -/
def prime5 : UInt64 := 2870177450012600261

/-- Rotation to the left; the amount is between 1 and 63. -/
def rotateLeft (x : UInt64) (r : UInt64) : UInt64 := (x <<< r) ||| (x >>> (64 - r))

/-- The number that bytes write, the least significant first. -/
def littleEndian (bs : List UInt8) : UInt64 :=
  bs.foldr (fun b acc => (acc <<< 8) ||| b.toUInt64) 0

/-- One step of a lane. -/
def round (acc input : UInt64) : UInt64 := rotateLeft (acc + input * prime2) 31 * prime1

/-- The four lanes. -/
structure Lanes where
  a : UInt64
  b : UInt64
  c : UInt64
  d : UInt64

/-- The lanes before any input. -/
def Lanes.start (seed : UInt64) : Lanes :=
  ⟨seed + prime1 + prime2, seed + prime2, seed, seed - prime1⟩

/-- The lanes after a stripe of 32 bytes. -/
def Lanes.absorb (l : Lanes) (stripe : List UInt8) : Lanes :=
  ⟨round l.a (littleEndian (stripe.take 8)),
   round l.b (littleEndian ((stripe.drop 8).take 8)),
   round l.c (littleEndian ((stripe.drop 16).take 8)),
   round l.d (littleEndian ((stripe.drop 24).take 8))⟩

/-- Folds a lane into the hash. -/
def mergeLane (acc lane : UInt64) : UInt64 := (acc ^^^ round 0 lane) * prime1 + prime4

/-- The lanes as one hash. -/
def Lanes.merge (l : Lanes) : UInt64 :=
  let acc := rotateLeft l.a 1 + rotateLeft l.b 7 + rotateLeft l.c 12 + rotateLeft l.d 18
  mergeLane (mergeLane (mergeLane (mergeLane acc l.a) l.b) l.c) l.d

/-- Absorbs stripes while there are any; the rest is shorter than a stripe. -/
def absorbStripes (l : Lanes) (bs : List UInt8) : Lanes × List UInt8 :=
  if 32 ≤ bs.length then absorbStripes (l.absorb (bs.take 32)) (bs.drop 32) else (l, bs)
termination_by bs.length
decreasing_by simp only [List.length_drop]; omega

/-- Mixes in single bytes. -/
def mixBytes (acc : UInt64) (bs : List UInt8) : UInt64 :=
  bs.foldl (fun acc b => rotateLeft (acc ^^^ (b.toUInt64 * prime5)) 11 * prime1) acc

/-- Mixes in four bytes, if there are as many, then the rest. -/
def mixHalf (acc : UInt64) (bs : List UInt8) : UInt64 :=
  if 4 ≤ bs.length then
    mixBytes (rotateLeft (acc ^^^ (littleEndian (bs.take 4) * prime1)) 23 * prime2 + prime3)
      (bs.drop 4)
  else mixBytes acc bs

/-- Mixes in words of eight bytes while there are any, then the rest. -/
def mixWords (acc : UInt64) (bs : List UInt8) : UInt64 :=
  if 8 ≤ bs.length then
    mixWords (rotateLeft (acc ^^^ round 0 (littleEndian (bs.take 8))) 27 * prime1 + prime4)
      (bs.drop 8)
  else mixHalf acc bs
termination_by bs.length
decreasing_by simp only [List.length_drop]; omega

/-- Spreads every bit of the hash over all of it. -/
def avalanche (h : UInt64) : UInt64 :=
  let h := (h ^^^ (h >>> 33)) * prime2
  let h := (h ^^^ (h >>> 29)) * prime3
  h ^^^ (h >>> 32)

/-- The hash of a list of bytes. -/
def hash (seed : UInt64) (bs : List UInt8) : UInt64 :=
  let size := UInt64.ofNat bs.length
  if 32 ≤ bs.length then
    let (lanes, rest) := absorbStripes (Lanes.start seed) bs
    avalanche (mixWords (lanes.merge + size) rest)
  else avalanche (mixWords (seed + prime5 + size) bs)

end TypstPress.XXH64
