/-!
# Binary floating point numbers

Numbers with a fraction in front matter are binary floating point numbers of 64 bits. A finite one
is held as its exact value, a whole significand times a power of two, so that rounding is the only
operation with a rule of its own: to the nearest number, of two equally near ones to the one with
the even significand.
-/

namespace TypstPress

/-- A binary floating point number of 64 bits. A finite number is `± significand · 2 ^ exponent`
with a significand below `2 ^ 53` and an exponent from `-1074` to `971`. -/
inductive Binary64 where
  | finite (negative : Bool) (significand : Nat) (exponent : Int)
  | infinite (negative : Bool)
  | nan
deriving DecidableEq, Repr, Inhabited

namespace Binary64

/-- The least exponent of a finite number. -/
def minExponent : Int := -1074

/-- The greatest exponent of a finite number. -/
def maxExponent : Int := 971

/-- The quotient of `num` by `den · 2 ^ e` and a remainder with its divisor. -/
def scaledQuotient (num den : Nat) (e : Int) : Nat × Nat × Nat :=
  let n := if e < 0 then num * Nat.pow 2 e.natAbs else num
  let d := if e < 0 then den else den * Nat.pow 2 e.natAbs
  (n / d, n % d, d)

/-- Rounds a quotient with its remainder to the nearest number, ties to even. -/
def roundQuotient (quotient remainder divisor : Nat) : Nat :=
  if 2 * remainder < divisor then quotient
  else if divisor < 2 * remainder then quotient + 1
  else quotient + quotient % 2

/-- The number nearest to `± num / den`. -/
def ofRatio (negative : Bool) (num den : Nat) : Binary64 :=
  if num == 0 || den == 0 then .finite negative 0 minExponent
  else
    let guess : Int := max (num.log2 - den.log2 - 53 : Int) minExponent
    let e := if (scaledQuotient num den guess).1 < Nat.pow 2 53 then guess else guess + 1
    let (quotient, remainder, divisor) := scaledQuotient num den e
    let s := roundQuotient quotient remainder divisor
    let (s, e) := if s < Nat.pow 2 53 then (s, e) else (s / 2, e + 1)
    if maxExponent < e then .infinite negative else .finite negative s e

/-- The number nearest to `± digits · 10 ^ exponent`. What is far out of range on either side is
not worked out: `digits` has at least `log2 / 4` and at most `log2 / 3 + 2` decimal digits. -/
def ofDecimal (negative : Bool) (digits : Nat) (exponent : Int) : Binary64 :=
  if digits == 0 then .finite negative 0 minExponent
  else if 400 < exponent + digits.log2 / 4 then .infinite negative
  else if exponent + digits.log2 / 3 + 2 < -400 then .finite negative 0 minExponent
  else if exponent < 0 then ofRatio negative digits (Nat.pow 10 exponent.natAbs)
  else ofRatio negative (digits * Nat.pow 10 exponent.natAbs) 1

/-- The number nearest to a whole number. -/
def ofInt (n : Int) : Binary64 := ofRatio (n < 0) n.natAbs 1

/-- The exact value of a finite number as a quotient. -/
def toRatio? : Binary64 → Option (Int × Nat)
  | .finite negative s e =>
    let n : Int := if negative then -(s : Int) else s
    some (if e < 0 then (n, Nat.pow 2 e.natAbs) else (n * Nat.pow 2 e.natAbs, 1))
  | _ => none

/-- The number with the other sign. -/
def neg : Binary64 → Binary64
  | .finite negative s e => .finite (!negative) s e
  | .infinite negative => .infinite (!negative)
  | .nan => .nan

/-- The rounded sum. -/
def add (a b : Binary64) : Binary64 :=
  match a.toRatio?, b.toRatio? with
  | some (m, d), some (n, e) =>
    let sum := m * e + n * d
    ofRatio (sum < 0) sum.natAbs (d * e)
  | none, some _ => a
  | some _, none => b
  | none, none => if a == b then a else .nan

/-- The rounded product of finite numbers; an infinite factor stays as it is. -/
def mul (a b : Binary64) : Binary64 :=
  match a.toRatio?, b.toRatio? with
  | some (m, d), some (n, e) =>
    let product := m * n
    ofRatio (product < 0) product.natAbs (d * e)
  | none, _ => a
  | _, none => b

/-- Whether the number has the value of a whole number. -/
def equalsInt (a : Binary64) (n : Int) : Bool :=
  match a.toRatio? with
  | some (m, d) => m == n * d
  | none => false

/-- Equality of values: the two zeros are equal. -/
def equals (a b : Binary64) : Bool :=
  match a.toRatio?, b.toRatio? with
  | some (m, d), some (n, e) => m * e == n * d
  | none, none => a == b
  | _, _ => false

end Binary64

end TypstPress
