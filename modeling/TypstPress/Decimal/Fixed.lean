import TypstPress.Decimal.Binary64

/-!
# Decimal text with fixed places

A number with a fixed number of places is its exact value rounded to the nearest multiple of the
last place; of two equally near ones the even one is taken.
-/

namespace TypstPress

namespace Decimal

/-- The digits of a natural number, at least `width` of them. -/
def zeroPadded (width n : Nat) : List Char :=
  let text := Nat.toDigits 10 n
  List.replicate (width - text.length) '0' ++ text

/-- The text of `± n / 10 ^ places`. -/
def pointed (negative : Bool) (places n : Nat) : String :=
  let text := zeroPadded (places + 1) n
  let whole := text.take (text.length - places)
  String.ofList ((if negative then ['-'] else []) ++ whole ++
    (if places == 0 then [] else '.' :: text.drop (text.length - places)))

end Decimal

namespace Binary64

/-- The text of a number with a fixed number of places. -/
def fixed (places : Nat) : Binary64 → String
  | .finite negative s e =>
    let num :=
      if e < 0 then s * Nat.pow 10 places else s * Nat.pow 2 e.natAbs * Nat.pow 10 places
    let den := if e < 0 then Nat.pow 2 e.natAbs else 1
    Decimal.pointed negative places (roundQuotient (num / den) (num % den) den)
  | .infinite negative => if negative then "-inf" else "inf"
  | .nan => "nan"

/-- Whether a number is less than another. -/
def less (a b : Binary64) : Bool :=
  match a.toRatio?, b.toRatio? with
  | some (m, d), some (n, e) => m * e < n * d
  | some _, none => b == .infinite false
  | none, some _ => a == .infinite true
  | none, none => a == .infinite true && b == .infinite false

end Binary64

end TypstPress
