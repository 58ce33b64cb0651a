import TypstPress.Decimal.Binary64

/-!
# Shortest decimal text

A floating point number is written with the fewest decimal digits that are read back as the same
number; of several such texts the one nearest to it is taken. The digits are looked for on coarser
grids first: on each grid only the two neighbours of the number can lie in the interval of values
that round to it.

The layout is fixed by `Decimal.format`: positional between `10 ^ -4` and `10 ^ 16`, always with a
fraction, otherwise with an exponent of at least two digits and a sign.
-/

namespace TypstPress.Decimal

open Binary64

/-- The values that round to a positive number, in quarters of its unit. -/
structure Interval where
  lower : Nat
  value : Nat
  upper : Nat
  closed : Bool

/-- The interval around `significand · 2 ^ exponent` in units of `2 ^ (exponent - 2)`. Below a
power of two the neighbour is only half as far away. -/
def Interval.around (significand : Nat) (exponent : Int) : Interval where
  lower :=
    if significand == Nat.pow 2 52 && minExponent < exponent then 4 * significand - 1
    else 4 * significand - 2
  value := 4 * significand
  upper := 4 * significand + 2
  closed := significand % 2 == 0

/-- Whether `candidate / scale`, in the units of the interval, lies in it. -/
def Interval.admits (i : Interval) (candidate scale : Nat) : Bool :=
  if i.closed then i.lower * scale ≤ candidate && candidate ≤ i.upper * scale
  else i.lower * scale < candidate && candidate < i.upper * scale

/-- The best multiple of the grid step that lies in the interval, if there is one: the number is
`i.value · num / den` and the step is one. -/
def Interval.onGrid (i : Interval) (num den : Nat) : Option Nat :=
  let below := i.value * num / den
  let above := below + 1
  let fits (k : Nat) := i.admits (k * den) num
  match fits below, fits above with
  | true, true =>
    let down := i.value * num - below * den
    let up := above * den - i.value * num
    some (if down < up || (down == up && below % 2 == 0) then below else above)
  | true, false => some below
  | false, true => some above
  | false, false => none

/-- The number of decimal digits of a natural number. -/
def digitCount (n : Nat) : Nat := (Nat.toDigits 10 n).length

/-- The decimal exponent of the leading digit of `num / den`. -/
def leadingExponent (num den : Nat) : Int :=
  if den ≤ num then (digitCount (num / den) : Int) - 1
  else
    let zeros := digitCount den - digitCount num
    if den ≤ num * Nat.pow 10 zeros then -(zeros : Int) else -(zeros : Int) - 1

/-- The digits of a positive number and the decimal exponent of the first, from grids of
`count`, `count + 1`, … digits. -/
def searchDigits (i : Interval) (num den : Nat) (lead : Int) : Nat → Nat → Nat × Int
  | 0, _ => (0, 0)
  | fuel + 1, count =>
    let step := lead - (count : Int) + 1
    let n := if step < 0 then num * Nat.pow 10 step.natAbs else num
    let d := if step < 0 then den else den * Nat.pow 10 step.natAbs
    match i.onGrid n d with
    | some k => (k, step)
    | none => searchDigits i num den lead fuel (count + 1)

/-- Removes the zeros at the end of the digits, counting them into the exponent. -/
def stripZeros : Nat → Nat → Int → Nat × Int
  | 0, digits, exponent => (digits, exponent)
  | fuel + 1, digits, exponent =>
    if digits % 10 == 0 && digits != 0 then stripZeros fuel (digits / 10) (exponent + 1)
    else (digits, exponent)

/-- The shortest digits of `significand · 2 ^ exponent` with the exponent of the last one. -/
def shortestDigits (significand : Nat) (exponent : Int) : Nat × Int :=
  let i := Interval.around significand exponent
  let unit := exponent - 2
  let num := if unit < 0 then 1 else Nat.pow 2 unit.natAbs
  let den := if unit < 0 then Nat.pow 2 unit.natAbs else 1
  let (digits, step) := searchDigits i num den (leadingExponent (i.value * num) den) 17 1
  stripZeros 20 digits step

/-- The layout of the digits of a number whose last digit has the given exponent. -/
def format (digits : Nat) (exponent : Int) : String :=
  let text := Nat.toDigits 10 digits
  let lead : Int := text.length - 1 + exponent
  if -4 ≤ lead && lead < 16 then
    if lead < 0 then
      "0." ++ String.ofList (List.replicate (lead.natAbs - 1) '0' ++ text)
    else
      let whole := lead.toNat + 1
      let padded := text ++ List.replicate (whole - text.length) '0'
      let fraction := padded.drop whole
      String.ofList (padded.take whole) ++ "." ++
        (if fraction.isEmpty then "0" else String.ofList fraction)
  else
    let mantissa := match text with
      | [] => ""
      | [d] => String.singleton d
      | d :: rest => String.singleton d ++ "." ++ String.ofList rest
    let sign := if lead < 0 then "-" else "+"
    let magnitude := toString lead.natAbs
    mantissa ++ "e" ++ sign ++ (if magnitude.length < 2 then "0" ++ magnitude else magnitude)

end TypstPress.Decimal

namespace TypstPress

/-- The shortest text that is read back as the number. -/
def Binary64.text : Binary64 → String
  | .finite negative s e =>
    let sign := if negative then "-" else ""
    if s == 0 then sign ++ "0.0"
    else
      let (digits, exponent) := Decimal.shortestDigits s e
      sign ++ Decimal.format digits exponent
  | .infinite negative => if negative then "-inf" else "inf"
  | .nan => "nan"

end TypstPress
