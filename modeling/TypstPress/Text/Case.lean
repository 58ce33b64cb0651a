import TypstPress.Text.CaseTable

/-!
# Lower and upper case

The full case mappings: a letter may become several, and a capital sigma at the end of a word
becomes the final form. A sigma ends a word when, past the characters that the rule ignores, a
cased character stands before it and none stands after it.
-/

namespace TypstPress.Text

/-- The case mapping of one character by a table of runs and a table of expansions. -/
def mapCase (shifts : List Shift) (expansions : List (Nat × List Nat)) (c : Char) : List Char :=
  let n := c.toNat
  match shifts.find? fun s => s.first ≤ n && n ≤ s.last && (n - s.first) % s.step == 0 with
  | some s => [Char.ofNat (n + s.distance).toNat]
  | none =>
    match expansions.find? (·.1 == n) with
    | some (_, ns) => ns.map Char.ofNat
    | none => [c]

/-- The lower case of a character on its own. -/
def lowerChar (c : Char) : List Char :=
  if c.toNat < 0x80 then [c.toLower] else mapCase lowerShifts lowerExpansions c

/-- The upper case of a character. -/
def upperChar (c : Char) : List Char :=
  if c.toNat < 0x80 then [c.toUpper] else mapCase upperShifts upperExpansions c

/-- Whether the first character that the sigma rule does not look past is cased. -/
def meetsCased : List Char → Bool
  | [] => false
  | c :: rest =>
    if Ranges.contains caseIgnorableRanges c.toNat then meetsCased rest
    else Ranges.contains casedRanges c.toNat

/-- Lowers `cs`, where `before` holds what precedes it, the nearest character first. -/
def lowerFrom (before : List Char) : List Char → List Char
  | [] => []
  | c :: rest =>
    let lowered :=
      if c == 'Σ' then if meetsCased before && !meetsCased rest then ['ς'] else ['σ']
      else lowerChar c
    lowered ++ lowerFrom (c :: before) rest

/-- The text in lower case. -/
def lower (cs : List Char) : List Char := lowerFrom [] cs

/-- The text in upper case. -/
def upper (cs : List Char) : List Char := cs.flatMap upperChar

/-- The string in lower case. -/
def lowerString (s : String) : String := String.ofList (lower s.toList)

end TypstPress.Text
