/-!
# Blank characters

Texts are trimmed and split at one set of blank characters: the white space of Unicode together
with the four separators of ASCII. The zero width space and the byte order mark are not in it.
-/

namespace TypstPress.Text

/-- White space of any kind, line ends included. -/
def isBlank (c : Char) : Bool :=
  let n := c.toNat
  (0x09 ≤ n && n ≤ 0x0D) || (0x1C ≤ n && n ≤ 0x20) || n == 0x85 || n == 0xA0 || n == 0x1680 ||
    (0x2000 ≤ n && n ≤ 0x200A) || n == 0x2028 || n == 0x2029 || n == 0x202F || n == 0x205F ||
    n == 0x3000

/-- The text without the characters at its end that satisfy `p`. -/
def dropEndWhile (p : Char → Bool) (cs : List Char) : List Char :=
  (cs.reverse.dropWhile p).reverse

/-- The text without the characters at both ends that satisfy `p`. -/
def trimWhile (p : Char → Bool) (cs : List Char) : List Char :=
  dropEndWhile p (cs.dropWhile p)

/-- The text without the blanks at both ends. -/
def trim (cs : List Char) : List Char := trimWhile isBlank cs

/-- The string without the blanks at both ends. -/
def trimString (s : String) : String := String.ofList (trim s.toList)

/-- The words of a text: its maximal runs of characters that are not blank. -/
def words (cs : List Char) : List (List Char) :=
  match _h : cs.dropWhile isBlank with
  | [] => []
  | c :: rest =>
    (c :: rest).takeWhile (!isBlank ·) :: words (rest.dropWhile (!isBlank ·))
termination_by cs.length
decreasing_by
  have hword := (List.dropWhile_suffix (l := rest) (!isBlank ·)).length_le
  have hblanks := (List.dropWhile_suffix (l := cs) isBlank).length_le
  rw [‹cs.dropWhile isBlank = c :: rest›, List.length_cons] at hblanks
  omega

/-- The first word of a text and what follows it, without the blanks around either; nothing for
a blank text. The rest is missing when only blanks follow. -/
def firstWord (cs : List Char) : Option (List Char × Option (List Char)) :=
  match cs.dropWhile isBlank with
  | [] => none
  | rest =>
    let word := rest.takeWhile (!isBlank ·)
    let after := (rest.dropWhile (!isBlank ·)).dropWhile isBlank
    some (word, if after.isEmpty then none else some after)

/-- Whether the text holds nothing but blanks. -/
def isAllBlank (cs : List Char) : Bool := cs.all isBlank

end TypstPress.Text
