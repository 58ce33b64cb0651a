/-!
# Lines of a text

A line ends at a line feed, a carriage return, the two together, or one of the other line
boundaries of Unicode. `linesKept` cuts a text into its lines with their ends, so nothing is lost:
joining the lines gives the text back (`flatten_linesKept`).
-/

namespace TypstPress.Text

/-- The characters that end a line. -/
def isLineEnd (c : Char) : Bool :=
  let n := c.toNat
  (0x0A ≤ n && n ≤ 0x0D) || (0x1C ≤ n && n ≤ 0x1E) || n == 0x85 || n == 0x2028 || n == 0x2029

/-- The lines of a text, each with the characters that end it. A carriage return with a line feed
ends one line. -/
def linesKept : List Char → List (List Char)
  | [] => []
  | '\r' :: '\n' :: rest => ['\r', '\n'] :: linesKept rest
  | c :: rest =>
    if isLineEnd c then [c] :: linesKept rest
    else
      match linesKept rest with
      | [] => [[c]]
      | line :: lines => (c :: line) :: lines

/-- A line without the characters that end it. -/
def dropLineEnd (line : List Char) : List Char := line.takeWhile (!isLineEnd ·)

/-- The lines of a text without their ends. -/
def lines (cs : List Char) : List (List Char) := (linesKept cs).map dropLineEnd

/-- The text with a line feed for every carriage return, alone or with a line feed after it. -/
def normalizeLines : List Char → List Char
  | '\r' :: '\n' :: rest => '\n' :: normalizeLines rest
  | c :: rest => (if c == '\r' then '\n' else c) :: normalizeLines rest
  | [] => []

theorem flatten_linesKept (cs : List Char) : (linesKept cs).flatten = cs := by
  fun_induction linesKept cs with
  | case1 => rfl
  | case2 rest ih => simp [ih]
  | case3 c rest _ hc ih => simp [ih]
  | case4 c rest _ hc h ih =>
    rw [h] at ih
    simpa using ih
  | case5 c rest _ hc line lines h ih =>
    rw [h] at ih
    simpa using ih

end TypstPress.Text
