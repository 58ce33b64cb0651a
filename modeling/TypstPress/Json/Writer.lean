import TypstPress.Json
import TypstPress.Text.Quoted

/-!
# Writing JSON

Values are written in ASCII: other characters are given by the hexadecimal digits of their UTF-16
units. There are two layouts, one without any blank and one with a line for every item.
-/

namespace TypstPress.Json

/-- A UTF-16 unit as an escape. -/
def escapeUnit (n : Nat) : List Char := '\\' :: 'u' :: Text.hexDigits 4 n

/-- A character inside a string. -/
def escapeChar (c : Char) : List Char :=
  let n := c.toNat
  if c == '"' || c == '\\' then ['\\', c]
  else if c == '\n' then ['\\', 'n']
  else if c == '\r' then ['\\', 'r']
  else if c == '\t' then ['\\', 't']
  else if n == 0x08 then ['\\', 'b']
  else if n == 0x0C then ['\\', 'f']
  else if 0x20 ≤ n && n < 0x7F then [c]
  else if n < 0x10000 then escapeUnit n
  else
    escapeUnit (0xD800 + (n - 0x10000) / 0x400) ++ escapeUnit (0xDC00 + (n - 0x10000) % 0x400)

/-- A string with its quotes. -/
def quote (s : String) : String := String.ofList ('"' :: s.toList.flatMap escapeChar ++ ['"'])

/-- A value that holds no others. -/
def leaf : Json → String
  | .null => "null"
  | .bool true => "true"
  | .bool false => "false"
  | .num digits => digits
  | .str s => quote s
  | .arr _ => "[]"
  | .obj _ => "\x7b\x7d"

mutual

/-- A value without blanks. -/
def compact : Json → String
  | .arr items => "[" ++ ",".intercalate (compactItems items) ++ "]"
  | .obj entries => "\x7b" ++ ",".intercalate (compactEntries entries) ++ "\x7d"
  | j => j.leaf

@[inherit_doc compact]
def compactItems : List Json → List String
  | [] => []
  | j :: rest => compact j :: compactItems rest

@[inherit_doc compact]
def compactEntries : List (String × Json) → List String
  | [] => []
  | (key, j) :: rest => (quote key ++ ":" ++ compact j) :: compactEntries rest

end

/-- The start of a line that is indented by steps of two spaces. -/
def lineStart (depth : Nat) : String := "\n" ++ String.ofList (List.replicate (2 * depth) ' ')

/-- The lines of items between brackets. -/
def bracketed (opening closing : String) (depth : Nat) (lines : List String) : String :=
  if lines.isEmpty then opening ++ closing
  else
    opening ++ lineStart (depth + 1) ++ ("," ++ lineStart (depth + 1)).intercalate lines ++
      lineStart depth ++ closing

mutual

/-- A value with a line for every item, at a depth. -/
def indentedAt (depth : Nat) : Json → String
  | .arr items => bracketed "[" "]" depth (indentedItems (depth + 1) items)
  | .obj entries => bracketed "\x7b" "\x7d" depth (indentedEntries (depth + 1) entries)
  | j => j.leaf

@[inherit_doc indentedAt]
def indentedItems (depth : Nat) : List Json → List String
  | [] => []
  | j :: rest => indentedAt depth j :: indentedItems depth rest

@[inherit_doc indentedAt]
def indentedEntries (depth : Nat) : List (String × Json) → List String
  | [] => []
  | (key, j) :: rest => (quote key ++ ": " ++ indentedAt depth j) :: indentedEntries depth rest

end

/-- A value with a line for every item. -/
def indented (j : Json) : String := indentedAt 0 j

end TypstPress.Json
