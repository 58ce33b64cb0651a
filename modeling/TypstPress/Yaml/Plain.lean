import TypstPress.Yaml.Cursor

/-!
# Plain scalars

A plain scalar has no quotes. It ends before a comment, before a colon that ends a key, inside flow
collections also before their punctuation, and where a line is not indented enough. A single line
end between its words becomes a space; further ones are kept. A document marker at the start of a
line ends it as well.
-/

namespace TypstPress.Yaml.Plain

/-- Punctuation of flow collections. -/
def isFlowMark (c : Char) : Bool :=
  c == ',' || c == '[' || c == ']' || c == '\x7b' || c == '\x7d'

/-- Whether a colon before the given text ends a key. -/
def endsKey (inFlow : Bool) (rest : List Char) : Bool :=
  atGap rest || (inFlow && startsWith isFlowMark rest)

/-- The characters of a plain scalar up to the next gap. -/
def word (inFlow : Bool) : List Char → List Char
  | [] => []
  | c :: rest =>
    if isGap c || (c == ':' && endsKey inFlow rest) || (inFlow && (c == '?' || isFlowMark c)) then
      []
    else c :: word inFlow rest

/-- The line ends and spaces after a line end: the line ends are kept. Nothing if a document
marker follows. -/
def moreBreaks : Nat → Cursor → Option (List Char) × Cursor
  | 0, c => (some [], c)
  | fuel + 1, c =>
    if startsWith (· == ' ') c.rest then moreBreaks fuel c.next
    else if startsWith isBreak c.rest then
      let (ending, c) := c.lineBreak
      if atSeparator c.rest then (none, c)
      else
        let (more, c) := moreBreaks fuel c
        (more.map (ending ++ ·), c)
    else (some [], c)

/-- A gap between two words. -/
structure Gap where
  /-- What the gap is in the value; nothing if the scalar ends here. -/
  text : Option (List Char)
  /-- Whether the gap has a line end. -/
  broken : Bool
  after : Cursor

/-- Reads the gap after a word. -/
def gap (c : Cursor) : Gap :=
  let (spaces, c) := c.span (· == ' ')
  if startsWith isBreak c.rest then
    let (ending, c) := c.lineBreak
    if atSeparator c.rest then { text := none, broken := true, after := c }
    else
      let (more, c) := moreBreaks c.rest.length c
      let joined := more.map fun breaks =>
        if ending != ['\n'] then ending ++ breaks
        else if breaks.isEmpty then [' ']
        else breaks
      { text := joined, broken := true, after := c }
  else if spaces.isEmpty then { text := none, broken := false, after := c }
  else { text := some spaces, broken := false, after := c }

/-- A plain scalar: its value, whether it ends behind a line end, and the cursor after it. -/
structure Scalar where
  text : List Char
  broken : Bool
  after : Cursor

/-- Reads words and gaps. `spaces` is the gap before the next word, and `broken` tells about it. -/
def words (inFlow : Bool) (indent : Nat) : Nat → List Char → Bool → Cursor → Scalar
  | 0, _, broken, c => { text := [], broken, after := c }
  | fuel + 1, spaces, broken, c =>
    let run := if c.rest.head? == some '#' then [] else word inFlow c.rest
    if run.isEmpty then { text := [], broken, after := c }
    else
      let g := gap (c.advance run.length)
      let here := spaces ++ run
      match g.text with
      | none => { text := here, broken := g.broken, after := g.after }
      | some next =>
        if g.after.rest.head? == some '#' || (!inFlow && g.after.column < indent) then
          { text := here, broken := g.broken, after := g.after }
        else
          let rest := words inFlow indent fuel next g.broken g.after
          { rest with text := here ++ rest.text }

/-- Reads a plain scalar whose further lines have at least the given indentation. -/
def read (inFlow : Bool) (indent : Nat) (c : Cursor) : Scalar :=
  words inFlow indent (c.rest.length + 1) [] false c

end TypstPress.Yaml.Plain
