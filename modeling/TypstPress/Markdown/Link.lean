import TypstPress.Markdown.Indent
import TypstPress.Markdown.Url

/-!
# The parts of links

A link has a text between brackets and, in parentheses or as a definition of its own, a url and
maybe a title. Each reader takes the text behind the opening mark and returns what it read with
what follows.
-/

namespace TypstPress.Markdown

/-- What a label is defined as. -/
structure LinkDefinition where
  url : String := ""
  title : Option String := none
  label : Option String := none
deriving DecidableEq, Repr, Inhabited

/-- The definitions of a document by key, in the order of their first appearance. -/
abbrev LinkTable := List (String × LinkDefinition)

/-- Reads up to `limit` characters other than brackets; an escape counts as one character. -/
def labelUnits (isUnit : Char → Bool) : Nat → List Char → List Char × List Char
  | limit + 1, '\\' :: c :: rest =>
    if c == '\n' then ([], '\\' :: c :: rest)
    else
      let (label, rest) := labelUnits isUnit limit rest
      ('\\' :: c :: label, rest)
  | limit + 1, c :: rest =>
    if c == '\\' || c == '[' || c == ']' || !isUnit c then ([], c :: rest)
    else
      let (label, rest) := labelUnits isUnit limit rest
      (c :: label, rest)
  | _, rest => ([], rest)

/-- Reads a label up to the closing bracket. -/
def label? (cs : List Char) : Option (List Char × List Char) :=
  match labelUnits (fun _ => true) 999 cs with
  | (label, ']' :: rest) => some (label, rest)
  | _ => none

/-- Reads a footnote label up to the closing bracket; it holds no white space and is not empty. -/
def footnoteLabel? (cs : List Char) : Option (List Char × List Char) :=
  match labelUnits (fun c => !Text.isBlank c) 500 cs with
  | ([], _) => none
  | (label, ']' :: rest) => some (label, rest)
  | _ => none

/-- The text after spaces and tabs that hold at most one line feed. -/
def skipGap (cs : List Char) : List Char :=
  match cs.dropWhile isSpaceOrTab with
  | '\n' :: rest => rest.dropWhile isSpaceOrTab
  | rest => rest

/-- Reads a url between angle brackets, behind the first. -/
def bracketedUrl? : List Char → Option (List Char × List Char)
  | '>' :: rest => some ([], rest)
  | '\\' :: c :: rest =>
    if c == '\n' then none else (bracketedUrl? rest).map fun r => ('\\' :: c :: r.1, r.2)
  | c :: rest =>
    if c == '<' || c == '\n' || c == '\\' || c == '\x00' then none
    else (bracketedUrl? rest).map fun r => (c :: r.1, r.2)
  | [] => none

/-- How many parentheses may stand inside each other in a url. -/
def deepestParenthesis : Nat := 20

/-- Reads a url up to a blank, a control character or a closing parenthesis that is not balanced,
inside `depth` parentheses. -/
def bareUrl? (depth : Nat) : List Char → Option (List Char × List Char)
  | '\\' :: c :: rest =>
    if isPunctuation c then (bareUrl? depth rest).map fun r => ('\\' :: c :: r.1, r.2)
    else (bareUrl? depth (c :: rest)).map fun r => ('\\' :: r.1, r.2)
  | c :: rest =>
    if c.toNat ≤ 0x20 || (c == ')' && depth == 0) then
      if depth == 0 then some ([], c :: rest) else none
    else
      let depth := if c == '(' then depth + 1 else if c == ')' then depth - 1 else depth
      if deepestParenthesis < depth then none
      else (bareUrl? depth rest).map fun r => (c :: r.1, r.2)
  | [] => if depth == 0 then some ([], []) else none

/-- Reads the url of a link in a text. -/
def inlineUrl? (cs : List Char) : Option (List Char × List Char) :=
  match skipGap cs with
  | '<' :: rest => bracketedUrl? rest
  | rest => bareUrl? 0 rest

/-- Reads the url of a definition. -/
def definitionUrl? (cs : List Char) : Option (List Char × List Char) :=
  match skipGap cs with
  | '<' :: rest => bracketedUrl? rest
  | rest => (bareUrl? 0 rest).filter (!·.1.isEmpty)

/-- Reads what a title holds up to the `close` that is not escaped. -/
def titleText? (close : Char) (stops : Char → Bool) : List Char → Option (List Char × List Char)
  | '\\' :: c :: rest => (titleText? close stops rest).map fun r => ('\\' :: c :: r.1, r.2)
  | c :: rest =>
    if c == close then some ([], rest)
    else if c == '\\' || stops c then none
    else (titleText? close stops rest).map fun r => (c :: r.1, r.2)
  | [] => none

/-- Reads a title with the white space before it. -/
def title? (cs : List Char) : Option (String × List Char) := do
  let body := cs.dropWhile Text.isBlank
  if body.length == cs.length then none
  else
    let (title, rest) ←
      match body with
      | '"' :: rest => titleText? '"' (· == '\x00') rest
      | '\'' :: rest => titleText? '\'' (· == '\x00') rest
      | '(' :: rest => titleText? ')' (fun c => c == '(' || c == '\x00') rest
      | _ => none
    some (String.ofList (dropEscapes title), rest)

/-- A title that is not empty. -/
def nonemptyTitle (title : Option String) : Option String :=
  title.filter (!·.isEmpty)

/-- Reads the url and title of a link up to the closing parenthesis. -/
def inlineTarget? (cs : List Char) : Option ((String × Option String) × List Char) := do
  let (url, rest) ← inlineUrl? cs
  let (title, rest) :=
    match title? rest with
    | some (title, rest) => (some title, rest)
    | none => (none, rest)
  match rest.dropWhile Text.isBlank with
  | ')' :: rest => some ((storedUrl (dropEscapes url), nonemptyTitle title), rest)
  | _ => none

/-- The text after the blank end of a line. -/
def lineEnd? (cs : List Char) : Option (List Char) :=
  match cs.dropWhile isSpaceOrTab with
  | '\n' :: rest => some rest
  | _ => none

/-- Reads what a label is defined as, behind the colon, to the end of the line. A title that does
not end its line is none. -/
def linkDefinition? (label cs : List Char) : Option (LinkDefinition × List Char) := do
  let (url, rest) ← definitionUrl? cs
  let definition : LinkDefinition :=
    { url := storedUrl (dropEscapes url), label := some (String.ofList label) }
  let near := upToBlankLine false rest
  let titled := do
    let (title, behind) ← title? near
    let after ← lineEnd? (rest.drop (near.length - behind.length))
    some ({ definition with title := nonemptyTitle (some title) }, after)
  titled.or ((lineEnd? rest).map fun rest => (definition, rest))

/-- The table after a definition; a key that is already defined stays. -/
def LinkTable.define (table : LinkTable) (key : String) (definition : LinkDefinition) : LinkTable :=
  if (table.lookup key).isSome then table else table ++ [(key, definition)]

end TypstPress.Markdown
