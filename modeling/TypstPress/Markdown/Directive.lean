import TypstPress.Document.Node
import TypstPress.Markdown.Indent

/-!
# Directives

A directive stands between two fences of colons; the opening fence carries its name in braces and
its title, and the lines after it may give options such as `:key: value`. The closing fence has at
least as many colons as the opening one; without one the directive ends with the text. What is left
of the text after the last line feed belongs to no part of the directive.
-/

namespace TypstPress.Markdown

/-- A character of names of directives and options. -/
def isDirectiveChar (c : Char) : Bool := c.isAlphanum || c == '_' || c == '-'

/-- The text up to the first line that satisfies `p` and the text after that line. The text may
begin within a line; then that line does not count. -/
def splitAtLine (p : List Char → Bool) (lineStart : Bool) :
    List Char → Option (List Char × List Char)
  | [] => none
  | c :: rest =>
    if lineStart && p (firstLine (c :: rest)) then some ([], afterLine (c :: rest))
    else (splitAtLine p (c == '\n') rest).map fun r => (c :: r.1, r.2)

/-- Whether a line closes a fence of at least `size` marks. -/
def isClosingFence (mark : Char) (size : Nat) (line : List Char) : Bool :=
  match dropIndent? 3 line with
  | some rest =>
    size ≤ (rest.takeWhile (· == mark)).length &&
      (rest.dropWhile (· == mark)).all isSpaceOrTab
  | none => false

/-- A name and what follows it, for a text that starts with a name. -/
def directiveName? (cs : List Char) : Option (List Char × List Char) :=
  let name := cs.takeWhile isDirectiveChar
  if name.isEmpty then none else some (name, cs.dropWhile isDirectiveChar)

/-- The number of colons of the fence that opens a directive at the start of a text. -/
def openingFence? (cs : List Char) : Option Nat :=
  let size := (cs.takeWhile (· == ':')).length
  match cs.dropWhile (· == ':') with
  | '\x7b' :: rest =>
    match directiveName? rest with
    | some (_, '\x7d' :: _) => if 3 ≤ size then some size else none
    | _ => none
  | _ => none

/-- A directive as it is written. -/
structure DirectiveText where
  name : String
  title : String
  options : Attributes
  body : List Char
  /-- All of it but the fences. -/
  source : List Char

/-- Reads an option line with the line feeds after it. -/
def optionLine? (cs : List Char) : Option ((String × String) × List Char) :=
  match cs with
  | ':' :: rest =>
    match directiveName? rest with
    | some (key, ':' :: rest) =>
      match rest.dropWhile (· != '\n') with
      | [] => none
      | after =>
        let value := String.ofList (Text.trim (firstLine rest))
        some ((String.ofList key, value), after.dropWhile (· == '\n'))
    | _ => none
  | _ => none

/-- Reads option lines, for a text with at most `fuel` of them. -/
def optionLines : Nat → List Char → Attributes → Attributes × List Char
  | 0, cs, options => (options, cs)
  | fuel + 1, cs, options =>
    match optionLine? cs with
    | some ((key, value), rest) => optionLines fuel rest (options.put key (some value))
    | none => (options, cs)

/-- The text up to its last line feed. -/
def wholeLines (cs : List Char) : List Char := Text.dropEndWhile (· != '\n') cs

/-- Reads what stands behind the opening colons, up to the closing fence. -/
def directiveText (inside : List Char) : DirectiveText :=
  let afterBrace := inside.drop 1
  let name := afterBrace.takeWhile isDirectiveChar
  let title := ((afterBrace.dropWhile isDirectiveChar).drop 1).dropWhile (· == ' ')
  let (options, rest) := optionLines inside.length (afterLine title) []
  let body := wholeLines (rest.dropWhile (· == '\n'))
  let source :=
    if (afterLine title).isEmpty then inside
    else
      let left := (rest.dropWhile (· == '\n')).length - body.length
      inside.take (inside.length - left)
  { name := String.ofList name
    title := String.ofList (Text.trim (firstLine title))
    options, body, source }

/-- Reads the directive at the start of a text with the given number of colons, and what follows
it. -/
def directive (size : Nat) (cs : List Char) : DirectiveText × List Char :=
  let behind := cs.drop size
  match splitAtLine (isClosingFence ':' size) false behind with
  | some (inside, rest) => (directiveText inside, rest)
  | none => (directiveText behind, [])

end TypstPress.Markdown
