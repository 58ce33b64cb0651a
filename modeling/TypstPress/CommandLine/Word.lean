import TypstPress.CommandLine.Usage
import TypstPress.Text.Digit

/-!
# Words of a command line

Before any word is acted upon, all are told apart: names of flags, with or without a value
attached, the word `--` that ends the flags, and plain words. A plain word does not start with a
dash, or is a dash alone, or fits no flag and is a negative number or has a space in it. Long names
may be shortened as long as only one flag fits.
-/

namespace TypstPress

/-- A word of the command line. -/
inductive Word where
  | plain (text : String)
  /-- The word that ends the flags. -/
  | separator
  /-- A flag, whether its short name was used, and the value attached to it. -/
  | flag (flag : Flag) (short : Bool) (attached : Option (List Char))
  /-- A name that fits no flag. -/
  | unknown (text : String)
deriving DecidableEq, Repr, Inhabited

namespace Word

/-- The text before the first equals sign, and the text after it if there is one. -/
def splitAtEquals (cs : List Char) : List Char × Option (List Char) :=
  let name := cs.takeWhile (· != '=')
  match cs.drop name.length with
  | [] => (name, none)
  | _ :: value => (name, some value)

/-- Whether a text is a number after a minus sign: digits, or a fraction with digits after the
point. A line end may follow. -/
def isNegativeNumber (cs : List Char) : Bool :=
  match cs with
  | '-' :: digits =>
    let whole := digits.takeWhile Text.isDigit
    match digits.drop whole.length with
    | '.' :: fraction =>
      let part := fraction.takeWhile Text.isDigit
      !part.isEmpty && atEnd (fraction.drop part.length)
    | rest => !whole.isEmpty && atEnd rest
  | _ => false
where
  /-- Whether nothing follows but a line end. -/
  atEnd (rest : List Char) : Bool := rest.isEmpty || rest == ['\n']

/-- Whether a name is a short one. -/
def isShort (name : List Char) : Bool := !(['-', '-'].isPrefixOf name)

/-- The ways to read a text as the name of a flag that is shortened or has its value attached
without a sign. -/
def readings (cs : List Char) : List (String × Word) :=
  if isShort cs then
    match Flag.ofName? (String.ofList (cs.take 2)) with
    | some f => [(String.ofList (cs.take 2), .flag f true (some (cs.drop 2)))]
    | none => []
  else
    let (name, value) := splitAtEquals cs
    (Flag.completions (String.ofList name)).map fun c =>
      (c.1, .flag c.2 false value)

/-- The exact name of a flag, alone or with a value after an equals sign. -/
def ofExactName? (cs : List Char) : Option Word :=
  match Flag.ofName? (String.ofList cs), splitAtEquals cs with
  | some f, _ => some (.flag f (isShort cs) none)
  | none, (name, some value) =>
    (Flag.ofName? (String.ofList name)).map fun f => .flag f (isShort name) (some value)
  | none, (_, none) => none

/-- Tells what a word before the separator is. -/
def ofText (text : String) : Except UsageError Word :=
  let cs := text.toList
  if !(['-'].isPrefixOf cs) || cs == ['-'] then .ok (.plain text)
  else
    match ofExactName? cs, readings cs with
    | some word, _ => .ok word
    | none, [(_, word)] => .ok word
    | none, [] =>
      if isNegativeNumber cs || cs.contains ' ' then .ok (.plain text) else .ok (.unknown text)
    | none, several => .error (.ambiguous text (several.map (·.1)))

/-- Tells what the words of a command line are. -/
def ofTexts : List String → Except UsageError (List Word)
  | [] => .ok []
  | text :: rest =>
    if text == "--" then .ok (.separator :: rest.map .plain)
    else do
      let word ← ofText text
      return word :: (← ofTexts rest)

end Word

end TypstPress
