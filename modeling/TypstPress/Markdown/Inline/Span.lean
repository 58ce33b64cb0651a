import TypstPress.Markdown.Html
import TypstPress.Markdown.Indent
import TypstPress.Text.Digit

/-!
# Spans

Code, formulas, struck text, addresses and line breaks are found by their marks alone. Each reader
takes the text at the opening mark and returns what stands inside with what follows.
-/

namespace TypstPress.Markdown

/-- The content of a code span whose closing mark has `size` backticks, in a text where the
character before is a backtick or not. -/
def untilBackticks (size : Nat) (behindBacktick : Bool) :
    List Char → Option (List Char × List Char)
  | [] => none
  | c :: rest =>
    if c == '\x60' && !behindBacktick && (rest.takeWhile (· == '\x60')).length + 1 == size then
      some ([], rest.dropWhile (· == '\x60'))
    else (untilBackticks size (c == '\x60') rest).map fun r => (c :: r.1, r.2)

/-- The code between backticks: line feeds are spaces, and one space at both ends is dropped from
code that does not consist of spaces. -/
def codeText (cs : List Char) : List Char :=
  let code := cs.map fun c => if c == '\n' then ' ' else c
  if code.any (· != ' ') && code.head? == some ' ' && code.getLast? == some ' ' then
    (code.drop 1).dropLast
  else code

/-- A code span behind its opening mark of `size` backticks. -/
def codeSpan? (size : Nat) (cs : List Char) : Option (List Char × List Char) :=
  (untilBackticks size true cs).map fun r => (codeText r.1, r.2)

/-- A formula set apart, behind its opening `$$`. -/
def displayMath? : List Char → Option (List Char × List Char)
  | '$' :: '$' :: rest => some ([], rest)
  | '$' :: _ => none
  | '\\' :: c :: rest =>
    if c == '\n' then none else (displayMath? rest).map fun r => ('\\' :: c :: r.1, r.2)
  | c :: rest => if c == '\\' then none else (displayMath? rest).map fun r => (c :: r.1, r.2)
  | [] => none

/-- The text up to the first place where `mark` stands, and what follows it. -/
def splitAtMark (mark : List Char) : List Char → Option (List Char × List Char)
  | [] => none
  | c :: rest =>
    if mark.isPrefixOf (c :: rest) then some ([], (c :: rest).drop mark.length)
    else (splitAtMark mark rest).map fun r => (c :: r.1, r.2)

/-- A formula between backticks behind a dollar sign, for a mark of at most `size` backticks: the
largest mark that is closed counts. -/
def backtickMath? : Nat → List Char → Option (List Char × List Char)
  | 0, _ => none
  | size + 1, cs =>
    let mark := List.replicate (size + 1) '\x60'
    (splitAtMark (mark ++ ['$']) (cs.drop (size + 1))).or (backtickMath? size cs)

/-- The content of a formula up to the dollar sign that closes it. -/
def untilDollar : List Char → Option (List Char × List Char)
  | '$' :: rest => some ([], rest)
  | '\\' :: c :: rest =>
    if c == '\n' then none else (untilDollar rest).map fun r => ('\\' :: c :: r.1, r.2)
  | c :: rest =>
    if c == '\\' || c == '\n' then none else (untilDollar rest).map fun r => (c :: r.1, r.2)
  | [] => none

/-- A formula within a text, behind its opening dollar sign. It does not begin with white space,
and no digit follows it. -/
def dollarMath? (cs : List Char) : Option (List Char × List Char) :=
  match cs with
  | [] => none
  | c :: _ =>
    if c == '$' || Text.isBlank c then none
    else (untilDollar cs).filter fun r => !r.2.head?.any Text.isDigit

/-- A formula within a text, behind its opening dollar sign. -/
def inlineMath? (cs : List Char) : Option (List Char × List Char) :=
  (backtickMath? (cs.takeWhile (· == '\x60')).length cs).or (dollarMath? cs)

/-- The content of struck text up to the tildes that close it, where `slashes` backslashes come
before. The character before those tildes is no white space, and no tilde unless it is escaped; not
just one more tilde follows. -/
def untilTildes (slashes : Nat) : List Char → Option (List Char × List Char)
  | [] => none
  | c :: rest =>
    let fits := if c == '~' then slashes % 2 == 1 else !Text.isBlank c
    let closes := match rest with
      | '~' :: '~' :: '~' :: '~' :: _ => true
      | '~' :: '~' :: '~' :: _ => false
      | '~' :: '~' :: _ => true
      | _ => false
    if fits && closes then some ([c], rest.drop 2)
    else (untilTildes (if c == '\\' then slashes + 1 else 0) rest).map fun r => (c :: r.1, r.2)

/-- Struck text at its opening tildes. -/
def struck? : List Char → Option (List Char × List Char)
  | '~' :: '~' :: c :: rest =>
    if c == '~' || Text.isBlank c then none else untilTildes 0 (c :: rest)
  | _ => none

/-- A character of a scheme after the first. -/
def isSchemeChar (c : Char) : Bool := c.isAlphanum || c == '.' || c == '+' || c == '-'

/-- What follows the scheme of an address and its colon, at the opening angle bracket. -/
def afterScheme (isChar : Char → Bool) : List Char → Option (List Char)
  | '<' :: c :: rest =>
    let size := (rest.takeWhile isChar).length
    match rest.dropWhile isChar with
    | ':' :: after => if c.isAlpha && 1 ≤ size && size ≤ 31 then some after else none
    | _ => none
  | _ => none

/-- What follows an address between angle brackets. -/
def afterAddress? (cs : List Char) : Option (List Char) := do
  let rest ← afterScheme isSchemeChar cs
  match rest.dropWhile fun c => !(c == '<' || c == '>' || c.toNat ≤ 0x20) with
  | '>' :: rest => some rest
  | _ => none

/-- A character of the part of a mail address before `@`. -/
def isMailChar (c : Char) : Bool :=
  c.isAlphanum || ".!#$%&'*+/=?^_\x60\x7b|\x7d~-".toList.contains c

/-- Whether a text is one name in the part of a mail address behind `@`. -/
def isHostName (cs : List Char) : Bool :=
  cs.length ≤ 63 && cs.head?.any Char.isAlphanum && cs.getLast?.any Char.isAlphanum &&
    cs.all fun c => c.isAlphanum || c == '-'

/-- The pieces of a text between points. -/
def splitAtPoints : List Char → List (List Char)
  | [] => [[]]
  | c :: rest =>
    if c == '.' then [] :: splitAtPoints rest
    else
      match splitAtPoints rest with
      | [] => [[c]]
      | name :: names => (c :: name) :: names

/-- What follows a mail address between angle brackets. -/
def afterMailAddress? (cs : List Char) : Option (List Char) :=
  match cs with
  | '<' :: rest =>
    match rest.dropWhile isMailChar with
    | '@' :: host =>
      let isHostChar (c : Char) : Bool := c.isAlphanum || c == '-' || c == '.'
      let names := splitAtPoints (host.takeWhile isHostChar)
      match host.dropWhile isHostChar with
      | '>' :: after =>
        if rest.head?.any isMailChar && names.all isHostName then some after else none
      | _ => none
    | _ => none
  | _ => none

/-- What follows a line break, and whether it is a soft one. Two spaces or a backslash before the
line feed make a hard one; spaces before it and white space at the start of the next line are
dropped. -/
def lineBreak? (cs : List Char) : Option (Bool × List Char) :=
  let spaces := (cs.takeWhile (· == ' ')).length
  let afterFeed (cs : List Char) : Option (List Char) :=
    match cs with
    | '\n' :: rest => some (rest.dropWhile Text.isBlank)
    | _ => none
  let hard :=
    match cs with
    | '\\' :: rest => afterFeed rest
    | cs => if 2 ≤ spaces then afterFeed (cs.drop spaces) else none
  match hard with
  | some rest => some (false, rest)
  | none => (afterFeed (cs.drop spaces)).map fun rest => (true, rest)

end TypstPress.Markdown
