import TypstPress.Text.Blank

/-!
# HTML in Markdown

Tags are recognised by their form alone. The attributes of a tag are followed by a small automaton
that keeps all the positions it may be in, because an unquoted value may itself hold white space
and only what comes later tells where it ended. Quoted values may hold `>`, so the first `>`
outside quotes ends the tag.
-/

namespace TypstPress.Markdown.Html

/-- Tags that begin a block up to the next blank line. -/
def blockTags : List String := [
  "address", "article", "aside", "base", "basefont", "blockquote", "body", "caption", "center",
  "col", "colgroup", "dd", "details", "dialog", "dir", "div", "dl", "dt", "fieldset",
  "figcaption", "figure", "footer", "form", "frame", "frameset", "h1", "h2", "h3", "h4", "h5",
  "h6", "head", "header", "hr", "html", "iframe", "legend", "li", "link", "main", "menu",
  "menuitem", "meta", "nav", "noframes", "ol", "optgroup", "option", "p", "param", "section",
  "source", "summary", "table", "tbody", "td", "tfoot", "th", "thead", "title", "tr", "track",
  "ul"]

/-- Tags whose content is kept up to the closing tag. -/
def verbatimTags : List String := ["pre", "script", "style", "textarea"]

/-- A character of a tag name after the first. -/
def isTagChar (c : Char) : Bool := c.isAlphanum || c == '-'

/-- The tag name at the start of a text and what follows it. -/
def tagName? : List Char → Option (List Char × List Char)
  | c :: rest =>
    if c.isAlpha then some (c :: rest.takeWhile isTagChar, rest.dropWhile isTagChar) else none
  | [] => none

/-- The first character of an attribute name. -/
def isAttributeStart (c : Char) : Bool := c.isAlpha || c == '_' || c == ':'

/-- A character of an attribute name after the first. -/
def isAttributeChar (c : Char) : Bool :=
  c.isAlphanum || c == '_' || c == '.' || c == ':' || c == '-'

/-- A character of a value without quotes. -/
def isBareChar (c : Char) : Bool :=
  !(c == ' ' || c == '!' || c == '"' || c == '\'' || c == '=' || c == '<' || c == '>' ||
    c == '\x60')

/-- A position inside a tag. -/
inductive Position where
  /-- Behind the tag name or a quoted value. -/
  | behind
  /-- In the white space before an attribute. -/
  | before
  /-- In the name of an attribute. -/
  | name
  /-- In the white space before `=`. -/
  | beforeEquals
  /-- Behind `=`, before the value. -/
  | beforeValue
  /-- In a value without quotes. -/
  | bare
  /-- In a value with the given quote. -/
  | quoted (quote : Char)
  /-- In the white space before the end. -/
  | trailing
  /-- Behind a slash before the end. -/
  | slash
  /-- Behind the end of the tag. -/
  | done
deriving DecidableEq, Repr

/-- How a tag may end: which characters may stand before `>`, and whether a slash may. -/
structure Ending where
  isTrailing : Char → Bool
  slash : Bool

/-- The ending of tags within a text. -/
def inlineEnding : Ending := ⟨Text.isBlank, true⟩

/-- The ending of tags that make up a line. -/
def blockEnding : Ending := ⟨fun c => c == ' ' || c == '\t', false⟩

/-- The positions after a character that stands where an attribute may begin or the tag may end. -/
def leave (ending : Ending) (c : Char) : List Position :=
  (if Text.isBlank c then [.before] else []) ++ (if ending.isTrailing c then [.trailing] else []) ++
    (if c == '/' && ending.slash then [.slash] else []) ++ (if c == '>' then [.done] else [])

/-- The positions after a character that follows `=` and maybe white space. -/
def enterValue (c : Char) : List Position :=
  (if Text.isBlank c then [.beforeValue] else []) ++ (if isBareChar c then [.bare] else []) ++
    (if c == '"' || c == '\'' then [.quoted c] else [])

/-- The positions that a character leads to. -/
def step (ending : Ending) (c : Char) : Position → List Position
  | .behind => leave ending c
  | .before =>
    (if Text.isBlank c then [.before] else []) ++ (if isAttributeStart c then [.name] else [])
  | .name =>
    (if isAttributeChar c then [.name] else []) ++
      (if Text.isBlank c then [.beforeEquals] else []) ++
      (if c == '=' then [.beforeValue] else []) ++ leave ending c
  | .beforeEquals =>
    (if Text.isBlank c then [.beforeEquals] else []) ++ (if c == '=' then [.beforeValue] else [])
  | .beforeValue => enterValue c
  | .bare => (if isBareChar c then [.bare] else []) ++ leave ending c
  | .quoted quote => if c == quote then [.behind] else [.quoted quote]
  | .trailing =>
    (if ending.isTrailing c then [.trailing] else []) ++
      (if c == '/' && ending.slash then [.slash] else []) ++ (if c == '>' then [.done] else [])
  | .slash => if c == '>' then [.done] else []
  | .done => []

/-- What follows the end of a tag, from a set of positions. -/
def run (ending : Ending) (positions : List Position) : List Char → Option (List Char)
  | [] => none
  | c :: rest =>
    let next := (positions.flatMap (step ending c)).eraseDups
    if next.contains .done then some rest else if next.isEmpty then none else run ending next rest

/-- What follows the attributes and the end of an opening tag. -/
def afterAttributes (ending : Ending) (cs : List Char) : Option (List Char) :=
  run ending [.behind] cs

/-- What follows the first place where `mark` stands. -/
def afterMark (mark : List Char) : List Char → Option (List Char)
  | [] => if mark.isEmpty then some [] else none
  | c :: rest =>
    if mark.isPrefixOf (c :: rest) then some ((c :: rest).drop mark.length)
    else afterMark mark rest

/-- What follows a comment, given what stands behind its opening. The shortest comments are `<!-->`
and `<!--->`. -/
def afterComment (cs : List Char) : Option (List Char) :=
  match cs with
  | '>' :: rest | '-' :: '>' :: rest => some rest
  | cs => afterMark "-->".toList cs

/-- What follows a declaration, given what stands behind `<!`: a name in upper case and, after
white space, anything else. -/
def afterDeclaration (cs : List Char) : Option (List Char) :=
  let isUpper (c : Char) : Bool := decide ('A' ≤ c && c ≤ 'Z')
  let behind := cs.dropWhile isUpper
  if cs.head?.any isUpper && behind.head?.any Text.isBlank then afterMark ">".toList behind
  else none

/-- What follows a piece of HTML at the start of a text: a tag, a comment, an instruction, a
declaration or a character section. -/
def after? : List Char → Option (List Char)
  | '<' :: '/' :: rest => do
    let (_, rest) ← tagName? rest
    match rest.dropWhile Text.isBlank with
    | '>' :: rest => some rest
    | _ => none
  | '<' :: '!' :: '-' :: '-' :: rest => afterComment rest
  | '<' :: '?' :: rest => afterMark "?>".toList rest
  | '<' :: '!' :: rest =>
    if "[CDATA[".toList.isPrefixOf rest then afterMark "]]>".toList (rest.drop 7)
    else afterDeclaration rest
  | '<' :: rest => do
    let (_, rest) ← tagName? rest
    afterAttributes inlineEnding rest
  | _ => none

/-- How a block of HTML begins. -/
inductive Opening where
  | comment
  | instruction
  | characters
  | declaration
  | openTag (name : String)
  | closeTag (name : String)
deriving DecidableEq, Repr

/-- The opening of a block of HTML at the start of an unindented line, with what follows it. -/
def opening? : List Char → Option (Opening × List Char)
  | '<' :: '/' :: rest =>
    (tagName? rest).map fun r => (.closeTag (String.ofList (r.1.map Char.toLower)), r.2)
  | '<' :: '!' :: '-' :: '-' :: rest => some (.comment, rest)
  | '<' :: '?' :: rest => some (.instruction, rest)
  | '<' :: '!' :: rest =>
    match rest with
    | c :: more =>
      if 'A' ≤ c && c ≤ 'Z' then some (.declaration, more)
      else if "[CDATA[".toList.isPrefixOf rest then some (.characters, rest.drop 7)
      else none
    | [] => none
  | '<' :: rest =>
    (tagName? rest).map fun r => (.openTag (String.ofList (r.1.map Char.toLower)), r.2)
  | _ => none

/-- Whether a line that is not indented starts a block of HTML that may end a paragraph without a
blank line: a known tag in lower case, or one of the other openings. -/
def interrupts (cs : List Char) : Bool :=
  match cs with
  | '<' :: '/' :: rest => isKnownTag rest
  | '<' :: '!' :: _ | '<' :: '?' :: _ => (opening? cs).isSome
  | '<' :: rest => isKnownTag rest
  | _ => false
where
  /-- Whether a known tag stands here up to a space, a tab or the end of the line. -/
  isKnownTag (cs : List Char) : Bool :=
    let name := String.ofList (cs.takeWhile fun c => !(c == ' ' || c == '\t' || c == '\n'))
    blockTags.contains name || verbatimTags.contains name

end TypstPress.Markdown.Html
