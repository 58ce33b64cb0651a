import TypstPress.Markdown.Block.Recognise

/-!
# Reading blocks without blocks inside

Every reader takes the state at the start of a line that its rule has recognised. Some find that
the line is no such block after all, and some blocks cannot end a paragraph: the line then
continues the paragraph.
-/

namespace TypstPress.Markdown

/-- The text of a heading without the marks that may close it. -/
def dropClosingMarks (text : List Char) : List Char :=
  let inner := Text.dropEndWhile Text.isBlank text
  let before := Text.dropEndWhile (· == '#') inner
  if before.length == inner.length then text
  else if before.isEmpty then []
  else if before.getLast?.any Text.isBlank then Text.dropEndWhile Text.isBlank before
  else text

/-- Reads a heading that starts with its marks. -/
def readAtxHeading (s : BlockState) : Option BlockState := do
  let line ← dropIndent? 3 (firstLine s.rest)
  let (level, text) ← atxHeading? line
  let text := dropClosingMarks (Text.trimWhile isAsciiBlank text)
  some (s.push (.heading level text) (afterLine s.rest))

/-- Reads a line that makes the paragraph before it a heading. -/
def readSetextHeading? (s : BlockState) : Option BlockState := do
  let line ← dropIndent? 3 (firstLine s.rest)
  let level ← setextLevel? line
  match s.blocks with
  | .paragraph text :: blocks =>
    some { s with
      rest := afterLine s.rest, blocks := .heading level text :: blocks }
  | _ => none

/-- Reads code between fences, to the end of the text if nothing closes it. A fence of backticks
has none in its info text. -/
def readFence (s : BlockState) : Option BlockState := do
  let fence ← codeFence? (firstLine s.rest)
  if fence.mark == '\x60' && fence.info.contains '\x60' then none
  else
    let inside := afterLine s.rest
    let (content, rest) :=
      (splitAtLine (isClosingFence fence.mark fence.size) true inside).getD (inside, [])
    let info := if fence.info.isEmpty then none else some (Text.trim (dropEscapes fence.info))
    some (s.push (.code (mapLines (dropUpTo fence.indent) content) info) rest)

/-- What follows indented code: indented lines and blanks between and behind them, for a text with
at most `fuel` of both. -/
def afterIndented : Nat → List Char → List Char
  | 0, cs => cs
  | fuel + 1, cs =>
    match indentedLine? cs with
    | some rest => afterIndented fuel rest
    | none =>
      match cs with
      | c :: rest => if Text.isBlank c then afterIndented fuel rest else cs
      | [] => []

/-- Reads indented code with the blank lines behind it. -/
def readIndented (s : BlockState) : Option BlockState :=
  s.continueParagraph?.or <|
    let behind := afterIndented s.rest.length s.rest
    let source := s.rest.take (s.rest.length - behind.length)
    let source := if behind.isEmpty then source else wholeLines source
    let content := Text.trimWhile (· == '\n') (mapLines (dropUpTo 4) (widenTabs 4 source))
    some (s.push (.code content none) (s.rest.drop source.length))

/-- Reads HTML up to the end of the line in which `mark` stands. -/
def readHtmlTo (mark : String) (s : BlockState) (behind : List Char) : BlockState :=
  match Html.afterMark mark.toList behind with
  | some rest =>
    let rest := afterLine rest
    s.push (.html (s.rest.take (s.rest.length - rest.length))) rest
  | none => s.push (.html s.rest) []

/-- Reads HTML up to the next blank line. -/
def readHtmlToBlank (s : BlockState) : BlockState :=
  let content := upToBlankLine true s.rest
  s.push (.html content) (s.rest.drop content.length)

/-- Whether a tag with this opening makes up the rest of its line. -/
def isWholeTag (opening : Html.Opening) (behind : List Char) : Bool :=
  let line := firstLine behind
  match opening with
  | .openTag _ => (Html.afterAttributes Html.blockEnding line).any (·.all isSpaceOrTab)
  | .closeTag _ =>
    match line.dropWhile isSpaceOrTab with
    | '>' :: rest => rest.all isSpaceOrTab
    | _ => false
  | _ => false

/-- Reads a tag that is not known; it cannot end a paragraph. -/
def readOtherTag (opening : Html.Opening) (s : BlockState) (behind : List Char) :
    Option BlockState :=
  s.continueParagraph?.or (if isWholeTag opening behind then some (readHtmlToBlank s) else none)

/-- Reads HTML. -/
def readHtml (s : BlockState) : Option BlockState := do
  let (opening, behind) ← Html.opening? (← dropIndent? 3 s.rest)
  match opening with
  | .comment => some (readHtmlTo "-->" s behind)
  | .instruction => some (readHtmlTo "?>" s behind)
  | .characters => some (readHtmlTo "]]>" s behind)
  | .declaration => some (readHtmlTo ">" s behind)
  | .closeTag name =>
    if Html.blockTags.contains name then some (readHtmlToBlank s)
    else readOtherTag opening s behind
  | .openTag name =>
    if Html.verbatimTags.contains name then some (readHtmlTo ("</" ++ name ++ ">") s behind)
    else if Html.blockTags.contains name then some (readHtmlToBlank s)
    else readOtherTag opening s behind

/-- Reads a link definition. -/
def readLink (s : BlockState) : Option BlockState :=
  s.continueParagraph?.or do
    let (label, behind) ← linkStart? s.rest
    let key := referenceKey label
    if key.isEmpty then none
    else
      let (definition, rest) ← linkDefinition? label behind
      let links := s.labels.links.define key definition
      some { s with rest, labels := { s.labels with links } }

/-- The further lines of a footnote that is indented by `lead` spaces: they are indented by one to
four spaces more. -/
def noteLines (lead : Nat) : Nat → List Char → List Char × List Char
  | 0, cs => ([], cs)
  | fuel + 1, cs =>
    let indent := indentOf cs
    match cs.dropWhile (· != '\n') with
    | _ :: _ =>
      if lead < indent && indent ≤ lead + 4 then
        let behind := (cs.dropWhile (· != '\n')).dropWhile (· == '\n')
        let (text, rest) := noteLines lead fuel behind
        (cs.take (cs.length - behind.length) ++ text, rest)
      else ([], cs)
    | [] => ([], cs)

/-- Reads a footnote; the first with its key counts. -/
def readFootnote (s : BlockState) : Option BlockState := do
  let (label, behind) ← footnoteStart? s.rest
  let key := referenceKey label
  let next := (behind.dropWhile (· != '\n')).dropWhile (· == '\n')
  let (more, rest) := noteLines (indentOf s.rest) next.length next
  let text := behind.take (behind.length - next.length) ++ more
  let notes := s.labels.notes
  let notes := if (notes.lookup key).isSome then notes else notes ++ [(key, text)]
  some { s with rest, labels := { s.labels with notes } }

/-- Reads a table between `|`. Lines that look like one and do not fit are text. -/
def readEnclosedTable (s : BlockState) : Option BlockState := do
  let (rows, rest) ← enclosedRows? s.rest
  match TableText.ofRows? rows with
  | some table => some (s.push (.table table) (rest.dropWhile (· == '\n')))
  | none => some (s.addText (s.rest.take (s.rest.length - rest.length)) rest)

/-- Reads a table whose lines need not be enclosed. -/
def readOpenTable (s : BlockState) : Option BlockState := do
  let (table, rest) ← openTable? s.rest
  some (s.push (.table table) (rest.dropWhile (· == '\n')))

/-- Reads a block of a rule under which no blocks stand inside; nothing for the other rules. -/
def readLeaf (rule : Rule) (s : BlockState) : Option BlockState :=
  match rule with
  | .fence => readFence s
  | .indented => readIndented s
  | .atxHeading => readAtxHeading s
  | .thematicBreak => some (s.push .thematicBreak (afterLine s.rest))
  | .math => do
    let (content, rest) ← math? s.rest
    some (s.push (.math content) rest)
  | .footnote => readFootnote s
  | .link => readLink s
  | .html => readHtml s
  | .blank => some (s.push .blank (dropBlankLines s.rest.length s.rest))
  | .enclosedTable => readEnclosedTable s
  | .openTable => readOpenTable s
  | .setextHeading => readSetextHeading? s
  | .directive | .quote | .list => none

end TypstPress.Markdown
