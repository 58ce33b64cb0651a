import TypstPress.Markdown.Block.Leaf

/-!
# Reading quotes, lists and directives

Their content is a text of its own, from which the marks and the indentation are taken away, and
is read once it is complete. A line that may end them is read together with them: a quote is then
put before the last block that came of that line, and a list where it began.

Nesting is bounded in two ways. Twenty levels of quotes, lists and directives may stand inside each
other, and what looks like a further one is text. And since every level takes away at least one
mark, a text has no more levels than it has characters: `readBlocks` counts with that number, and
the lines of one level with the number of their characters, so neither count is ever used up.
-/

namespace TypstPress.Markdown

/-- How many quotes, lists and directives may stand inside each other. -/
def deepestLevel : Nat := 20

/-- What readers know besides the state: the options, the level, and how to read the blocks of a
nested text, given its unmarked lines. -/
structure BlockContext where
  options : MarkdownOptions
  level : Nat
  readNested : List Rule → List Char → List Nat → Labels → List Block × Labels

namespace BlockContext

/-- Reads a nested text, without containers in it at the deepest level. -/
def nested (ctx : BlockContext) (rules : List Rule) (text : List Char) (unmarked : List Nat)
    (s : BlockState) : List Block × BlockState :=
  let rules := if deepestLevel ≤ ctx.level + 1 then rules.filter (!·.isContainer) else rules
  let (blocks, labels) := ctx.readNested rules text unmarked s.labels
  (blocks, { s with labels })

end BlockContext

/-- A line without one leading space. -/
def dropSpace (line : List Char) : List Char := dropUpTo 1 line

/-- Lines of a quote without their marks. -/
def dropQuoteMarks (cs : List Char) : List Char :=
  let unmarked := mapLines (fun line =>
    match line.drop (indentOf line) with
    | '>' :: rest => rest
    | _ => line) cs
  mapLines dropSpace (widenTabs 3 unmarked)

/-- Whether lines of a quote end with a blank one, so that no line without a mark can follow. -/
def endsBlank (cs : List Char) : Bool :=
  match cs.reverse with
  | '\n' :: rest => Text.isAllBlank (rest.takeWhile (· != '\n'))
  | _ => Text.isAllBlank cs

/-- The rules that end a quote. -/
def quoteEnds : List Rule := [.blank, .thematicBreak, .fence, .list, .html]

/-- The rules that are tried on a line of a list before and after the mark of an item. -/
def itemEnds (o : MarkdownOptions) : List Rule :=
  Rule.directives o ++ [.fence, .atxHeading, .quote, .html, .list]

/-- The first line of an item behind its mark and the column at which its content begins. -/
def itemStart (mark : ItemMark) : List Char × Nat :=
  let column := mark.indent + mark.mark.length
  let text := spreadTabs column mark.text
  if Text.isAllBlank text then ([], column + 1)
  else
    let gap := if 5 ≤ indentOf text then 1 else indentOf text
    (text.drop gap ++ ['\n'], column + gap)

/-- The lines of an item, each without the given number of leading spaces if it has them. -/
def dropItemIndent (column : Nat) (cs : List Char) : List Char :=
  mapLines (fun line =>
    if column ≤ indentOf line then replaceTabs (line.drop column) else line) cs

/-- The text with the blanks behind its last line reduced to one line feed. -/
def dropBlankEnd (cs : List Char) : List Char :=
  let body := Text.dropEndWhile Text.isBlank cs
  let blanks := cs.drop body.length
  match blanks.dropWhile (· != '\n') with
  | [] => cs
  | _ :: _ => body ++ blanks.takeWhile (· != '\n') ++ ['\n']

/-- Whether the blocks of an item make its list loose. -/
def isLoose (blocks : List Block) : Bool :=
  let isParagraph : Block → Bool
    | .paragraph _ => true
    | _ => false
  let isBlank : Block → Bool
    | .blank => true
    | _ => false
  blocks.any isBlank || 1 < blocks.countP isParagraph

/-- A quote that is being read. -/
structure QuoteState where
  /-- Its lines so far, without their marks. -/
  lines : List Char
  /-- The lines that have no mark, by the number of lines before them. -/
  unmarked : List Nat := []
  afterBlank : Bool := false
  /-- Whether a further block has ended it. -/
  ended : Bool := false

namespace QuoteState

/-- The quote with further lines that have marks. -/
def addMarked (quote : QuoteState) (cs : List Char) : QuoteState :=
  let lines := dropQuoteMarks cs
  { quote with lines := quote.lines ++ lines, afterBlank := endsBlank lines }

/-- The quote with the first line of a text, which has no mark. -/
def addUnmarked (quote : QuoteState) (cs : List Char) : QuoteState :=
  { quote with
    lines := quote.lines ++ widenTabs 3 (firstLineKept cs)
    unmarked := quote.lines.count '\n' :: quote.unmarked }

/-- The lines that have no mark, by the number of line feeds from there on. -/
def unmarkedFromEnd (quote : QuoteState) : List Nat :=
  quote.unmarked.map (quote.lines.count '\n' - ·)

end QuoteState

/-- A list that is being read. -/
structure ListState where
  bullet : Char
  tight : Bool := true
  items : List Block := []
  /-- How many blocks stand before the list, once something else has ended it. -/
  position : Option Nat := none

/-- The lines of an item that is being read. -/
structure ItemState where
  column : Nat
  /-- How far a mark that ends the item may be indented. -/
  limit : Nat
  /-- Whether the line of the mark holds text. -/
  startsWithText : Bool
  lines : List Char := []
  afterBlank : Bool := false

/-- What comes after the lines of an item. -/
structure ItemEnd where
  lines : List Char
  list : ListState
  state : BlockState
  next : Option ItemMark := none

/-- Reads a directive. One without a registered name is kept as text. -/
def readDirective (ctx : BlockContext) (s : BlockState) : Option BlockState := do
  let size ← openingFence? s.rest
  let (d, rest) := directive size s.rest
  if !ctx.options.directiveNames.contains d.name then
    some (s.push (.unknownDirective d.source) rest)
  else if d.name == "typst" then some (s.push (.typst d.title d.options d.body) rest)
  else if Text.isAllBlank d.body then some (s.push (.leaf d.name d.title d.options) rest)
  else
    let (children, s) := ctx.nested (Rule.all ctx.options) d.body [] s
    some (s.push (.container d.name d.title d.options children) rest)

mutual

/-- Reads a block that the rule recognises. -/
def readRule (ctx : BlockContext) : Nat → Rule → BlockState → Option BlockState
  | 0, _, _ => none
  | fuel + 1, rule, s =>
    match rule with
    | .setextHeading =>
      match s.blocks with
      | .paragraph _ :: _ => if s.isUnmarked then none else readLeaf .setextHeading s
      | _ =>
        if Rule.starts s.rest .thematicBreak then readLeaf .thematicBreak s
        else if Rule.starts s.rest .list then readList ctx fuel s
        else none
    | .quote => readQuote ctx fuel s
    | .list => readList ctx fuel s
    | .directive => readDirective ctx s
    | rule => readLeaf rule s

/-- Reads a quote. When it begins with a blank line or with code, only marked lines belong to it. -/
def readQuote (ctx : BlockContext) : Nat → BlockState → Option BlockState
  | 0, _ => none
  | fuel + 1, s => do
    let marked ← dropIndent? 3 (firstLine s.rest)
    let first := mapLines dropSpace (widenTabs 3 (marked.drop 1 ++ ['\n']))
    let s := { s with rest := afterLine s.rest }
    let (quote, s) :=
      if startsBlankLine first || Rule.starts first .indented || Rule.starts first .fence then
        let (lines, rest) := spanLines isQuoteLine s.rest.length s.rest
        (({ lines := first ++ dropQuoteMarks lines } : QuoteState), { s with rest })
      else quoteLines ctx fuel { lines := first } s
    let (children, s) := ctx.nested Rule.common (replaceTabs quote.lines) quote.unmarkedFromEnd s
    let count := if quote.ended then s.blocks.length - 1 else s.blocks.length
    some (s.insertAt count (.quote children))

/-- Reads the lines of a quote after the first. -/
def quoteLines (ctx : BlockContext) : Nat → QuoteState → BlockState → QuoteState × BlockState
  | 0, quote, s => (quote, s)
  | fuel + 1, quote, s =>
    if s.rest.isEmpty then (quote, s)
    else
      let (lines, rest) := spanLines isQuoteLine s.rest.length s.rest
      if !lines.isEmpty then
        quoteLines ctx fuel (quote.addMarked lines) { s with rest }
      else if quote.afterBlank then (quote, s)
      else
        let ended := (quoteEnds.find? (Rule.interrupts 3 s.rest)).bind fun rule =>
          readRule ctx fuel rule s
        match ended with
        | some s => ({ quote with ended := true }, s)
        | none => quoteLines ctx fuel (quote.addUnmarked s.rest) { s with rest := afterLine s.rest }

/-- Reads a list. One that begins with an empty item or not with the number one does not end a
paragraph. -/
def readList (ctx : BlockContext) : Nat → BlockState → Option BlockState
  | 0, _ => none
  | fuel + 1, s => do
    let mark ← itemMark? 3 isListMark s.rest
    let bullet ← mark.mark.getLast?
    let ordered := 1 < mark.mark.length
    let number := Text.numeral mark.mark.dropLast
    let start := if ordered && number != 1 then some number else none
    let continued :=
      if Text.isAllBlank mark.text || start.isSome then s.continueParagraph? else none
    match continued with
    | some s => some s
    | none =>
      let s := { s with rest := afterLine s.rest }
      let (list, s) := readItems ctx fuel mark { bullet } s
      some (s.insertAt (list.position.getD s.blocks.length)
        (.list ordered start list.tight list.items.reverse))

/-- Reads an item behind its mark, and the items after it. -/
def readItems (ctx : BlockContext) :
    Nat → ItemMark → ListState → BlockState → ListState × BlockState
  | 0, _, list, s => (list, s)
  | fuel + 1, mark, list, s =>
    let (text, column) := itemStart mark
    let item : ItemState :=
      { column
        limit := min (mark.indent + mark.mark.length) 3
        startsWithText := !text.isEmpty }
    let ended := itemLines ctx fuel item list s
    let content := dropBlankEnd (text ++ dropItemIndent column ended.lines)
    let (children, s) := ctx.nested Rule.common content [] ended.state
    let list :=
      { ended.list with
        tight := ended.list.tight && !isLoose children
        items := .item children :: ended.list.items }
    match ended.next with
    | some next => readItems ctx fuel next list s
    | none => (list, s)

/-- Reads the lines of an item. -/
def itemLines (ctx : BlockContext) : Nat → ItemState → ListState → BlockState → ItemEnd
  | 0, item, list, s => { lines := item.lines, list, state := s }
  | fuel + 1, item, list, s =>
    let stop : ItemEnd := { lines := item.lines, list, state := s }
    let line := widenTabs 4 (firstLineKept s.rest)
    let goOn (_ : Unit) : ItemEnd :=
      itemLines ctx fuel { item with lines := item.lines ++ line, afterBlank := false } list
        { s with rest := afterLine s.rest }
    if s.rest.isEmpty then stop
    else if startsBlankLine s.rest then
      itemLines ctx fuel { item with lines := item.lines ++ ['\n'], afterBlank := true } list
        { s with rest := afterLine s.rest }
    else if item.column ≤ indentOf line then
      if item.afterBlank && !item.startsWithText && Text.isAllBlank item.lines then stop
      else goOn ()
    else
      let isBreak := Rule.interrupts item.limit s.rest .thematicBreak
      let mark := if isBreak then none else itemMark? item.limit (isItemMark list.bullet) s.rest
      match mark with
      | some next =>
        { lines := item.lines
          list := { list with tight := list.tight && !item.afterBlank }
          state := { s with rest := afterLine s.rest }
          next := some next }
      | none =>
        let rule :=
          if isBreak then some Rule.thematicBreak
          else (itemEnds ctx.options).find? (Rule.interrupts item.limit s.rest)
        if rule == some .list then stop
        else
          match rule.bind fun rule => readRule ctx fuel rule s with
          | some after =>
            { lines := item.lines
              list := { list with position := some s.blocks.length }
              state := after }
          | none => if item.afterBlank then stop else goOn ()

end

/-- Reads the blocks of a text by the given rules, for a text with at most `fuel` characters. -/
def readLevel (ctx : BlockContext) (rules : List Rule) : Nat → BlockState → BlockState
  | 0, s => s
  | fuel + 1, s =>
    if s.rest.isEmpty then s
    else
      let (skipped, rule) := nextStart rules true s.rest
      let found := s.rest.drop skipped.length
      let s := if skipped.isEmpty then s else s.addText skipped found
      match rule with
      | none => s
      | some rule =>
        match readRule ctx (4 * found.length + 8) rule s with
        | some s => readLevel ctx rules fuel s
        | none => readLevel ctx rules fuel s.addLine

/-- Reads the blocks of a text with at most `levels` further levels inside. -/
def readBlocks (options : MarkdownOptions) :
    (levels level : Nat) → List Rule → List Char → List Nat → Labels → List Block × Labels
  | 0, _, _, text, _, labels => ([.paragraph text], labels)
  | levels + 1, level, rules, text, unmarked, labels =>
    let ctx : BlockContext :=
      { options, level, readNested := readBlocks options levels (level + 1) }
    let s := readLevel ctx rules (text.length + 1) { rest := text, unmarked, labels }
    (s.blocks.reverse, s.labels)

/-- Reads the blocks of a text at the given level, by all rules. -/
def blocksOf (options : MarkdownOptions) (level : Nat) (text : List Char) (labels : Labels) :
    List Block × Labels :=
  readBlocks options (text.length + 1) level (Rule.all options) text [] labels

end TypstPress.Markdown
