import TypstPress.Markdown.Block.Container
import TypstPress.Markdown.Inline.Read
import TypstPress.Text.Lines

/-!
# Reading Markdown

Blocks are read first, then the texts inside them, when all definitions are known. The footnotes
that the body cites follow at the end in the order in which they are first cited. Their texts are
read after the body: what they define holds for footnotes only, and what they cite is not added.
-/

namespace TypstPress.Markdown

/-- What reading gives: the tokens and the link definitions. -/
structure Reading where
  tokens : List Token
  links : LinkTable

/-- The row of a table, with a token for each cell. -/
def rowTokens (ctx : InlineContext) :
    List (Option Alignment) → List (List Char) → List String → List Token × List String
  | alignment :: alignments, cell :: cells, cited =>
    let (children, cited) := inlinesOf ctx cell cited
    let (row, cited) := rowTokens ctx alignments cells cited
    (.branch (.tableCell (alignment.map Alignment.word)) children :: row, cited)
  | _, _, cited => ([], cited)

/-- The rows of a table. -/
def bodyTokens (ctx : InlineContext) (alignments : List (Option Alignment)) :
    List (List (List Char)) → List String → List Token × List String
  | [], cited => ([], cited)
  | row :: rows, cited =>
    let (cells, cited) := rowTokens ctx alignments row cited
    let (body, cited) := bodyTokens ctx alignments rows cited
    (.branch .tableRow cells :: body, cited)

/-- The token of a table. -/
def tableToken (ctx : InlineContext) (table : TableText) (cited : List String) :
    Token × List String :=
  let (head, cited) := rowTokens ctx table.alignments table.head cited
  let (body, cited) := bodyTokens ctx table.alignments table.rows cited
  (.branch .table [.branch .tableHead head, .branch .tableBody body], cited)

/-- A token around the tokens of a text. -/
def textToken (ctx : InlineContext) (kind : TokenKind) (text : List Char) (cited : List String) :
    Token × List String :=
  let (children, cited) := inlinesOf ctx text cited
  (.branch kind children, cited)

mutual

/-- The token of a block, if it has one, and the footnotes cited up to its end. -/
def blockToken (ctx : InlineContext) : Block → List String → Option Token × List String
  | .blank, cited => (none, cited)
  | .thematicBreak, cited => (some (.flat .thematicBreak ""), cited)
  | .heading level text, cited =>
    let (t, cited) := textToken ctx (.heading level) text cited
    (some t, cited)
  | .paragraph text, cited =>
    let (t, cited) := textToken ctx .paragraph text cited
    (some t, cited)
  | .code content info, cited =>
    (some (.flat (.blockCode (info.map String.ofList)) (String.ofList content)), cited)
  | .html content, cited => (some (.flat .blockHtml (String.ofList content)), cited)
  | .math content, cited => (some (.flat .blockMath (String.ofList content)), cited)
  | .quote children, cited =>
    let (children, cited) := blockTokens ctx children cited
    (some (.branch .blockQuote children), cited)
  | .list ordered start tight items, cited =>
    let (items, cited) := blockTokens ctx items cited
    (some (.branch (.list ordered (start.map Int.ofNat) tight) items), cited)
  | .item children, cited =>
    let (children, cited) := blockTokens ctx children cited
    (some (.branch .listItem children), cited)
  | .table table, cited =>
    let (t, cited) := tableToken ctx table cited
    (some t, cited)
  | .container name title options children, cited =>
    let (children, cited) := blockTokens ctx children cited
    (some (.branch (.containerDirective name title options) children), cited)
  | .leaf name title options, cited =>
    if title.isEmpty then (some (.flat (.leafDirective name options) ""), cited)
    else
      let (t, cited) := textToken ctx (.leafDirective name options) title.toList cited
      (some t, cited)
  | .typst _ _ content, cited => (some (.flat .typstDirective (String.ofList content)), cited)
  | .unknownDirective source, cited =>
    (some (.flat .blockError (String.ofList source)), cited)

/-- The tokens of blocks, and the footnotes cited up to their end. -/
def blockTokens (ctx : InlineContext) : List Block → List String → List Token × List String
  | [], cited => ([], cited)
  | b :: bs, cited =>
    let (t, cited) := blockToken ctx b cited
    let (ts, cited) := blockTokens ctx bs cited
    (t.toList ++ ts, cited)

end

/-- The text as it is read: with line feeds as line ends, one of them at its end. -/
def preparedText (text : String) : List Char :=
  let cs := Text.normalizeLines text.toList
  if cs.getLast? == some '\n' then cs else cs ++ ['\n']

/-- The first line after the first that is not empty, or the last line; nothing for one line. -/
def secondLine? (text : List Char) : Option (List Char) :=
  let later := (Text.lines text).drop 1
  (later.find? (!·.isEmpty)).or later.getLast?

/-- The text without the spaces at the start of each line that has at least `count` of them. -/
def dropDeepIndent (count : Nat) (cs : List Char) : List Char :=
  mapLines (fun line =>
    if count ≤ indentOf line then line.drop (indentOf line) else line) cs

/-- The blocks of a footnote. A text of more than one line is read as blocks. -/
def noteBlocks (options : MarkdownOptions) (text : List Char) (labels : Labels) :
    List Block × Labels :=
  match (secondLine? text).filter (!·.isEmpty) with
  | some line =>
    let count := (line.takeWhile Text.isBlank).length
    blocksOf options 1 (Text.trim (dropDeepIndent count text) ++ ['\n']) labels
  | none => ([.paragraph (Text.trim text)], labels)

/-- The blocks of the footnotes with the given keys, and what is defined after them. -/
def allNoteBlocks (options : MarkdownOptions) :
    List String → Labels → List (String × List Block) × Labels
  | [], labels => ([], labels)
  | key :: keys, labels =>
    let (blocks, labels) := noteBlocks options ((labels.notes.lookup key).getD []) labels
    let (notes, labels) := allNoteBlocks options keys labels
    ((key, blocks) :: notes, labels)

/-- The tokens of the footnotes. -/
def noteTokens (ctx : InlineContext) : List (String × List Block) → List String → List Token
  | [], _ => []
  | (key, blocks) :: notes, cited =>
    let (children, cited) := blockTokens ctx blocks cited
    .branch (.footnoteItem key) children :: noteTokens ctx notes cited

/-- What is known about labels while inlines are read. -/
def inlineContext (options : MarkdownOptions) (labels : Labels) : InlineContext :=
  { options, links := labels.links, notes := labels.notes.map (·.1) }

/-- Reads a text. -/
def read (options : MarkdownOptions) (text : String) : Reading :=
  let (blocks, labels) := blocksOf options 0 (preparedText text) {}
  let (tokens, cited) := blockTokens (inlineContext options labels) blocks []
  if cited.isEmpty then { tokens, links := labels.links }
  else
    let (notes, labels) := allNoteBlocks options cited labels
    let items := noteTokens (inlineContext options labels) notes cited
    { tokens := tokens ++ [.branch .footnotes items], links := labels.links }

end TypstPress.Markdown
