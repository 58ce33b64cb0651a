import TypstPress.Document.Node
import TypstPress.Markdown.Link
import TypstPress.Markdown.Table
import TypstPress.Options.Markdown

/-!
# Blocks

A Markdown text is first cut into blocks. Texts inside blocks are kept as they are written, because
whether a reference in them refers to anything is only known when all definitions have been read.

Blocks are read by rules, each of which recognises a block by its first line. The first rule that
recognises a line decides; what it then cannot read is text of a paragraph.
-/

namespace TypstPress.Markdown

/-- A block with the texts inside it unread. -/
inductive Block where
  | blank
  | thematicBreak
  | heading (level : Nat) (text : List Char)
  | paragraph (text : List Char)
  | code (content : List Char) (info : Option (List Char))
  | html (content : List Char)
  | math (content : List Char)
  | quote (children : List Block)
  | list (ordered : Bool) (start : Option Nat) (tight : Bool) (items : List Block)
  | item (children : List Block)
  | table (content : TableText)
  | container (name title : String) (options : Attributes) (children : List Block)
  | leaf (name title : String) (options : Attributes)
  | typst (title : String) (options : Attributes) (content : List Char)
  | unknownDirective (source : List Char)
deriving Inhabited

/-- What labels are defined as: links, and the texts of footnotes by key. -/
structure Labels where
  links : LinkTable := []
  notes : List (String × List Char) := []
deriving Inhabited

/-- How a block is recognised. -/
inductive Rule where
  | directive
  | fence
  | indented
  | atxHeading
  | setextHeading
  | thematicBreak
  | quote
  | math
  | list
  | footnote
  | link
  | html
  | blank
  | enclosedTable
  | openTable
deriving DecidableEq, Repr

namespace Rule

/-- The rules that hold everywhere. -/
def common : List Rule :=
  [.fence, .indented, .atxHeading, .setextHeading, .thematicBreak, .quote, .list, .link, .html,
    .blank]

/-- The rule for directives, if there are any. -/
def directives (o : MarkdownOptions) : List Rule :=
  if o.directives && !o.directiveNames.isEmpty then [.directive] else []

/-- Whether blocks under this rule have a text of their own with blocks in it. -/
def isContainer : Rule → Bool
  | .directive | .quote | .list => true
  | _ => false

/-- The rules outside quotes and lists, in order. -/
def all (o : MarkdownOptions) : List Rule :=
  directives o ++
    [.fence, .indented, .atxHeading, .setextHeading, .thematicBreak, .quote] ++
    (if o.math then [.math] else []) ++ [.list] ++
    (if o.footnotes then [.footnote] else []) ++ [.link, .html, .blank] ++
    (if o.tables then [.enclosedTable, .openTable] else [])

end Rule

/-- How far reading has come. -/
structure BlockState where
  /-- The text still to read. -/
  rest : List Char
  /-- The lines of a quote that have no mark, by the number of line feeds from there to the end of
  the text. -/
  unmarked : List Nat := []
  /-- The blocks read so far, the last one first. -/
  blocks : List Block := []
  labels : Labels := {}
deriving Inhabited

namespace BlockState

/-- Whether the next line stands in a quote without a mark; it cannot make a heading of the
paragraph before it. -/
def isUnmarked (s : BlockState) : Bool := s.unmarked.contains (s.rest.count '\n')

/-- The state after reading one more block. -/
def push (s : BlockState) (b : Block) (rest : List Char) : BlockState :=
  { s with rest, blocks := b :: s.blocks }

/-- The state after text of a paragraph, which continues a paragraph that comes right before. -/
def addText (s : BlockState) (text rest : List Char) : BlockState :=
  match s.blocks with
  | .paragraph before :: blocks =>
    { s with rest, blocks := .paragraph (before ++ text) :: blocks }
  | blocks => { s with rest, blocks := .paragraph text :: blocks }

/-- Takes the next line as text of a paragraph. -/
def addLine (s : BlockState) : BlockState := s.addText (firstLineKept s.rest) (afterLine s.rest)

/-- Takes the next line as the continuation of the paragraph right before it, if there is one. -/
def continueParagraph? (s : BlockState) : Option BlockState :=
  match s.blocks with
  | .paragraph _ :: _ => some s.addLine
  | _ => none

/-- Puts a block where only the first `count` blocks come before it. -/
def insertAt (s : BlockState) (count : Nat) (b : Block) : BlockState :=
  let later := s.blocks.length - count
  { s with blocks := s.blocks.take later ++ b :: s.blocks.drop later }

end BlockState

end TypstPress.Markdown
