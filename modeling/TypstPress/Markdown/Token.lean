import TypstPress.Document.Node

/-!
# Tokens

Reading Markdown gives a tree of tokens, from which the document is built. A token has a kind and
a raw text, and it may have children. Any token may stand anywhere: tokens also come from callers,
and what a token means where it stands is decided when the document is built.
-/

namespace TypstPress.Markdown

/-- What a link or an image points at. -/
inductive Target where
  | url (url : String) (title : Option String)
  /-- A definition, by its key, with the label as it was written. -/
  | reference (key : String) (label : Option String)
deriving DecidableEq, Repr, Inhabited

/-- The kind of a token. -/
inductive TokenKind where
  | heading (level : Int)
  | paragraph
  /-- A paragraph in a tight list. -/
  | blockText
  | blockCode (info : Option String)
  | blockQuote
  | list (ordered : Bool) (start : Option Int) (tight : Bool)
  | listItem
  | table
  | tableHead
  | tableBody
  | tableRow
  | tableCell (alignment : Option String)
  | thematicBreak
  | blockHtml
  /-- A formula set apart, as a block or within a text. -/
  | blockMath
  | footnotes
  | footnoteItem (key : String)
  | containerDirective (name title : String) (options : Attributes)
  | leafDirective (name : String) (options : Attributes)
  | typstDirective
  /-- A directive that is not known. -/
  | blockError
  | text
  | strong
  | emphasis
  | codespan
  | link (target : Target)
  | image (target : Target)
  | linebreak
  | softbreak
  | strikethrough
  | inlineHtml
  | inlineMath
  | footnoteRef
  /-- Any other kind, by name. -/
  | other (name : String)
deriving DecidableEq, Repr, Inhabited

/-- The name of a kind, as records show it. -/
def TokenKind.name : TokenKind → String
  | .heading _ => "heading"
  | .paragraph => "paragraph"
  | .blockText => "block_text"
  | .blockCode _ => "block_code"
  | .blockQuote => "block_quote"
  | .list .. => "list"
  | .listItem => "list_item"
  | .table => "table"
  | .tableHead => "table_head"
  | .tableBody => "table_body"
  | .tableRow => "table_row"
  | .tableCell _ => "table_cell"
  | .thematicBreak => "thematic_break"
  | .blockHtml => "block_html"
  | .blockMath => "block_math"
  | .footnotes => "footnotes"
  | .footnoteItem _ => "footnote_item"
  | .containerDirective .. => "container_directive"
  | .leafDirective .. => "leaf_directive"
  | .typstDirective => "typst_directive"
  | .blockError => "block_error"
  | .text => "text"
  | .strong => "strong"
  | .emphasis => "emphasis"
  | .codespan => "codespan"
  | .link _ => "link"
  | .image _ => "image"
  | .linebreak => "linebreak"
  | .softbreak => "softbreak"
  | .strikethrough => "strikethrough"
  | .inlineHtml => "inline_html"
  | .inlineMath => "inline_math"
  | .footnoteRef => "footnote_ref"
  | .other name => name

/-- A token. One that is not nested has no list of children at all, not even an empty one. -/
inductive Token where
  | mk (kind : TokenKind) (raw : String) (nested : Bool) (children : List Token)
deriving Inhabited

namespace Token

/-- The kind of a token. -/
def kind : Token → TokenKind
  | .mk kind _ _ _ => kind

/-- The raw text of a token. -/
def raw : Token → String
  | .mk _ raw _ _ => raw

/-- The children of a token. -/
def children : Token → List Token
  | .mk _ _ _ children => children

/-- A token with a raw text and no children. -/
def flat (kind : TokenKind) (raw : String) : Token := .mk kind raw false []

/-- A token with children and no text. -/
def branch (kind : TokenKind) (children : List Token) : Token := .mk kind "" true children

/-- A token of text. -/
def ofText (text : List Char) : Token := flat .text (String.ofList text)

/-- Whether the token is text. -/
def isText (t : Token) : Bool := t.kind == .text

mutual

/-- How many tokens with children stand inside each other. -/
def depth : Token → Nat
  | .mk _ _ nested children => if nested then depthOfAll children + 1 else 0

/-- The largest depth of some tokens. -/
def depthOfAll : List Token → Nat
  | [] => 0
  | t :: ts => max t.depth (depthOfAll ts)

end

end Token

end TypstPress.Markdown
