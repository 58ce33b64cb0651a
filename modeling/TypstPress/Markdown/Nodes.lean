import TypstPress.Log
import TypstPress.Markdown.Link
import TypstPress.Markdown.Token
import TypstPress.Text.Lines
import TypstPress.Text.Quoted

/-!
# From tokens to nodes

Tokens are read as blocks or as inlines, depending on where they stand. A token that means nothing
where it stands adds no node, and what stands next to it is not affected; inlines that are left out
are reported. Footnotes add a node for each of them, all other tokens at most one.

What is reported is told by functions of their own (`Token.blockLog`, `Token.inlineLog`), which
follow the tokens in the same order.
-/

namespace TypstPress.Markdown

/-- Who speaks in records of the reader. -/
def readerName : String := "md2typst.parsers.markdown"

/-- The identifier of a key. -/
def identifierOf (key : String) : String := Text.lowerString key

/-- The level of a heading; anything but one to six counts as one. -/
def headingLevel (level : Int) : Nat := if 1 ≤ level ∧ level ≤ 6 then level.toNat else 1

/-- A block of code with its info text: the first word is the language, the rest is kept as
metadata. -/
def codeNode (content : String) (info : Option String) : Node :=
  match Text.firstWord (Text.trim (info.getD "").toList) with
  | none => .ofLeaf (.codeBlock content none)
  | some (language, rest) =>
    .leaf (.codeBlock content (some (String.ofList language)))
      (rest.toList.map fun rest => (.text "info_attrs", .text (String.ofList rest)))

/-- The attributes of a directive: its options, with the title as caption unless they give one. -/
def directiveAttributes (title : String) (options : Attributes) : Attributes :=
  if title.isEmpty || options.hasKey "caption" then options
  else options.put "caption" (some title)

/-- The text of tokens without their markup; line breaks count as spaces. -/
def Token.plainText : Token → String
  | .mk kind raw nested children =>
    if nested then plainTexts children
    else if kind == .softbreak || kind == .linebreak then " "
    else raw
where
  /-- The text of several tokens. -/
  plainTexts : List Token → String
    | [] => ""
    | t :: ts => t.plainText ++ plainTexts ts

/-- The form of a reference: its label is the text between the first brackets, or stands between
further brackets. -/
def referenceForm (label : Option String) (children : List Token) : ReferenceForm :=
  let text := String.join ((children.filter Token.isText).map Token.raw)
  if label == some text then .shortcut else .full

/-- The text of a directive that is not known. -/
def unknownText (raw : String) : String := Text.trimString raw

/-- The node of an image. -/
def imageNode (target : Target) (children : List Token) : Node :=
  let altText := Token.plainText.plainTexts children
  match target with
  | .url url title => .ofLeaf (.image url altText title [])
  | .reference key label =>
    .ofLeaf (.imageReference (identifierOf key) label (referenceForm label children) altText [])

/-- The node of a link around its content. -/
def linkNode (target : Target) (children : List Token) (content : List Node) : Node :=
  match target with
  | .url url title => .ofBranch (.link url title) content
  | .reference key label =>
    .ofBranch (.linkReference (identifierOf key) label (referenceForm label children)) content

/-- The alignments of the cells of a row. -/
def cellAlignments (cells : List Token) : List (Option String) :=
  cells.filterMap fun t =>
    match t.kind with
    | .tableCell alignment => some alignment
    | _ => none

/-- The alignments of a table: those of its last head. -/
def tableAlignments (parts : List Token) : List (Option String) :=
  match (parts.filter fun t => t.kind == .tableHead).getLast? with
  | some head => cellAlignments head.children
  | none => []

mutual

/-- The nodes of a token that is read as an inline: one or none. -/
def Token.inlineNodes : Token → List Node
  | .mk kind raw _ children =>
    match kind with
    | .text => [.ofText raw]
    | .strong => [.ofBranch .strong (inlineNodesAll children)]
    | .emphasis => [.ofBranch .emphasis (inlineNodesAll children)]
    | .strikethrough => [.ofBranch .strikethrough (inlineNodesAll children)]
    | .codespan => [.ofLeaf (.code raw)]
    | .link target => [linkNode target children (inlineNodesAll children)]
    | .image target => [imageNode target children]
    | .linebreak => [.ofLeaf (.lineBreak false)]
    | .softbreak => [.ofLeaf (.lineBreak true)]
    | .inlineHtml => [.ofLeaf (.htmlInline raw)]
    | .inlineMath => [.ofLeaf (.mathInline raw)]
    | .blockMath => [.ofLeaf (.mathBlock raw)]
    | .footnoteRef => [.ofLeaf (.footnoteReference (identifierOf raw))]
    | _ => []

/-- The nodes of tokens that are read as inlines. -/
def inlineNodesAll : List Token → List Node
  | [] => []
  | t :: ts => t.inlineNodes ++ inlineNodesAll ts

end

/-- The cells of a row. -/
def cellNodes : List Token → List Node
  | [] => []
  | .mk (.tableCell alignment) _ _ children :: ts =>
    .ofBranch (.tableCell 1 1 false alignment) (inlineNodesAll children) :: cellNodes ts
  | _ :: ts => cellNodes ts

/-- A row of a table for each token. -/
def rowNodes (rows : List Token) : List Node :=
  rows.map fun row => .ofBranch (.tableRow false) (cellNodes row.children)

/-- The rows of the bodies of a table. -/
def bodyNodes (parts : List Token) : List Node :=
  parts.flatMap fun part => if part.kind == .tableBody then rowNodes part.children else []

/-- The header row of a table, from its last head. -/
def headNode? (parts : List Token) : Option Node :=
  ((parts.filter fun t => t.kind == .tableHead).getLast?).map fun head =>
    .ofBranch (.tableRow true) (cellNodes head.children)

/-- The node of a table. -/
def tableNode (parts : List Token) : Node :=
  let head := headNode? parts
  .ofBranch (.table head.isSome (tableAlignments parts)) (head.toList ++ bodyNodes parts)

mutual

/-- The nodes of a token that is read as a block. -/
def Token.blockNodes : Token → List Node
  | .mk kind raw _ children =>
    match kind with
    | .heading level => [.ofBranch (.heading (headingLevel level)) (inlineNodesAll children)]
    | .paragraph | .blockText => [.ofBranch .paragraph (inlineNodesAll children)]
    | .blockCode info => [codeNode raw info]
    | .blockQuote => [.ofBranch .blockQuote (blockNodesAll children)]
    | .list ordered start tight => [.ofBranch (.list ordered start tight) (itemNodes children)]
    | .table => [tableNode children]
    | .thematicBreak => [.ofLeaf .thematicBreak]
    | .blockHtml => [.ofLeaf (.htmlBlock raw)]
    | .blockMath => [.ofLeaf (.mathBlock raw)]
    | .footnotes => noteNodes children
    | .containerDirective name title options =>
      [.ofBranch (.containerDirective name (directiveAttributes title options))
        (blockNodesAll children)]
    | .leafDirective name options =>
      [.ofBranch (.leafDirective name options) (inlineNodesAll children)]
    | .typstDirective => [.ofTypst raw]
    | .blockError => [.ofBranch .paragraph [.ofText (unknownText raw)]]
    | _ => []

/-- The nodes of tokens that are read as blocks. -/
def blockNodesAll : List Token → List Node
  | [] => []
  | t :: ts => t.blockNodes ++ blockNodesAll ts

/-- The items of a list. -/
def itemNodes : List Token → List Node
  | [] => []
  | .mk kind _ _ children :: ts =>
    if kind == .listItem then .ofBranch .listItem (blockNodesAll children) :: itemNodes ts
    else itemNodes ts

/-- The footnotes of a document, one for each token. -/
def noteNodes : List Token → List Node
  | [] => []
  | .mk kind _ _ children :: ts =>
    let key :=
      match kind with
      | .footnoteItem key => key
      | _ => ""
    .ofBranch (.footnoteDefinition (identifierOf key)) (blockNodesAll children) :: noteNodes ts

end

/-- The record for a token that no inline is made of. -/
def skippedRecord (kind : TokenKind) : Record :=
  ⟨.debug, readerName, "Skipping unsupported inline token: " ++ kind.name⟩

/-- The record for a directive that is not known. -/
def unknownRecord (raw : String) : Record :=
  let first := (Text.lines (unknownText raw).toList).headD []
  ⟨.warning, readerName, "Unknown directive kept as text: " ++ Text.quoted (String.ofList first)⟩

mutual

/-- The records of a token that is read as an inline. -/
def Token.inlineLog : Token → Log
  | .mk kind _ _ children =>
    match kind with
    | .strong | .emphasis | .strikethrough | .link _ => inlineLogAll children
    | .text | .codespan | .image _ | .linebreak | .softbreak | .inlineHtml | .inlineMath
    | .blockMath | .footnoteRef => []
    | kind => [skippedRecord kind]

/-- The records of tokens that are read as inlines. -/
def inlineLogAll : List Token → Log
  | [] => []
  | t :: ts => t.inlineLog ++ inlineLogAll ts

end

/-- The records of the cells of a row. -/
def cellLog (cells : List Token) : Log :=
  cells.flatMap fun t =>
    match t.kind with
    | .tableCell _ => inlineLogAll t.children
    | _ => []

/-- The records of a table. -/
def tableLog (parts : List Token) : Log :=
  parts.flatMap fun part =>
    match part.kind with
    | .tableHead => cellLog part.children
    | .tableBody => part.children.flatMap fun row => cellLog row.children
    | _ => []

mutual

/-- The records of a token that is read as a block. -/
def Token.blockLog : Token → Log
  | .mk kind raw _ children =>
    match kind with
    | .heading _ | .paragraph | .blockText | .leafDirective .. => inlineLogAll children
    | .blockQuote | .containerDirective .. => blockLogAll children
    | .list .. => itemLog children
    | .table => tableLog children
    | .footnotes => noteLog children
    | .blockError => [unknownRecord raw]
    | _ => []

/-- The records of tokens that are read as blocks. -/
def blockLogAll : List Token → Log
  | [] => []
  | t :: ts => t.blockLog ++ blockLogAll ts

/-- The records of the items of a list. -/
def itemLog : List Token → Log
  | [] => []
  | .mk kind _ _ children :: ts =>
    if kind == .listItem then blockLogAll children ++ itemLog ts else itemLog ts

/-- The records of footnotes. -/
def noteLog : List Token → Log
  | [] => []
  | .mk _ _ _ children :: ts => blockLogAll children ++ noteLog ts

end

/-- The node of a link definition. -/
def definitionNode (entry : String × LinkDefinition) : Node :=
  .ofLeaf (.definition (identifierOf entry.1) entry.2.url entry.2.title entry.2.label)

/-- The nodes of all link definitions. -/
def definitionNodes (table : LinkTable) : List Node := table.map definitionNode

/-- The children of the document that tokens and definitions make up. -/
def documentNodes (tokens : List Token) (table : LinkTable) : List Node :=
  blockNodesAll tokens ++ definitionNodes table

end TypstPress.Markdown
