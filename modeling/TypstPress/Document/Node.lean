import TypstPress.Document.Url
import TypstPress.Metadata

/-!
# The document tree

A node is a leaf or a branch. What a leaf holds is its `Leaf`; a branch has a list of children and
holds the rest in its `Branch`. Any kind of node may stand in any list of children: which trees
are sensible is a property of trees, not a matter of their type, because trees are also built and
rewritten by callers.

A table keeps its rows as children. When `headed` is set the first of them is the header row, so
that `children` always lists the rows in the order in which they are set.

Cross references point at their definitions by identifier only.
-/

namespace TypstPress

/-- Attributes of images and directives in the order of their first appearance. A key without a
value is kept without one. -/
abbrev Attributes := List (String × Option String)

namespace Attributes

/-- The attributes after giving a value to a key. A known key keeps its place. -/
def put (key : String) (value : Option String) : Attributes → Attributes
  | [] => [(key, value)]
  | (k, v) :: rest =>
    if k == key then (k, value) :: rest else (k, v) :: put key value rest

/-- The attributes after putting all of `news` in order. -/
def update (attributes news : Attributes) : Attributes :=
  news.foldl (fun acc entry => acc.put entry.1 entry.2) attributes

/-- The value of a key; nothing when the key is missing or has no value. -/
def value? (attributes : Attributes) (key : String) : Option String :=
  (attributes.lookup key).join

/-- Whether the key is present, with or without a value. -/
def hasKey (attributes : Attributes) (key : String) : Bool :=
  attributes.any (·.1 == key)

end Attributes

/-- The syntax by which a reference names its definition. -/
inductive ReferenceForm where
  | shortcut
  | collapsed
  | full
deriving DecidableEq, Repr, Inhabited

/-- What a node without children holds. -/
inductive Leaf where
  | codeBlock (content : String) (language : Option String)
  | thematicBreak
  | htmlBlock (content : String)
  | mathBlock (content : String)
  | definition (identifier : String) (url : Url) (title label : Option String)
  | text (content : String)
  | code (content : String)
  | image (url : Url) (altText : String) (title : Option String) (attributes : Attributes)
  | imageReference (identifier : String) (label : Option String) (form : ReferenceForm)
      (altText : String) (attributes : Attributes)
  | lineBreak (soft : Bool)
  | htmlInline (content : String)
  | mathInline (content : String)
  | footnoteReference (identifier : String)
  | typstContent (content : String)
deriving DecidableEq, Repr, Inhabited

/-- What a node with children holds besides them. -/
inductive Branch where
  | document
  | heading (level : Nat)
  | paragraph
  | blockQuote
  | list (ordered : Bool) (start : Option Int) (tight : Bool)
  | listItem
  | table (headed : Bool) (alignments : List (Option String))
  | tableRow (isHeader : Bool)
  | tableCell (colspan rowspan : Nat) (suppressed : Bool) (alignment : Option String)
  | footnoteDefinition (identifier : String)
  | containerDirective (name : String) (attributes : Attributes)
  | leafDirective (name : String) (attributes : Attributes)
  | emphasis
  | strong
  | strikethrough
  | link (url : Url) (title : Option String)
  | linkReference (identifier : String) (label : Option String) (form : ReferenceForm)
  | textDirective (name : String) (attributes : Attributes)
  | typstMarkup
deriving DecidableEq, Repr, Inhabited

/-- A node of the document tree. -/
inductive Node where
  | leaf (kind : Leaf) (metadata : Metadata)
  | branch (kind : Branch) (children : List Node) (metadata : Metadata)
deriving Inhabited

/-- The kind of a node: what it holds apart from children and metadata. -/
inductive Kind where
  | leaf (kind : Leaf)
  | branch (kind : Branch)
deriving DecidableEq, Repr, Inhabited

/-- The name of a kind of leaf, as messages and serialised trees show it. -/
def Leaf.name : Leaf → String
  | .codeBlock .. => "CodeBlock"
  | .thematicBreak => "ThematicBreak"
  | .htmlBlock .. => "HTMLBlock"
  | .mathBlock .. => "MathBlock"
  | .definition .. => "Definition"
  | .text .. => "Text"
  | .code .. => "Code"
  | .image .. => "Image"
  | .imageReference .. => "ImageReference"
  | .lineBreak .. => "LineBreak"
  | .htmlInline .. => "HTMLInline"
  | .mathInline .. => "MathInline"
  | .footnoteReference .. => "FootnoteReference"
  | .typstContent .. => "TypstContent"

/-- The name of a kind of branch, as messages and serialised trees show it. -/
def Branch.name : Branch → String
  | .document => "Document"
  | .heading .. => "Heading"
  | .paragraph => "Paragraph"
  | .blockQuote => "BlockQuote"
  | .list .. => "List"
  | .listItem => "ListItem"
  | .table .. => "Table"
  | .tableRow .. => "TableRow"
  | .tableCell .. => "TableCell"
  | .footnoteDefinition .. => "FootnoteDefinition"
  | .containerDirective .. => "ContainerDirective"
  | .leafDirective .. => "LeafDirective"
  | .emphasis => "Emphasis"
  | .strong => "Strong"
  | .strikethrough => "Strikethrough"
  | .link .. => "Link"
  | .linkReference .. => "LinkReference"
  | .textDirective .. => "TextDirective"
  | .typstMarkup => "TypstMarkup"

namespace Node

/-- The kind of the node. -/
def kind : Node → Kind
  | .leaf k _ => .leaf k
  | .branch k _ _ => .branch k

/-- The name of the node's kind. -/
def kindName : Node → String
  | .leaf k _ => k.name
  | .branch k _ _ => k.name

/-- The children of the node in document order; a table's header row comes first. -/
def children : Node → List Node
  | .leaf _ _ => []
  | .branch _ cs _ => cs

/-- The metadata of the node. -/
def metadata : Node → Metadata
  | .leaf _ m => m
  | .branch _ _ m => m

/-- Whether the node is the root of a document. -/
def isDocument : Node → Bool
  | .branch .document _ _ => true
  | _ => false

/-- A leaf without metadata. -/
def ofLeaf (k : Leaf) : Node := .leaf k []

/-- A branch without metadata. -/
def ofBranch (k : Branch) (cs : List Node) : Node := .branch k cs []

/-- A text node. -/
def ofText (content : String) : Node := .ofLeaf (.text content)

/-- Typst source that is set as it stands. -/
def ofTypst (source : String) : Node := .ofBranch .typstMarkup [.ofLeaf (.typstContent source)]

end Node

/-- Whether the children of this kind of branch may be replaced as one list. Lists, tables and
their rows refuse, since their children are not free to choose. -/
def Branch.acceptsChildren : Branch → Bool
  | .list .. | .table .. | .tableRow .. => false
  | _ => true

/-- The node with other children, if its kind lets them be replaced. -/
def Node.withChildren? (node : Node) (cs : List Node) : Option Node :=
  match node with
  | .branch k _ m => if k.acceptsChildren then some (.branch k cs m) else none
  | .leaf _ _ => none

/-- Why a node cannot be built. -/
inductive BuildError where
  | headingLevel (level : Int)
  | cellSpans (colspan rowspan : Int)
deriving DecidableEq, Repr

/-- The text of the error. -/
def BuildError.message : BuildError → String
  | .headingLevel level => s!"Heading level must be 1-6, got {level}"
  | .cellSpans colspan rowspan =>
    s!"Cell spans must be at least 1, got colspan={colspan}, rowspan={rowspan}"

/-- A heading; its level is from one to six. -/
def Branch.heading? (level : Int) : Except BuildError Branch :=
  if 1 ≤ level ∧ level ≤ 6 then .ok (.heading level.toNat) else .error (.headingLevel level)

/-- A table cell; it spans at least one column and one row. -/
def Branch.tableCell? (colspan rowspan : Int) (suppressed : Bool) (alignment : Option String) :
    Except BuildError Branch :=
  if colspan < 1 ∨ rowspan < 1 then .error (.cellSpans colspan rowspan)
  else .ok (.tableCell colspan.toNat rowspan.toNat suppressed alignment)

end TypstPress
