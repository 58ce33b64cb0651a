import TypstPress.Typst.Asset
import TypstPress.Typst.Definitions
import TypstPress.Typst.Length
import TypstPress.Typst.Literal
import TypstPress.Options.Typst

/-!
# From nodes to fragments

Setting a tree happens in two steps. Here every node is turned into a row of fragments: pieces of
Typst source and, between them, what setting that source brings about (an image is used, a footnote
is referred to, a record is written). The fragments of a node depend on the collected definitions
and on nothing that was set before, and those of a list of children are those of the children one
after the other. What the fragments add up to is the matter of `TypstPress.Typst.Compile`.

All text is written as string literals; only `typstContent` and the attributes of an image, which
are checked to be lengths, reach the source as they are.
-/

namespace TypstPress.Typst

/-- Why a tree cannot be set. -/
inductive Defect where
  /-- The root is not a document. -/
  | notADocument (kindName : String)
  /-- A table row stands outside a table. -/
  | strayRow
  /-- A column's alignment is none of the three. -/
  | unknownAlignment (alignment : String)
  /-- A table holds something else than rows, or a row something else than cells. -/
  | notTabular (kindName part : String)
  /-- The url of an image has no UTF-8 form, so that the image has no asset id. -/
  | unencodableUrl (t : IllFormedText)
  /-- A document inside a footnote body would set that body over and over. -/
  | endless
deriving DecidableEq, Repr, Inhabited

/-- The failure that a defect is reported as. -/
def Defect.failure : Defect → Failure
  | .notADocument kindName =>
    .malformedTree ("Expected a Document root, got " ++ kindName) (some kindName) (some "typst")
  | .strayRow =>
    .malformedTree "TableRow nodes should be handled in Table nodes" (some "TableRow")
      (some "typst")
  | .unknownAlignment alignment =>
    .malformedTree ("Unknown table alignment: " ++ alignment) (some "Table") (some "typst")
  | .notTabular kindName part =>
    .fault (Fault.missingPart ("'" ++ kindName ++ "' object has no attribute '" ++ part ++ "'"))
  | .unencodableUrl t => .fault t.fault
  | .endless => .fault ⟨"RecursionError", "maximum recursion depth exceeded"⟩

/-- A step of setting a document. -/
inductive Fragment where
  /-- A piece of source. -/
  | source (s : String)
  /-- An image is used. -/
  | asset (url : String)
  /-- A defined footnote is referred to. -/
  | cite (identifier : String)
  /-- A record is written. -/
  | record (r : Record)
  /-- The bodies of the footnotes referred to so far are set. -/
  | noteBodies
  /-- Setting stops. -/
  | defect (d : Defect)
deriving DecidableEq, Repr, Inhabited

/-- What the fragments of a node depend on. -/
structure Setting where
  options : TypstOptions := {}
  definitions : Definitions := {}
deriving Inhabited

/-- The name under which the compiler writes records. -/
def speaker : String := "md2typst.renderers.typst"

/-- A string literal, with the sign that leads from markup into code. -/
def textLiteral (s : String) : List Fragment :=
  [.source "#\"", .source (escape s), .source "\""]

/-- The language name of a code block: `txt` when none is given, two names in their short form. -/
def codeLanguage : Option String → String
  | none => "txt"
  | some "" => "txt"
  | some "plain" => "txt"
  | some "markdown" => "md"
  | some other => other

/-- Raw text of a language. -/
def rawText (block : Bool) (language content : String) : List Fragment :=
  [.source ("#raw(block: " ++ (if block then "true" else "false") ++ ", lang: \"" ++
      escape language ++ "\", \""),
   .source (escape content), .source (if block then "\")\n" else "\")")]

/-- A formula. -/
def formula (block : Bool) (content : String) : List Fragment :=
  [.source ("#mi(block: " ++ (if block then "true" else "false") ++ ", \""),
   .source (escape content), .source (if block then "\")\n" else "\")")]

/-- The arguments of an image that come from its attributes, for the names that are passed on. A
value that is not a length is left out, with a warning. -/
def imageArguments (url : String) (attributes : Attributes) : List String → List Fragment
  | [] => []
  | name :: names =>
    let rest := imageArguments url attributes names
    match attributes.value? name with
    | none => rest
    | some value =>
      if isRelativeLength value then .source (", " ++ name ++ ": " ++ value) :: rest
      else
        .record ⟨.warning, speaker, "Ignoring image " ++ name ++ " " ++ Text.quoted value ++
          " for " ++ url ++ ": not a Typst relative length"⟩ :: rest

/-- An image under the asset id of its url. -/
def encodedImage (s : Setting) (url altText : String) (attributes : Attributes) : List Fragment :=
  [.source "#box(image(\"", .source (assetId url), .source "\""] ++
    imageArguments url attributes s.options.imageAttributes ++
    (if altText.isEmpty then []
     else [.source ", alt: \"", .source (escape altText), .source "\""]) ++
    [.source "))", .asset url,
     .record ⟨.debug, speaker, "Discovered asset " ++ assetId url ++ " for " ++ url⟩]

/-- An image. Its url is encoded before anything else. -/
def image (s : Setting) (url : Url) (altText : String) (attributes : Attributes) : List Fragment :=
  match url.encodable with
  | .ok url => encodedImage s url altText attributes
  | .error t => [.defect (.unencodableUrl t)]

/-- The end of a reference without a definition, which is set as the text it was written as. -/
def referenceEnd (form : ReferenceForm) (label : Option String) (identifier : String) : String :=
  let suffix := match form with
    | .shortcut => ""
    | .collapsed => "[]"
    | .full =>
      let shown := match label with
        | none | some "" => identifier
        | some l => l
      "[" ++ escape shown ++ "]"
  "#\"]" ++ suffix ++ "\""

/-- The label of a footnote body, inside a literal. -/
def noteLabel (s : Setting) (identifier : String) : String :=
  escape (s.options.footnoteLabelPrefix ++ identifier)

/-- The record of a reference whose definition is missing. -/
def missingDefinition (what identifier : String) : Fragment :=
  .record ⟨.debug, speaker, what ++ " " ++ Text.quoted identifier ++
    " has no definition, rendering as text"⟩

/-- The fragments of a leaf. -/
def leafFragments (s : Setting) : Leaf → List Fragment
  | .codeBlock content language => rawText true (codeLanguage language) content
  | .thematicBreak => [.source "#thematic-break\n"]
  | .htmlBlock content => rawText false "html" content
  | .mathBlock content => formula true content
  | .definition .. => []
  | .text content => textLiteral content
  | .code content => rawText false "txt" content
  | .image url altText _ attributes => image s url altText attributes
  | .imageReference identifier label form altText attributes =>
    match s.definitions.url? identifier with
    | some url => image s url altText attributes
    | none =>
      [missingDefinition "Image reference" identifier, .source "#\"![\"#\"",
       .source (escape altText), .source "\"", .source (referenceEnd form label identifier)]
  | .lineBreak _ => [.source "#\"\\n\""]
  | .htmlInline content => rawText false "html" content
  | .mathInline content => formula false content
  | .footnoteReference identifier =>
    if s.definitions.hasNote identifier then
      [.cite identifier, .source "#footnote(label(\"", .source (noteLabel s identifier),
       .source "\"))"]
    else
      [missingDefinition "Footnote" identifier, .source "#\"[^", .source (escape identifier),
       .source "]\""]
  | .typstContent content => [.source content]

/-- The alignments of a table's columns in Typst's words; the first that is unknown otherwise. -/
def columnAlignments : List (Option String) → Except String (List String)
  | [] => .ok []
  | alignment :: rest =>
    match alignment with
    | none | some "center" => (columnAlignments rest).map ("center + horizon" :: ·)
    | some "left" => (columnAlignments rest).map ("left + horizon" :: ·)
    | some "right" => (columnAlignments rest).map ("right + horizon" :: ·)
    | some other => .error other

/-- The alignment of each column of a table: as given, else as many columns as the first row has
cells. -/
def tableColumns (alignments : List (Option String)) (rows : List Node) :
    Except Defect (List (Option String)) :=
  match alignments, rows with
  | [], .branch (.tableRow _) cells _ :: _ => .ok (cells.map fun _ => none)
  | [], row :: _ => .error (.notTabular row.kindName "cells")
  | _, _ => .ok alignments

/-- The opening of a table with the given columns. -/
def tableOpening (alignments : List String) : List Fragment :=
  .source s!"#figure(table(columns: {alignments.length}, align: (" ::
    alignments.flatMap (fun alignment => [.source alignment, .source ", "]) ++ [.source "),\n"]

/-- The opening of a table cell. -/
def cellOpening (colspan rowspan : Nat) : List Fragment :=
  [.source "table.cell("] ++
    (if 1 < colspan then [.source s!"colspan: {colspan}, "] else []) ++
    (if 1 < rowspan then [.source s!"rowspan: {rowspan}, "] else []) ++ [.source ")["]

/-- The opening of a list. -/
def listOpening (ordered : Bool) (start : Option Int) : List Fragment :=
  if ordered then
    .source "#enum(" ::
      (match start with
        | some n => [.source s!"start: {n},"]
        | none => []) ++ [.source "\n"]
  else [.source "#list(", .source "\n"]

/-- The opening of a figure. -/
def figureOpening (attributes : Attributes) : List Fragment :=
  [.source "#figure("] ++
    (match attributes.value? "caption" with
      | none | some "" => []
      | some caption => [.source "caption: \"", .source (escape caption), .source "\", "]) ++
    [.source ")[\n"]

/-- The opening of a link. -/
def linkOpening (url : Url) : List Fragment :=
  [.source "#link(\"", .source (escape url.shown), .source "\", ["]

mutual

/-- The fragments of a tree. -/
def fragments (s : Setting) : Node → List Fragment
  | .leaf l _ => leafFragments s l
  | .branch .document cs _ =>
    fragmentsAll s cs ++
      [.source "\n", .source "#hide(place(top+left, [\n", .noteBodies, .source "]))\n"]
  | .branch (.heading level) cs _ =>
    .source s!"#heading(level: {level}, [" :: fragmentsAll s cs ++ [.source "])\n"]
  | .branch .paragraph cs _ => .source "#par[" :: fragmentsAll s cs ++ [.source "]\n"]
  | .branch .blockQuote cs _ =>
    .source "#quote(block: true)[\n" :: fragmentsAll s cs ++ [.source "]\n"]
  | .branch (.list ordered start _) cs _ =>
    listOpening ordered start ++ itemFragments s cs ++ [.source ")\n"]
  | .branch .listItem cs _ => unwrappedFragments s cs
  | .branch (.table _ alignments) rows _ =>
    match rows with
    | [] => []
    | row :: rest =>
      match tableColumns alignments (row :: rest) with
      | .error d => [.defect d]
      | .ok columns =>
        match columnAlignments columns with
        | .error alignment => [.defect (.unknownAlignment alignment)]
        | .ok words =>
          tableOpening words ++ rowFragments s columns.length (row :: rest) ++ [.source "))\n"]
  | .branch (.tableRow _) _ _ => [.defect .strayRow]
  | .branch (.tableCell ..) cs _ => fragmentsAll s cs
  | .branch (.footnoteDefinition _) _ _ => []
  | .branch (.containerDirective name attributes) cs _ =>
    if name == "figure" then figureOpening attributes ++ fragmentsAll s cs ++ [.source "]\n"]
    else fragmentsAll s cs
  | .branch (.leafDirective ..) cs _ => fragmentsAll s cs
  | .branch .emphasis cs _ => .source "#emph[" :: fragmentsAll s cs ++ [.source "]"]
  | .branch .strong cs _ => .source "#strong[" :: fragmentsAll s cs ++ [.source "]"]
  | .branch .strikethrough cs _ => .source "#strike[" :: fragmentsAll s cs ++ [.source "]"]
  | .branch (.link url _) cs _ => linkOpening url ++ fragmentsAll s cs ++ [.source "])"]
  | .branch (.linkReference identifier label form) cs _ =>
    match s.definitions.url? identifier with
    | some url => linkOpening url ++ fragmentsAll s cs ++ [.source "])"]
    | none =>
      [missingDefinition "Link reference" identifier, .source "#\"[\""] ++ fragmentsAll s cs ++
        [.source (referenceEnd form label identifier)]
  | .branch (.textDirective ..) cs _ => fragmentsAll s cs
  | .branch .typstMarkup cs _ => fragmentsAll s cs

/-- The fragments of several trees, one after the other. -/
def fragmentsAll (s : Setting) : List Node → List Fragment
  | [] => []
  | n :: ns => fragments s n ++ fragmentsAll s ns

/-- The items of a list. -/
def itemFragments (s : Setting) : List Node → List Fragment
  | [] => []
  | n :: ns => .source "[" :: fragments s n ++ .source "],\n" :: itemFragments s ns

/-- The children of a list item; its paragraphs are set without their frame. -/
def unwrappedFragments (s : Setting) : List Node → List Fragment
  | [] => []
  | .branch .paragraph cs _ :: ns => fragmentsAll s cs ++ unwrappedFragments s ns
  | n :: ns => fragments s n ++ unwrappedFragments s ns

/-- The rows of a table with a number of columns. -/
def rowFragments (s : Setting) (columns : Nat) : List Node → List Fragment
  | [] => []
  | .branch (.tableRow _) cells _ :: rows =>
    cellFragments s columns cells ++ .source "\n" :: rowFragments s columns rows
  | row :: rows =>
    if columns == 0 then .source "\n" :: rowFragments s columns rows
    else [.defect (.notTabular row.kindName "cells")]

/-- The cells of a row in a number of columns. Cells beyond them are left out, missing ones are
set empty, and cells that were merged into a neighbour are skipped. -/
def cellFragments (s : Setting) : Nat → List Node → List Fragment
  | 0, _ => []
  | columns + 1, [] => List.replicate (columns + 1) (.source "table.cell()[], ")
  | columns + 1, .branch (.tableCell colspan rowspan suppressed _) cs _ :: cells =>
    (if suppressed then []
     else cellOpening colspan rowspan ++ fragmentsAll s cs ++ [.source "], "]) ++
      cellFragments s columns cells
  | _ + 1, cell :: _ => [.defect (.notTabular cell.kindName "suppressed")]

end

end TypstPress.Typst
