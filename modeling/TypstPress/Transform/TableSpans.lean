import TypstPress.Text.Blank
import TypstPress.Transform.Rewrite

/-!
# Column and row spans

A cell that holds `<` is merged into the cell on its left, a cell that holds `^` into the cell
above. The cell that is merged is suppressed, and the one that takes it in grows by its span. Rows
are scanned from the right and columns from below, so that a run of marks gathers in the cell where
it starts. Cells are matched by their position in the row.

Tables that callers build may hold something else than rows and cells. Merging such a table stops
at the first part that is missing, and keeps what was merged before.
-/

namespace TypstPress.TableSpans

/-- The outcome of merging: what became of the nodes, how many cells were merged and why merging
stopped, if it did. -/
structure Merge (α : Type) where
  value : α
  merged : Nat := 0
  failure : Option Failure := none
deriving Inhabited

/-- What a node holds as content: a row of nodes, a text, or nothing of that name. -/
inductive Content where
  | nodes (ns : List Node)
  | text
  | none

/-- The content of a node. -/
def contentOf : Node → Content
  | .leaf l _ =>
    match l with
    | .codeBlock .. | .htmlBlock _ | .mathBlock _ | .text _ | .code _ | .htmlInline _
    | .mathInline _ | .typstContent _ => .text
    | _ => .none
  | .branch k cs _ =>
    match k with
    | .heading _ | .paragraph | .tableCell .. | .footnoteDefinition _ | .leafDirective ..
    | .emphasis | .strong | .strikethrough | .link .. | .linkReference .. | .textDirective .. =>
      .nodes cs
    | _ => .none

/-- Whether the content of a cell starts with a text that is the mark, blanks aside. -/
def startsWithMark (mark : Char) : List Node → Bool
  | .leaf (.text content) _ :: _ => Text.trim content.toList == [mark]
  | _ => false

/-- Whether a node is a cell with the mark. -/
def isMark (mark : Char) (n : Node) : Except Failure Bool :=
  match contentOf n with
  | .nodes cs => .ok (startsWithMark mark cs)
  | .text => .ok false
  | .none => .error (.noSuchPart n.kindName "content")

/-- The cells of a row. -/
def rowCells? : Node → Option (List Node)
  | .branch (.tableRow _) cells _ => some cells
  | _ => none

/-- The node with other children. -/
def putChildren (cs : List Node) : Node → Node
  | .branch k _ m => .branch k cs m
  | n => n

/-- Merges a cell into its left neighbour, if it is marked: the two cells and whether they were
merged. -/
def mergeLeft (left cell : Node) : Except Failure (Node × Node × Bool) :=
  match isMark '<' cell with
  | .error f => .error f
  | .ok false => .ok (left, cell, false)
  | .ok true =>
    match left with
    | .branch (.tableCell colspan rowspan suppressed alignment) cs m =>
      if suppressed then .ok (left, cell, false)
      else
        match cell with
        | .branch (.tableCell colspan' rowspan' _ alignment') cs' m' =>
          .ok (.branch (.tableCell (colspan + colspan') rowspan suppressed alignment) cs m,
            .branch (.tableCell colspan' rowspan' true alignment') cs' m', true)
        | other => .error (.noSuchPart other.kindName "colspan")
    | other => .error (.noSuchPart other.kindName "suppressed")

/-- Merges the marked cells of a row, from the right. -/
def mergeRow : List Node → Merge (List Node)
  | [] => { value := [] }
  | left :: cells =>
    let rest := mergeRow cells
    match rest.failure, rest.value with
    | none, cell :: others =>
      match mergeLeft left cell with
      | .ok (left, cell, merged) =>
        { value := left :: cell :: others, merged := rest.merged + (if merged then 1 else 0) }
      | .error f => { rest with value := left :: rest.value, failure := some f }
    | _, _ => { rest with value := left :: rest.value }

/-- Merges the cells marked `<` in every row. -/
def mergeColumns : List Node → Merge (List Node)
  | [] => { value := [] }
  | row :: rows =>
    match rowCells? row with
    | none => { value := row :: rows, failure := some (.noSuchPart row.kindName "cells") }
    | some cells =>
      let here := mergeRow cells
      let row := putChildren here.value row
      match here.failure with
      | some f => { value := row :: rows, merged := here.merged, failure := some f }
      | none =>
        let rest := mergeColumns rows
        { rest with value := row :: rest.value, merged := here.merged + rest.merged }

/-- Merges a cell into the cell above, if it is marked and was not merged itself: the two cells and
whether they were merged. There may be no cell above. -/
def mergeUp (above? : Option Node) (cell : Node) : Except Failure (Option Node × Node × Bool) :=
  match cell with
  | .branch (.tableCell colspan rowspan suppressed alignment) cs m =>
    if suppressed || !startsWithMark '^' cs then .ok (above?, cell, false)
    else
      match above? with
      | none => .ok (none, cell, false)
      | some (.branch (.tableCell colspan' rowspan' suppressed' alignment') cs' m') =>
        if suppressed' then .ok (above?, cell, false)
        else
          .ok (some (.branch (.tableCell colspan' (rowspan' + rowspan) suppressed' alignment')
              cs' m'),
            .branch (.tableCell colspan rowspan true alignment) cs m, true)
      | some other => .error (.noSuchPart other.kindName "suppressed")
  | other => .error (.noSuchPart other.kindName "suppressed")

/-- Merges the marked cells of a row into the row above. -/
def mergeRowUp : List Node → List Node → Merge (List Node × List Node)
  | above, [] => { value := (above, []) }
  | above, cell :: cells =>
    match mergeUp above.head? cell with
    | .error f => { value := (above, cell :: cells), failure := some f }
    | .ok (top, cell, merged) =>
      let rest := mergeRowUp above.tail cells
      { rest with
        value := (top.toList ++ rest.value.1, cell :: rest.value.2)
        merged := rest.merged + (if merged then 1 else 0) }

/-- Merges the cells marked `^` in every row but the first, from below. -/
def mergeRows : List Node → Merge (List Node)
  | [] => { value := [] }
  | row :: rows =>
    let rest := mergeRows rows
    match rest.failure, rest.value with
    | none, below :: others =>
      match rowCells? row, rowCells? below with
      | some above, some cells =>
        let pair := mergeRowUp above cells
        { value := putChildren pair.value.1 row :: putChildren pair.value.2 below :: others
          merged := rest.merged + pair.merged
          failure := pair.failure }
      | none, _ =>
        { rest with
          value := row :: rest.value, failure := some (.noSuchPart row.kindName "cells") }
      | _, none =>
        { rest with
          value := row :: rest.value, failure := some (.noSuchPart below.kindName "cells") }
    | _, _ => { rest with value := row :: rest.value }

/-- The record that tells how many cells of a table were merged. -/
def record (columns rows : Nat) : Log :=
  if columns == 0 && rows == 0 then []
  else
    [⟨.debug, "md2typst.transforms.table_spans",
      s!"Merged {columns} column and {rows} row marker cell(s) in table"⟩]

/-- Merges the marked cells of a table, given by its rows. -/
def mergeTable (rows : List Node) : Merge (List Node) × Log :=
  let columns := mergeColumns rows
  match columns.failure with
  | some _ => (columns, [])
  | none =>
    let spans := mergeRows columns.value
    match spans.failure with
    | some _ => (spans, [])
    | none => (spans, record columns.merged spans.merged)

/-- The outcome of merging in several trees. -/
structure Rewrites where
  trees : List Node
  log : Log := []
  failure : Option Failure := none
deriving Inhabited

mutual

/-- Merges the marked cells of all tables of a tree, outer tables first. Merging changes no cell's
content, so the tables inside the cells may be merged before it is written back. -/
def mergeTree : Node → Rewrite
  | .leaf l m => { tree := .leaf l m }
  | .branch k rows m =>
    match k with
    | .table headed alignments =>
      let (here, log) := mergeTable rows
      match here.failure with
      | some f => { tree := .branch k here.value m, log, failure := some f }
      | none =>
        let below := mergeTrees rows
        { tree := .branch (.table headed alignments) (mergeTable below.trees).1.value m
          log := log ++ below.log
          failure := below.failure }
    | k =>
      let below := mergeTrees rows
      { tree := .branch k below.trees m, log := below.log, failure := below.failure }

/-- Merges the marked cells of all tables of several trees in order, up to the first failure. -/
def mergeTrees : List Node → Rewrites
  | [] => { trees := [] }
  | n :: ns =>
    let first := mergeTree n
    match first.failure with
    | some f => { trees := first.tree :: ns, log := first.log, failure := some f }
    | none =>
      let rest := mergeTrees ns
      { trees := first.tree :: rest.trees, log := first.log ++ rest.log, failure := rest.failure }

end

/-- Merges the marked cells of all tables of a document. -/
def apply (document : Node) : Rewrite := mergeTree document

end TypstPress.TableSpans
