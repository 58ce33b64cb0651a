import TypstPress.Proofs.Markdown.WellFormed
import TypstPress.Proofs.Typst.WellFormed

/-!
# What is read can be encoded

The urls of tokens and of link definitions are texts, and a node that is made
from them holds no other url. So the images of a document that was read all have
an asset id, and with well-formedness this is all that compiling asks for
(`isSettable_documentNodes`).
-/

namespace TypstPress.Markdown

open Node

theorem encodable_one {k : Branch} {cs : List Node} (h : allOf Kind.isEncodable cs = true) :
    allOf Kind.isEncodable [.ofBranch k cs] = true :=
  allOf_cons.2 ⟨all_branch.2 ⟨rfl, h⟩, allOf_nil⟩

theorem encodable_leaf {l : Leaf} {m : Metadata} (h : Kind.isEncodable (.leaf l) = true) :
    allOf Kind.isEncodable [.leaf l m] = true :=
  allOf_cons.2 ⟨all_leaf.trans h, allOf_nil⟩

mutual

theorem encodable_inlineNodes (t : Token) : allOf Kind.isEncodable t.inlineNodes = true := by
  match t with
  | .mk kind raw nested children =>
      have hchildren := encodable_inlineNodesAll children
      cases kind with
      | strong | emphasis | strikethrough => exact encodable_one hchildren
      | link target => cases target <;> exact encodable_one hchildren
      | image target => cases target <;> exact encodable_leaf rfl
      | text | codespan | linebreak | softbreak | inlineHtml | inlineMath | blockMath
      | footnoteRef => exact encodable_leaf rfl
      | _ => exact allOf_nil

theorem encodable_inlineNodesAll (ts : List Token) :
    allOf Kind.isEncodable (inlineNodesAll ts) = true := by
  match ts with
  | [] => exact allOf_nil
  | t :: ts =>
      rw [inlineNodesAll]
      exact allOf_append (encodable_inlineNodes t) (encodable_inlineNodesAll ts)

end

/-! ## Tables -/

theorem encodable_cellNodes (ts : List Token) : allOf Kind.isEncodable (cellNodes ts) = true := by
  induction ts with
  | nil => exact allOf_nil
  | cons t ts ih =>
      cases t with
      | mk kind raw nested children =>
          cases kind with
          | tableCell alignment =>
              exact allOf_cons.2 ⟨all_branch.2 ⟨rfl, encodable_inlineNodesAll children⟩, ih⟩
          | _ => exact ih

theorem encodable_row (isHeader : Bool) (ts : List Token) :
    (Node.ofBranch (.tableRow isHeader) (cellNodes ts)).all Kind.isEncodable = true :=
  all_branch.2 ⟨rfl, encodable_cellNodes ts⟩

theorem encodable_tableNode (parts : List Token) :
    (tableNode parts).all Kind.isEncodable = true := by
  refine all_branch.2 ⟨rfl, allOf_iff.2 fun row hrow => ?_⟩
  rcases List.mem_append.1 hrow with hhead | hbody
  · rw [Option.mem_toList, headNode?, Option.map_eq_some_iff] at hhead
    obtain ⟨head, -, rfl⟩ := hhead
    exact encodable_row true head.children
  · obtain ⟨part, -, hrow⟩ := List.mem_flatMap.1 hbody
    split at hrow
    · obtain ⟨token, -, rfl⟩ := List.mem_map.1 hrow
      exact encodable_row false token.children
    · cases hrow

/-! ## Blocks -/

mutual

theorem encodable_blockNodes (t : Token) : allOf Kind.isEncodable t.blockNodes = true := by
  match t with
  | .mk kind raw nested children =>
      have hblocks := encodable_blockNodesAll children
      have hinlines := encodable_inlineNodesAll children
      cases kind with
      | heading | paragraph | blockText | leafDirective => exact encodable_one hinlines
      | blockQuote | containerDirective => exact encodable_one hblocks
      | blockCode info =>
          rw [Token.blockNodes, codeNode]
          split
          · exact encodable_leaf rfl
          · exact encodable_leaf rfl
      | list => exact encodable_one (encodable_itemNodes children)
      | table => exact allOf_cons.2 ⟨encodable_tableNode children, allOf_nil⟩
      | thematicBreak | blockHtml | blockMath => exact encodable_leaf rfl
      | footnotes => exact encodable_noteNodes children
      | typstDirective | blockError => exact encodable_one (encodable_leaf rfl)
      | _ => exact allOf_nil

theorem encodable_blockNodesAll (ts : List Token) :
    allOf Kind.isEncodable (blockNodesAll ts) = true := by
  match ts with
  | [] => exact allOf_nil
  | t :: ts =>
      rw [blockNodesAll]
      exact allOf_append (encodable_blockNodes t) (encodable_blockNodesAll ts)

theorem encodable_itemNodes (ts : List Token) : allOf Kind.isEncodable (itemNodes ts) = true := by
  match ts with
  | [] => exact allOf_nil
  | .mk kind raw nested children :: ts =>
      have hrest := encodable_itemNodes ts
      rw [itemNodes]
      split
      · exact allOf_cons.2 ⟨all_branch.2 ⟨rfl, encodable_blockNodesAll children⟩, hrest⟩
      · exact hrest

theorem encodable_noteNodes (ts : List Token) : allOf Kind.isEncodable (noteNodes ts) = true := by
  match ts with
  | [] => exact allOf_nil
  | .mk kind raw nested children :: ts =>
      unfold noteNodes
      exact allOf_cons.2
        ⟨all_branch.2 ⟨rfl, encodable_blockNodesAll children⟩, encodable_noteNodes ts⟩

end

theorem encodable_definitionNodes (table : LinkTable) :
    allOf Kind.isEncodable (definitionNodes table) = true := by
  refine allOf_iff.2 fun n hn => ?_
  obtain ⟨entry, -, rfl⟩ := List.mem_map.1 hn
  exact all_leaf

/-- The urls of a document that tokens and definitions make up have a UTF-8 form. -/
theorem encodable_documentNodes (tokens : List Token) (table : LinkTable) (metadata : Metadata) :
    (Node.branch .document (documentNodes tokens table) metadata).all Kind.isEncodable = true :=
  all_branch.2
    ⟨rfl, allOf_append (encodable_blockNodesAll tokens) (encodable_definitionNodes table)⟩

/-- A document of tokens compiles. -/
theorem isSettable_documentNodes {tokens : List Token} (h : allHaveAlignments tokens = true)
    (table : LinkTable) (metadata : Metadata) :
    (Node.branch .document (documentNodes tokens table) metadata).isSettable = true :=
  Bool.and_eq_true_iff.2
    ⟨isWellFormedDocument_documentNodes h table metadata,
      encodable_documentNodes tokens table metadata⟩

end TypstPress.Markdown
