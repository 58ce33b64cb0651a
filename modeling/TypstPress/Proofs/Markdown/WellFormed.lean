import TypstPress.Markdown.Nodes
import TypstPress.Proofs.Document.WellFormed

/-!
# What is read from tokens is well formed

Tokens may be nested in any way, also in ways that no Markdown is read as: a
cell in a paragraph, a heading in a table. What is read from them is well
formed all the same, because each reader makes one kind of node and leaves out
the tokens it has no use for. Blocks and inlines are content wherever they
stand, items are only made for lists, and rows and cells only for tables.

One thing is taken over from the tokens as it is, the alignment of a cell, and
it is the one thing that has to be asked of them (`hasAlignments`).
-/

namespace TypstPress

open Node

namespace Markdown

/-- Whether a kind of token that gives an alignment gives one that tables can be
set with. -/
def TokenKind.hasAlignment : TokenKind → Bool
  | .tableCell alignment => isAlignment alignment
  | _ => true

mutual

/-- Whether all cells among a token and its descendants have an alignment that
tables can be set with. -/
def Token.hasAlignments : Token → Bool
  | .mk kind _ _ children => kind.hasAlignment && allHaveAlignments children

/-- Whether all cells among several tokens have one. -/
def allHaveAlignments : List Token → Bool
  | [] => true
  | t :: ts => t.hasAlignments && allHaveAlignments ts

end

theorem hasAlignments_mk {kind : TokenKind} {raw : String} {nested : Bool}
    {children : List Token} :
    (Token.mk kind raw nested children).hasAlignments = true ↔
      kind.hasAlignment = true ∧ allHaveAlignments children = true := by
  rw [Token.hasAlignments, Bool.and_eq_true]

theorem allHaveAlignments_cons {t : Token} {ts : List Token} :
    allHaveAlignments (t :: ts) = true ↔
      t.hasAlignments = true ∧ allHaveAlignments ts = true := by
  rw [allHaveAlignments, Bool.and_eq_true]

theorem hasAlignments_of_mem {t : Token} {ts : List Token} (h : allHaveAlignments ts = true)
    (ht : t ∈ ts) : t.hasAlignments = true := by
  induction ts with
  | nil => cases ht
  | cons t' ts ih =>
      rw [allHaveAlignments_cons] at h
      rcases List.mem_cons.1 ht with rfl | ht
      · exact h.1
      · exact ih h.2 ht

theorem hasAlignments_children {t : Token} (h : t.hasAlignments = true) :
    allHaveAlignments t.children = true := by
  cases t with
  | mk kind raw nested children => exact (hasAlignments_mk.1 h).2

/-! ## Inlines -/

mutual

theorem areContent_inlineNodes (t : Token) : AreContent t.inlineNodes := by
  match t with
  | .mk kind raw nested children =>
      have hchildren := areContent_inlineNodesAll children
      cases kind with
      | strong | emphasis | strikethrough =>
          exact areContent_one rfl (isWellFormed_of_areContent rfl rfl hchildren)
      | link target =>
          cases target with
          | url => exact areContent_one rfl (isWellFormed_of_areContent rfl rfl hchildren)
          | reference =>
              exact areContent_one rfl (isWellFormed_of_areContent rfl rfl hchildren)
      | image target => cases target <;> exact areContent_leaf
      | text | codespan | linebreak | softbreak | inlineHtml | inlineMath | blockMath
      | footnoteRef => exact areContent_leaf
      | _ => exact areContent_nil

theorem areContent_inlineNodesAll (ts : List Token) : AreContent (inlineNodesAll ts) := by
  match ts with
  | [] => exact areContent_nil
  | t :: ts =>
      rw [inlineNodesAll]
      exact areContent_append (areContent_inlineNodes t) (areContent_inlineNodesAll ts)

end

/-! ## Tables -/

theorem allWellFormed_cellNodes (isHeader : Bool) {ts : List Token}
    (h : allHaveAlignments ts = true) :
    allWellFormed (.tableRow isHeader) (cellNodes ts) = true := by
  induction ts with
  | nil => exact allWellFormed_nil
  | cons t ts ih =>
      rw [allHaveAlignments_cons] at h
      have hrest := ih h.2
      cases t with
      | mk kind raw nested children =>
          cases kind with
          | tableCell alignment =>
              have halignment : isAlignment alignment = true := (hasAlignments_mk.1 h.1).1
              refine allWellFormed_cons.2 ⟨⟨rfl, ?_⟩, hrest⟩
              exact isWellFormed_of_areContent rfl halignment
                (areContent_inlineNodesAll children)
          | _ => exact hrest

theorem isWellFormed_row (isHeader : Bool) {ts : List Token}
    (h : allHaveAlignments ts = true) :
    (Node.ofBranch (.tableRow isHeader) (cellNodes ts)).isWellFormed = true :=
  isWellFormed_branch.2 ⟨rfl, allWellFormed_cellNodes isHeader h⟩

theorem isAlignment_tableAlignments {parts : List Token}
    (h : allHaveAlignments parts = true) :
    (tableAlignments parts).all isAlignment = true := by
  unfold tableAlignments
  split
  · next head hhead =>
      have hmem : head ∈ parts := (List.mem_filter.1 (List.mem_of_getLast? hhead)).1
      have hcells := hasAlignments_children (hasAlignments_of_mem h hmem)
      rw [List.all_eq_true]
      intro alignment halignment
      obtain ⟨t, ht, hkind⟩ := List.mem_filterMap.1 halignment
      have htoken := hasAlignments_of_mem hcells ht
      cases t with
      | mk kind raw nested children =>
          cases kind with
          | tableCell alignment' =>
              cases hkind
              exact (hasAlignments_mk.1 htoken).1
          | _ => cases hkind
  · rfl

theorem isWellFormed_tableNode {parts : List Token} (h : allHaveAlignments parts = true) :
    (tableNode parts).isWellFormed = true := by
  refine isWellFormed_branch.2 ⟨isAlignment_tableAlignments h, allWellFormed_iff.2 ?_⟩
  intro row hrow
  rcases List.mem_append.1 hrow with hhead | hbody
  · rw [Option.mem_toList, headNode?, Option.map_eq_some_iff] at hhead
    obtain ⟨head, hlast, rfl⟩ := hhead
    have hmem : head ∈ parts := (List.mem_filter.1 (List.mem_of_getLast? hlast)).1
    exact ⟨rfl, isWellFormed_row true (hasAlignments_children (hasAlignments_of_mem h hmem))⟩
  · obtain ⟨part, hpart, hrow⟩ := List.mem_flatMap.1 hbody
    split at hrow
    · obtain ⟨token, htoken, rfl⟩ := List.mem_map.1 hrow
      have hrows := hasAlignments_children (hasAlignments_of_mem h hpart)
      exact ⟨rfl,
        isWellFormed_row false (hasAlignments_children (hasAlignments_of_mem hrows htoken))⟩
    · cases hrow

/-! ## Blocks -/

theorem isSound_heading (level : Int) : (Branch.heading (headingLevel level)).isSound = true := by
  rw [Branch.isSound, headingLevel, Bool.and_eq_true, decide_eq_true_iff, decide_eq_true_iff]
  split
  · omega
  · omega

theorem areContent_codeNode (content : String) (info : Option String) :
    AreContent [codeNode content info] := by
  unfold codeNode
  split
  · exact areContent_leaf
  · exact areContent_leaf

mutual

theorem areContent_blockNodes (t : Token) (h : t.hasAlignments = true) :
    AreContent t.blockNodes := by
  match t with
  | .mk kind raw nested children =>
      have hchildren := (hasAlignments_mk.1 h).2
      have hblocks := areContent_blockNodesAll children hchildren
      have hinlines := areContent_inlineNodesAll children
      cases kind with
      | heading level =>
          exact areContent_one rfl
            (isWellFormed_of_areContent rfl (isSound_heading level) hinlines)
      | paragraph | blockText | leafDirective =>
          exact areContent_one rfl (isWellFormed_of_areContent rfl rfl hinlines)
      | blockCode info => exact areContent_codeNode raw info
      | blockQuote | containerDirective =>
          exact areContent_one rfl (isWellFormed_of_areContent rfl rfl hblocks)
      | list ordered start tight =>
          exact areContent_one rfl (isWellFormed_branch.2
            ⟨rfl, allWellFormed_itemNodes ordered start tight children hchildren⟩)
      | table => exact areContent_one rfl (isWellFormed_tableNode hchildren)
      | thematicBreak | blockHtml | blockMath => exact areContent_leaf
      | footnotes => exact areContent_noteNodes children hchildren
      | typstDirective | blockError =>
          exact areContent_one rfl (isWellFormed_of_areContent rfl rfl areContent_leaf)
      | _ => exact areContent_nil

theorem areContent_blockNodesAll (ts : List Token) (h : allHaveAlignments ts = true) :
    AreContent (blockNodesAll ts) := by
  match ts with
  | [] => exact areContent_nil
  | t :: ts =>
      rw [allHaveAlignments_cons] at h
      rw [blockNodesAll]
      exact areContent_append (areContent_blockNodes t h.1) (areContent_blockNodesAll ts h.2)

theorem allWellFormed_itemNodes (ordered : Bool) (start : Option Int) (tight : Bool)
    (ts : List Token) (h : allHaveAlignments ts = true) :
    allWellFormed (.list ordered start tight) (itemNodes ts) = true := by
  match ts with
  | [] => exact allWellFormed_nil
  | .mk kind raw nested children :: ts =>
      rw [allHaveAlignments_cons, hasAlignments_mk] at h
      have hblocks := areContent_blockNodesAll children h.1.2
      have hrest := allWellFormed_itemNodes ordered start tight ts h.2
      rw [itemNodes]
      split
      · exact allWellFormed_cons.2 ⟨⟨rfl, isWellFormed_of_areContent rfl rfl hblocks⟩, hrest⟩
      · exact hrest

theorem areContent_noteNodes (ts : List Token) (h : allHaveAlignments ts = true) :
    AreContent (noteNodes ts) := by
  match ts with
  | [] => exact areContent_nil
  | .mk kind raw nested children :: ts =>
      rw [allHaveAlignments_cons, hasAlignments_mk] at h
      have hblocks := areContent_blockNodesAll children h.1.2
      have hrest := areContent_noteNodes ts h.2
      unfold noteNodes
      exact areContent_cons.2 ⟨⟨rfl, isWellFormed_of_areContent rfl rfl hblocks⟩, hrest⟩

end

theorem areContent_definitionNodes (table : LinkTable) :
    AreContent (definitionNodes table) := by
  intro n hn
  obtain ⟨entry, -, rfl⟩ := List.mem_map.1 hn
  exact ⟨rfl, isWellFormed_leaf⟩

/-- The document that tokens and definitions make up is well formed. -/
theorem isWellFormedDocument_documentNodes {tokens : List Token}
    (h : allHaveAlignments tokens = true) (table : LinkTable) (metadata : Metadata) :
    (Node.branch .document (documentNodes tokens table) metadata).isWellFormedDocument =
      true := by
  have hcontent : AreContent (documentNodes tokens table) :=
    areContent_append (areContent_blockNodesAll tokens h) (areContent_definitionNodes table)
  rw [isWellFormedDocument, isWellFormed_of_areContent rfl rfl hcontent]
  rfl

end Markdown

end TypstPress
