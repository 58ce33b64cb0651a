import TypstPress.Markdown.Read
import TypstPress.Proofs.Markdown.WellFormed

/-!
# What is read is well formed

That tokens make up well-formed documents asks one thing of them, alignments
that tables can be set with, and asks it of every cell at any depth. The reader
grants more than that where it matters and nothing where it does not: a table
has its alignments from its delimiter line, which knows three words only, while
the tokens inside a paragraph are never asked.

So the blocks are followed instead of the tokens. The induction is on blocks,
with a statement for blocks that stand on their own and one for the items of a
list, and the text inside them comes in through `areContent_inlineNodesAll`,
which holds of all tokens.
-/

namespace TypstPress.Markdown

open Node

/-! ## Tables -/

theorem Alignment.isAlignment_word (alignment : Option Alignment) :
    isAlignment (alignment.map Alignment.word) = true := by
  cases alignment with
  | none => rfl
  | some alignment => cases alignment <;> rfl

section

variable (ctx : InlineContext)

theorem isAlignment_rowTokens (alignments : List (Option Alignment)) (cells : List (List Char))
    (cited : List String) :
    (cellAlignments (rowTokens ctx alignments cells cited).1).all isAlignment = true := by
  match alignments, cells with
  | [], _ => rfl
  | _ :: _, [] => rfl
  | alignment :: alignments, cell :: cells =>
      rw [rowTokens]
      exact Bool.and_eq_true_iff.2
        ⟨Alignment.isAlignment_word alignment, isAlignment_rowTokens alignments cells _⟩

theorem allWellFormed_rowTokens (isHeader : Bool) (alignments : List (Option Alignment))
    (cells : List (List Char)) (cited : List String) :
    allWellFormed (.tableRow isHeader) (cellNodes (rowTokens ctx alignments cells cited).1) =
      true := by
  match alignments, cells with
  | [], _ => exact allWellFormed_nil
  | _ :: _, [] => exact allWellFormed_nil
  | alignment :: alignments, cell :: cells =>
      rw [rowTokens]
      refine allWellFormed_cons.2
        ⟨⟨rfl, ?_⟩, allWellFormed_rowTokens isHeader alignments cells _⟩
      exact isWellFormed_of_areContent rfl (Alignment.isAlignment_word alignment)
        (areContent_inlineNodesAll _)

theorem allWellFormed_bodyTokens (headed : Bool) (known : List (Option String))
    (alignments : List (Option Alignment)) (rows : List (List (List Char)))
    (cited : List String) :
    allWellFormed (.table headed known) (rowNodes (bodyTokens ctx alignments rows cited).1) =
      true := by
  induction rows generalizing cited with
  | nil => exact allWellFormed_nil
  | cons row rows ih =>
      rw [bodyTokens]
      refine allWellFormed_cons.2 ⟨⟨rfl, ?_⟩, ih _⟩
      exact isWellFormed_branch.2 ⟨rfl, allWellFormed_rowTokens ctx false alignments row _⟩

theorem areContent_tableToken (table : TableText) (cited : List String) :
    AreContent (tableToken ctx table cited).1.blockNodes := by
  refine areContent_one rfl (isWellFormed_branch.2 ⟨?_, allWellFormed_cons.2 ⟨⟨rfl, ?_⟩, ?_⟩⟩)
  · exact isAlignment_rowTokens ctx table.alignments table.head cited
  · exact isWellFormed_branch.2 ⟨rfl, allWellFormed_rowTokens ctx true _ _ _⟩
  · show allWellFormed _ (rowNodes _ ++ []) = true
    rw [List.append_nil]
    exact allWellFormed_bodyTokens ctx _ _ table.alignments table.rows _

/-! ## Blocks -/

theorem blockNodesAll_append (ts ts' : List Token) :
    blockNodesAll (ts ++ ts') = blockNodesAll ts ++ blockNodesAll ts' := by
  induction ts with
  | nil => rfl
  | cons t ts ih =>
      rw [List.cons_append, blockNodesAll, blockNodesAll, ih, List.append_assoc]

theorem itemNodes_append (ts ts' : List Token) :
    itemNodes (ts ++ ts') = itemNodes ts ++ itemNodes ts' := by
  induction ts with
  | nil => rfl
  | cons t ts ih =>
      cases t with
      | mk kind raw nested children =>
          rw [List.cons_append, itemNodes, itemNodes, ih]
          split <;> rfl

/-- Nothing but items makes up a list. -/
theorem itemNodes_blockToken {b : Block} (h : ∀ children, b ≠ .item children)
    (cited : List String) : itemNodes (blockToken ctx b cited).1.toList = [] := by
  cases b with
  | item children => exact absurd rfl (h children)
  | leaf name title options =>
      rw [blockToken]
      split <;> rfl
  | _ =>
      rw [blockToken]
      rfl

mutual

theorem areContent_blockToken (b : Block) (cited : List String) :
    AreContent (blockNodesAll (blockToken ctx b cited).1.toList) := by
  have hone : ∀ {t : Token}, AreContent t.blockNodes →
      AreContent (blockNodesAll (some t).toList) := by
    intro t ht
    rw [Option.toList_some, blockNodesAll, blockNodesAll, List.append_nil]
    exact ht
  match b with
  | .blank => exact areContent_nil
  | .thematicBreak | .html _ | .math _ =>
      rw [blockToken]
      exact hone areContent_leaf
  | .heading level text =>
      rw [blockToken]
      exact hone (areContent_one rfl
        (isWellFormed_of_areContent rfl (isSound_heading _) (areContent_inlineNodesAll _)))
  | .paragraph text =>
      rw [blockToken]
      exact hone (areContent_one rfl
        (isWellFormed_of_areContent rfl rfl (areContent_inlineNodesAll _)))
  | .code content info =>
      rw [blockToken]
      exact hone (areContent_codeNode _ _)
  | .quote children =>
      rw [blockToken]
      exact hone (areContent_one rfl
        (isWellFormed_of_areContent rfl rfl (areContent_blockTokens children cited)))
  | .list ordered start tight items =>
      rw [blockToken]
      exact hone (areContent_one rfl (isWellFormed_branch.2
        ⟨rfl, allWellFormed_itemTokens ordered _ tight items cited⟩))
  | .item children =>
      rw [blockToken]
      exact hone areContent_nil
  | .table table =>
      rw [blockToken]
      exact hone (areContent_tableToken ctx table cited)
  | .container name title options children =>
      rw [blockToken]
      exact hone (areContent_one rfl
        (isWellFormed_of_areContent rfl rfl (areContent_blockTokens children cited)))
  | .leaf name title options =>
      rw [blockToken]
      split
      · exact hone (areContent_one rfl
          (isWellFormed_of_areContent rfl rfl (areContent_inlineNodesAll _)))
      · exact hone (areContent_one rfl
          (isWellFormed_of_areContent rfl rfl (areContent_inlineNodesAll _)))
  | .typst _ _ content =>
      rw [blockToken]
      exact hone (areContent_one rfl (isWellFormed_of_areContent rfl rfl areContent_leaf))
  | .unknownDirective source =>
      rw [blockToken]
      exact hone (areContent_one rfl (isWellFormed_of_areContent rfl rfl areContent_leaf))

theorem areContent_blockTokens (bs : List Block) (cited : List String) :
    AreContent (blockNodesAll (blockTokens ctx bs cited).1) := by
  match bs with
  | [] =>
      rw [blockTokens]
      exact areContent_nil
  | b :: bs =>
      rw [blockTokens, blockNodesAll_append]
      exact areContent_append (areContent_blockToken b cited) (areContent_blockTokens bs _)

theorem allWellFormed_itemTokens (ordered : Bool) (start : Option Int) (tight : Bool)
    (bs : List Block) (cited : List String) :
    allWellFormed (.list ordered start tight) (itemNodes (blockTokens ctx bs cited).1) = true := by
  match bs with
  | [] =>
      rw [blockTokens]
      exact allWellFormed_nil
  | .item children :: bs =>
      have hrest := allWellFormed_itemTokens ordered start tight bs
        (blockTokens ctx children cited).2
      have hitem := areContent_blockTokens children cited
      rw [blockTokens, blockToken]
      exact allWellFormed_cons.2 ⟨⟨rfl, isWellFormed_of_areContent rfl rfl hitem⟩, hrest⟩
  | .blank :: bs | .thematicBreak :: bs | .heading _ _ :: bs | .paragraph _ :: bs
  | .code _ _ :: bs | .html _ :: bs | .math _ :: bs | .quote _ :: bs | .list _ _ _ _ :: bs
  | .table _ :: bs | .container _ _ _ _ :: bs | .leaf _ _ _ :: bs | .typst _ _ _ :: bs
  | .unknownDirective _ :: bs =>
      rw [blockTokens, itemNodes_append, itemNodes_blockToken ctx]
      · exact allWellFormed_itemTokens ordered start tight bs _
      · exact fun _ => nofun

end

theorem areContent_noteTokens (notes : List (String × List Block)) (cited : List String) :
    AreContent (noteNodes (noteTokens ctx notes cited)) := by
  induction notes generalizing cited with
  | nil =>
      rw [noteTokens]
      exact areContent_nil
  | cons note notes ih =>
      obtain ⟨key, blocks⟩ := note
      rw [noteTokens]
      refine areContent_cons.2 ⟨⟨rfl, isWellFormed_of_areContent rfl rfl ?_⟩, ih _⟩
      exact areContent_blockTokens ctx blocks cited

end

/-- What is read makes up a well-formed document. -/
theorem isWellFormedDocument_read (options : MarkdownOptions) (text : String)
    (metadata : Metadata) :
    (Node.branch .document (documentNodes (read options text).tokens (read options text).links)
      metadata).isWellFormedDocument = true := by
  have hblocks : AreContent (blockNodesAll (read options text).tokens) := by
    rw [read]
    obtain ⟨blocks, labels⟩ := blocksOf options 0 (preparedText text) {}
    have htokens := areContent_blockTokens (inlineContext options labels) blocks []
    dsimp only
    split
    · exact htokens
    · rw [blockNodesAll_append]
      refine areContent_append htokens ?_
      rw [blockNodesAll, blockNodesAll, List.append_nil]
      exact areContent_noteTokens _ _ _
  have hcontent := areContent_append hblocks (areContent_definitionNodes (read options text).links)
  rw [isWellFormedDocument, documentNodes, isWellFormed_of_areContent rfl rfl hcontent]
  rfl

end TypstPress.Markdown
