import TypstPress.Markdown.Read

/-!
# Reading does not ask for front matter

The options of the reader say whether a text may have front matter, and that is
settled before anything is read. Reading is given all of the options and passes
them down to every level of blocks and inlines, so that it does not look at this
one is a fact about every reader on the way (`read_withFrontMatter`).

The steps of each recursion are the same for both options, and are compared with
the recursion opened; what they are nested in is an induction on the levels or
on the blocks.
-/

namespace TypstPress

/-- The options with front matter switched on or off. -/
def MarkdownOptions.withFrontMatter (o : MarkdownOptions) (frontMatter : Bool) :
    MarkdownOptions :=
  { o with frontMatter }

namespace Markdown

variable (frontMatter : Bool)

/-! ## Inlines -/

/-- The context with front matter switched on or off. -/
def InlineContext.withFrontMatter (ctx : InlineContext) : InlineContext :=
  { ctx with options := ctx.options.withFrontMatter frontMatter }

section

variable (ctx : InlineContext)

theorem readPieces_withFrontMatter :
    readPieces (ctx.withFrontMatter frontMatter) = readPieces ctx := by
  delta readPieces
  rfl

theorem readInlines_withFrontMatter (levels : Nat) :
    readInlines (ctx.withFrontMatter frontMatter) levels = readInlines ctx levels := by
  induction levels with
  | zero => rfl
  | succ levels ih =>
      funext inAnchor text cited
      rw [readInlines, readInlines, ih, readPieces_withFrontMatter]

theorem inlinesOf_withFrontMatter :
    inlinesOf (ctx.withFrontMatter frontMatter) = inlinesOf ctx := by
  funext text cited
  rw [inlinesOf, inlinesOf, readInlines_withFrontMatter]

theorem textToken_withFrontMatter :
    textToken (ctx.withFrontMatter frontMatter) = textToken ctx := by
  funext kind text cited
  rw [textToken, textToken, inlinesOf_withFrontMatter]

theorem rowTokens_withFrontMatter :
    rowTokens (ctx.withFrontMatter frontMatter) = rowTokens ctx := by
  funext alignments cells cited
  fun_induction rowTokens ctx alignments cells cited with
  | case1 alignment alignments cell cells cited children cited' hcell row cited'' hrow ih =>
      rw [rowTokens, inlinesOf_withFrontMatter, hcell]
      dsimp only
      rw [ih, hrow]
  | case2 alignments cells cited h => rw [rowTokens.eq_2 _ _ _ _ h]

theorem bodyTokens_withFrontMatter :
    bodyTokens (ctx.withFrontMatter frontMatter) = bodyTokens ctx := by
  funext alignments rows cited
  induction rows generalizing cited with
  | nil => rfl
  | cons row rows ih => rw [bodyTokens, bodyTokens, rowTokens_withFrontMatter]; simp only [ih]

theorem tableToken_withFrontMatter :
    tableToken (ctx.withFrontMatter frontMatter) = tableToken ctx := by
  funext table cited
  rw [tableToken, tableToken, rowTokens_withFrontMatter, bodyTokens_withFrontMatter]

mutual

theorem blockToken_withFrontMatter (b : Block) (cited : List String) :
    blockToken (ctx.withFrontMatter frontMatter) b cited = blockToken ctx b cited := by
  match b with
  | .heading .. | .paragraph .. | .leaf .. =>
      rw [blockToken, blockToken, textToken_withFrontMatter]
  | .table .. => rw [blockToken, blockToken, tableToken_withFrontMatter]
  | .quote children | .list _ _ _ children | .item children | .container _ _ _ children =>
      rw [blockToken, blockToken, blockTokens_withFrontMatter children]
  | .blank | .thematicBreak | .code .. | .html _ | .math _ | .typst .. | .unknownDirective _ =>
      rw [blockToken, blockToken]

theorem blockTokens_withFrontMatter (bs : List Block) (cited : List String) :
    blockTokens (ctx.withFrontMatter frontMatter) bs cited = blockTokens ctx bs cited := by
  match bs with
  | [] => rw [blockTokens, blockTokens]
  | b :: bs =>
      rw [blockTokens, blockTokens, blockToken_withFrontMatter b]
      simp only [blockTokens_withFrontMatter bs]

end

theorem noteTokens_withFrontMatter (notes : List (String × List Block)) (cited : List String) :
    noteTokens (ctx.withFrontMatter frontMatter) notes cited = noteTokens ctx notes cited := by
  induction notes generalizing cited with
  | nil => rfl
  | cons note notes ih =>
      rw [noteTokens, noteTokens, blockTokens_withFrontMatter]
      simp only [ih]

end

/-! ## Blocks -/

/-- The context with front matter switched on or off. -/
def BlockContext.withFrontMatter (ctx : BlockContext) : BlockContext :=
  { ctx with options := ctx.options.withFrontMatter frontMatter }

theorem readRule_withFrontMatter (ctx : BlockContext) :
    readRule (ctx.withFrontMatter frontMatter) = readRule ctx := by
  delta readRule
  rfl

theorem readLevel_withFrontMatter (ctx : BlockContext) (rules : List Rule) (fuel : Nat)
    (s : BlockState) :
    readLevel (ctx.withFrontMatter frontMatter) rules fuel s = readLevel ctx rules fuel s := by
  induction fuel generalizing s with
  | zero => rfl
  | succ fuel ih =>
      rw [readLevel, readLevel, readRule_withFrontMatter]
      simp only [ih]

variable (options : MarkdownOptions)

theorem readBlocks_withFrontMatter (levels : Nat) :
    readBlocks (options.withFrontMatter frontMatter) levels = readBlocks options levels := by
  induction levels with
  | zero => rfl
  | succ levels ih =>
      funext level rules text unmarked labels
      rw [readBlocks, readBlocks, ih]
      exact congrArg (fun s : BlockState => (s.blocks.reverse, s.labels))
        (readLevel_withFrontMatter frontMatter
          { options, level, readNested := readBlocks options levels (level + 1) } _ _ _)

theorem blocksOf_withFrontMatter :
    blocksOf (options.withFrontMatter frontMatter) = blocksOf options := by
  funext level text labels
  rw [blocksOf, readBlocks_withFrontMatter]
  rfl

theorem noteBlocks_withFrontMatter :
    noteBlocks (options.withFrontMatter frontMatter) = noteBlocks options := by
  funext text labels
  rw [noteBlocks, noteBlocks, blocksOf_withFrontMatter]

theorem allNoteBlocks_withFrontMatter (keys : List String) (labels : Labels) :
    allNoteBlocks (options.withFrontMatter frontMatter) keys labels =
      allNoteBlocks options keys labels := by
  induction keys generalizing labels with
  | nil => rfl
  | cons key keys ih =>
      rw [allNoteBlocks, allNoteBlocks, noteBlocks_withFrontMatter]
      simp only [ih]

/-- A text is read alike whether it may have front matter or not. -/
theorem read_withFrontMatter (text : String) :
    read (options.withFrontMatter frontMatter) text = read options text := by
  have hcontext : ∀ labels, inlineContext (options.withFrontMatter frontMatter) labels =
      (inlineContext options labels).withFrontMatter frontMatter := fun _ => rfl
  simp only [read, hcontext, blocksOf_withFrontMatter, blockTokens_withFrontMatter,
    noteTokens_withFrontMatter, allNoteBlocks_withFrontMatter]

end Markdown

end TypstPress
