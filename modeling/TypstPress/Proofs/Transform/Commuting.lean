import TypstPress.Pipeline
import TypstPress.Proofs.Attempt
import TypstPress.Proofs.Transform.Arranged
import TypstPress.Proofs.Transform.Run

/-!
# Transforms that commute

Three of the transforms rewrite what a document holds, and each looks at nodes
that another one changes: blocks are taken out of texts and marks are read off
texts, and a directive that is replaced takes whole tables with it. On arranged
documents it still makes no difference which of two runs first (`rewrite_comm`).

The reason is the same every time. Each transform is one equation on branches,
in which it rearranges the children that the recursion has finished, and the
rearrangement of one transform does not see what the other one does to a child.
Blocks move between leaves, and neither merging nor replacing touches a leaf or
makes one of a branch (`moved_map`). Cells are merged by their marks, and a mark
is the first text of a cell, which no block is taken out of and no directive is
(`mergeTable_map`). A directive is known by its kind, which the others keep
(`substituted_comm`). What is left is an induction on the tree for each pair.

Two mappings for directives are another matter: with one name in both, the first
that is run wins.
-/

namespace TypstPress

open Node

/-! ## Attribute blocks move alike in other trees -/

namespace ImageAttributes

/-- What leaves leaves as they are and makes branches of branches. -/
structure KeepsLeaves (g : Node → Node) : Prop where
  leaf : ∀ l m, g (.leaf l m) = .leaf l m
  branch : ∀ k cs m, ∃ k' cs' m', g (.branch k cs m) = .branch k' cs' m'

/-- A child with its node replaced. -/
def Child.map (g : Node → Node) (child : Child) : Child := { child with node := g child.node }

variable {g : Node → Node}

theorem splitText?_map (hg : KeepsLeaves g) (n : Node) : splitText? (g n) = splitText? n := by
  cases n with
  | leaf l m => rw [hg.leaf]
  | branch k cs m =>
      obtain ⟨k', cs', m', heq⟩ := hg.branch k cs m
      rw [heq]
      rfl

theorem addTo?_map (hg : KeepsLeaves g) (attributes : Attributes) (n : Node) :
    addTo? attributes (g n) = addTo? attributes n := by
  cases n with
  | leaf l m => rw [hg.leaf]
  | branch k cs m =>
      obtain ⟨k', cs', m', heq⟩ := hg.branch k cs m
      rw [heq]
      rfl

/-- Only leaves are looked at, so what keeps leaves can be done before or after. -/
theorem moveBlocks_map (hg : KeepsLeaves g) (cs : List Node) :
    (moveBlocks (cs.map g)).1 = (moveBlocks cs).1.map (Child.map g) := by
  induction cs using moveBlocks.induct with
  | case1 => rfl
  | case2 n => rfl
  | case3 n next rest attributes remaining shortened hsplit image hadd children moved hmoved ih =>
      obtain ⟨-, l, m, rfl⟩ := leaf_of_splitText? hsplit
      obtain ⟨l', m', rfl⟩ := leaf_of_addTo? hadd
      rw [hmoved] at ih
      simp only [List.map_cons, moveBlocks, splitText?_map hg, addTo?_map hg, hsplit, hadd, hmoved,
        ih, Child.map, hg.leaf]
  | case4 n next rest attributes remaining shortened hsplit hadd children moved hmoved ih =>
      rw [hmoved, List.map_cons] at ih
      simp only [List.map_cons, moveBlocks, splitText?_map hg, addTo?_map hg, hsplit, hadd, hmoved,
        ih, Child.map]
  | case5 n next rest hsplit children moved hmoved ih =>
      rw [hmoved, List.map_cons] at ih
      simp only [List.map_cons, moveBlocks, splitText?_map hg, hsplit, hmoved, ih, Child.map]

theorem moved_map (hg : KeepsLeaves g) (cs : List Node) : moved (cs.map g) = (moved cs).map g := by
  rw [moved, moved, moveBlocks_map hg, List.filter_map, List.map_map, List.map_map]
  rfl

/-- Nothing moves among branches. -/
theorem moved_of_branches {cs : List Node} (h : ∀ c ∈ cs, ∃ k cs' m, c = .branch k cs' m) :
    moved cs = cs := by
  have hkept : (moveBlocks cs).1 = cs.map fun c => { node := c } := by
    induction cs using moveBlocks.induct with
    | case1 => rfl
    | case2 n => rfl
    | case3 n next rest attributes remaining shortened hsplit
    | case4 n next rest attributes remaining shortened hsplit =>
        obtain ⟨⟨l, m, rfl⟩, -⟩ := leaf_of_splitText? hsplit
        obtain ⟨k, cs', m', hleaf⟩ := h _ (List.mem_cons_of_mem n List.mem_cons_self)
        cases hleaf
    | case5 n next rest hsplit children moved hmoved ih =>
        rw [hmoved] at ih
        simp only [moveBlocks, hsplit, hmoved, List.map_cons]
        exact congrArg _ (ih fun c hc => h c (List.mem_cons_of_mem n hc))
  rw [moved, hkept, List.filter_eq_self.2 (List.forall_mem_map.2 fun _ _ => rfl), List.map_map]
  exact List.map_id cs

theorem startsWithMark_of_addTo? {mark : Char} {attributes : Attributes} {n n' : Node}
    (h : addTo? attributes n = some n') (ns ns' : List Node) :
    TableSpans.startsWithMark mark (n' :: ns') = TableSpans.startsWithMark mark (n :: ns) := by
  unfold addTo? at h
  split at h
  · cases h
    rfl
  · cases h
    rfl
  · cases h

/-- The first child stays where it is. It may be an image that is given
attributes, but no text loses a mark. -/
theorem startsWithMark_moved (mark : Char) (cs : List Node) :
    TableSpans.startsWithMark mark (moved cs) = TableSpans.startsWithMark mark cs := by
  match cs with
  | [] => rfl
  | [n] => rfl
  | n :: next :: rest =>
      rw [moved, moveBlocks]
      split
      · split
        · next hadd => exact startsWithMark_of_addTo? hadd _ _
        · cases n with
          | leaf l m => cases l <;> rfl
          | branch k cs m => rfl
      · cases n with
        | leaf l m => cases l <;> rfl
        | branch k cs m => rfl

end ImageAttributes

/-! ## Spans are merged alike around other contents -/

namespace TableSpans

/-- A cell with another content. -/
def Cell.withContent (f : List Node → List Node) (c : Cell) : Cell :=
  { c with content := f c.content }

/-- A row with other contents in its cells. -/
def Row.withContent (f : List Node → List Node) (row : Row) : Row :=
  { row with cells := row.cells.map (Cell.withContent f) }

/-- What keeps the marks of cells. -/
def KeepsMarks (f : List Node → List Node) : Prop :=
  ∀ mark content, startsWithMark mark (f content) = startsWithMark mark content

variable {f : List Node → List Node}

theorem map_cells_eq {g : Node → Node} {row : Row}
    (h : ∀ c ∈ row.cells, g c.node = (c.withContent f).node) :
    (row.cells.map Cell.node).map g = (row.withContent f).cells.map Cell.node := by
  rw [Row.withContent, List.map_map, List.map_map]
  exact List.map_congr_left h

theorem chain_withContent (hf : KeepsMarks f) (cells : List Cell) :
    leftward.chain (cells.map (Cell.withContent f)) =
      (leftward.chain cells).map (Cell.withContent f) := by
  have hjoins : ∀ c d, leftward.joins (Cell.withContent f c) (Cell.withContent f d) =
      leftward.joins c d := fun c d =>
    congrArg (· && !c.suppressed) (hf '<' d.content)
  induction cells with
  | nil => rfl
  | cons c cells ih =>
      rw [List.map_cons, Joining.chain, Joining.chain, ih]
      cases leftward.chain cells with
      | nil => rfl
      | cons d ds =>
          rw [List.map_cons]
          dsimp only
          rw [Joining.pair, Joining.pair, hjoins]
          split
          · rfl
          · rfl

theorem joinUp_withContent (hf : KeepsMarks f) (above cells : List Cell) :
    joinUp (above.map (Cell.withContent f)) (cells.map (Cell.withContent f)) =
      ((joinUp above cells).1.map (Cell.withContent f),
        (joinUp above cells).2.map (Cell.withContent f)) := by
  have hjoins : ∀ a c, (Cell.withContent f a).joinsBelow (Cell.withContent f c) =
      a.joinsBelow c := fun a c =>
    congrArg (· && !c.suppressed && !a.suppressed) (hf '^' c.content)
  induction above generalizing cells with
  | nil => cases cells <;> rfl
  | cons a above ih =>
      cases cells with
      | nil => rfl
      | cons c cells =>
          rw [List.map_cons, List.map_cons, joinUp, joinUp, ih, hjoins]
          split
          · rfl
          · rfl

theorem joinRows_withContent (hf : KeepsMarks f) (rows : List Row) :
    joinRows (rows.map (Row.withContent f)) = (joinRows rows).map (Row.withContent f) := by
  induction rows with
  | nil => rfl
  | cons row rows ih =>
      rw [List.map_cons, joinRows, joinRows, ih]
      cases joinRows rows with
      | nil => rfl
      | cons below others =>
          simp only [List.map_cons, Row.withContent, joinUp_withContent hf]

theorem joined_withContent (hf : KeepsMarks f) (row : Row) :
    (row.withContent f).joined = row.joined.withContent f := by
  rw [Row.joined, Row.withContent, chain_withContent hf]
  rfl

/-- Merging the cells of a table does not depend on what the cells hold, as long
as they have the same marks. -/
theorem mergeTable_map {g : Node → Node} (hf : KeepsMarks f)
    (hg : ∀ row : Row, row.node.isArranged = true → g row.node = (row.withContent f).node)
    {headed : Bool} {alignments : List (Option String)} {ns : List Node}
    (h : allArranged (.table headed alignments) ns = true) :
    (mergeTable (ns.map g)).1.value = (mergeTable ns).1.value.map g := by
  have hvalue := allArranged_of_grown (mergeTable_grown ns) h
  obtain ⟨rows, rfl⟩ := exists_arrangedRows h
  have hrows : ∀ {rows : List Row},
      allArranged (.table headed alignments) (rows.map Row.node) = true →
        (rows.map Row.node).map g = (rows.map (Row.withContent f)).map Row.node := by
    intro rows h
    rw [List.map_map, List.map_map]
    refine List.map_congr_left fun row hrow => hg row ?_
    exact (allArranged_iff.1 h _ (List.mem_map_of_mem hrow)).2
  rw [(mergeTable_node rows).2] at hvalue ⊢
  rw [hrows h, hrows hvalue, (mergeTable_node _).2, ← joinRows_withContent hf, List.map_map,
    List.map_map]
  refine congrArg (fun rows => (joinRows rows).map Row.node) (List.map_congr_left fun row _ => ?_)
  exact joined_withContent hf row

end TableSpans

/-! ## What each transform does to leaves, cells and marks -/

theorem startsWithMark_map {g : Node → Node} (hg : ImageAttributes.KeepsLeaves g) (mark : Char)
    (cs : List Node) :
    TableSpans.startsWithMark mark (cs.map g) = TableSpans.startsWithMark mark cs := by
  cases cs with
  | nil => rfl
  | cons n ns =>
      cases n with
      | leaf l m => rw [List.map_cons, hg.leaf]; cases l <;> rfl
      | branch k cs m =>
          obtain ⟨k', cs', m', heq⟩ := hg.branch k cs m
          rw [List.map_cons, heq]
          rfl

namespace ImageAttributes

theorem keepsLeaves_attached : KeepsLeaves attached where
  leaf := attached_leaf
  branch k cs m := by
    have hattach : ∀ cs, ∃ cs', (attach (.branch k cs m)).tree = .branch k cs' m := by
      intro cs
      rw [attach]
      dsimp only
      split
      · split
        · exact ⟨_, rfl⟩
        · exact ⟨_, rfl⟩
      · exact ⟨_, rfl⟩
    rw [attached, attachTree]
    dsimp only
    split
    · obtain ⟨cs', htree⟩ := hattach cs
      exact ⟨k, cs', m, htree⟩
    · obtain ⟨cs', htree⟩ := hattach (attachTrees cs).1
      exact ⟨k, cs', m, htree⟩

/-- A row of cells keeps its cells, with the blocks in each of them moved. -/
theorem attached_row (row : TableSpans.Row) (h : row.node.isArranged = true) :
    attached row.node = (row.withContent fun content => moved (content.map attached)).node := by
  have hcells := allArranged_iff.1 (isArranged_branch ▸ h)
  have hcell : ∀ c ∈ row.cells, attached c.node =
      (c.withContent fun content => moved (content.map attached)).node := fun c hc =>
    attached_branch (hcells _ (List.mem_map_of_mem hc)).2
  rw [TableSpans.Row.node, attached_branch h, TableSpans.map_cells_eq hcell, moved_of_branches]
  · rfl
  · exact List.forall_mem_map.2 fun c _ => ⟨_, _, _, rfl⟩

theorem keepsMarks_attached : TableSpans.KeepsMarks fun content => moved (content.map attached) :=
  fun mark content => by rw [startsWithMark_moved, startsWithMark_map keepsLeaves_attached]

end ImageAttributes

namespace TableSpans

theorem keepsLeaves_merged : ImageAttributes.KeepsLeaves merged where
  leaf := merged_leaf
  branch k cs m := by
    have hgrown := merged_grown (.branch k cs m)
    generalize merged (.branch k cs m) = n at hgrown
    cases hgrown with
    | branch hkind hchildren => exact ⟨_, _, _, rfl⟩

variable {k : Branch} {cs : List Node}

theorem joinedIn_grown (k : Branch) (cs : List Node) : List.Forall₂ Grown cs (joinedIn k cs) := by
  cases k with
  | table headed alignments => exact mergeTable_grown cs
  | _ => exact grown_all_refl cs

theorem joinedIn_map {g : Node → Node} {f : List Node → List Node} (hf : KeepsMarks f)
    (hg : ∀ row : Row, row.node.isArranged = true → g row.node = (row.withContent f).node)
    (h : allArranged k cs = true) : joinedIn k (cs.map g) = (joinedIn k cs).map g := by
  cases k with
  | table headed alignments => exact mergeTable_map hf hg h
  | _ => rfl

/-- Among the rows of a table there is no block to move. -/
theorem joinedIn_moved (h : allArranged k cs = true) :
    joinedIn k (ImageAttributes.moved cs) = ImageAttributes.moved (joinedIn k cs) := by
  cases k with
  | table headed alignments =>
      have hrows : ∀ {ns : List Node}, allArranged (.table headed alignments) ns = true →
          ImageAttributes.moved ns = ns := by
        intro ns h
        refine ImageAttributes.moved_of_branches fun n hn => ?_
        obtain ⟨isHeader, cells, m, rfl⟩ := eq_row (allArranged_iff.1 h n hn).1
        exact ⟨_, _, _, rfl⟩
      rw [hrows h, hrows (allArranged_of_grown (joinedIn_grown _ cs) h)]
  | _ => rfl

end TableSpans

namespace DirectiveMarkup

variable (markup : List (String × String))

theorem keepsLeaves_substituted : ImageAttributes.KeepsLeaves (substituted markup) where
  leaf l m := (substituted_of_none markup rfl).trans (replaced_leaf markup l m)
  branch k cs m := by
    rw [substituted]
    split
    · exact ⟨_, _, _, rfl⟩
    · rw [replaced, replaceBelow]
      dsimp only
      split
      · exact ⟨_, _, _, rfl⟩
      · exact ⟨_, _, _, rfl⟩

theorem substituted_row (row : TableSpans.Row) (h : row.node.isArranged = true) :
    substituted markup row.node =
      (row.withContent fun content => content.map (substituted markup)).node := by
  have hcells := allArranged_iff.1 (isArranged_branch ▸ h)
  have hcell : ∀ c ∈ row.cells, substituted markup c.node =
      (c.withContent fun content => content.map (substituted markup)).node := fun c hc =>
    (substituted_of_none markup rfl).trans
      (replaced_branch markup (hcells _ (List.mem_map_of_mem hc)).2)
  rw [TableSpans.Row.node, substituted_of_none markup rfl, replaced_branch markup h,
    TableSpans.map_cells_eq hcell]
  rfl

theorem keepsMarks_substituted :
    TableSpans.KeepsMarks fun content => content.map (substituted markup) :=
  fun mark content => startsWithMark_map (keepsLeaves_substituted markup) mark content

theorem markupFor?_of_kind_eq {n n' : Node} (h : n'.kind = n.kind) :
    markupFor? markup n' = markupFor? markup n := by
  cases n with
  | leaf l m =>
      cases n' with
      | leaf l' m' => rfl
      | branch k' cs' m' => cases h
  | branch k cs m =>
      cases n' with
      | leaf l' m' => cases h
      | branch k' cs' m' =>
          cases h
          cases k <;> rfl

theorem markupFor?_of_grown {n n' : Node} (h : TableSpans.Grown n n') :
    markupFor? markup n' = markupFor? markup n := by
  cases h with
  | leaf l m => rfl
  | branch hkind hchildren =>
      cases hkind with
      | refl k => exact markupFor?_of_kind_eq markup rfl
      | cell => rfl

/-- What leaves directives and markup alone can be done before or after replacing
a node. -/
theorem substituted_comm {g : Node → Node} {n : Node}
    (hmarkup : ∀ source, g (.ofTypst source) = .ofTypst source)
    (hsame : markupFor? markup (g n) = markupFor? markup n)
    (hbelow : replaced markup (g n) = g (replaced markup n)) :
    substituted markup (g n) = g (substituted markup n) := by
  cases hn : markupFor? markup n with
  | some source =>
      rw [substituted_of_some markup hn, substituted_of_some markup (hsame.trans hn), hmarkup]
  | none => rw [substituted_of_none markup hn, substituted_of_none markup (hsame.trans hn), hbelow]

end DirectiveMarkup

/-! ## Two at a time -/

section

open ImageAttributes (attached attached_leaf attached_branch attached_arranged moved_map)
open TableSpans (merged merged_leaf merged_branch merged_grown allArranged_merged joinedIn_map)
open DirectiveMarkup (replaced substituted replaced_leaf replaced_branch substituted_comm)

variable {n : Node} (markup : List (String × String))

theorem map_map_comm {g g' : Node → Node} {cs : List Node} (h : ∀ c ∈ cs, g' (g c) = g (g' c)) :
    (cs.map g).map g' = (cs.map g').map g := by
  rw [List.map_map, List.map_map]
  exact List.map_congr_left h

theorem merged_attached (h : n.isArranged = true) : merged (attached n) = attached (merged n) := by
  induction n using Node.induction with
  | leaf l m => rw [attached_leaf, merged_leaf, attached_leaf]
  | branch k cs m ih =>
      have hcs := isArranged_branch ▸ h
      have hswap := map_map_comm fun c hc => ih c hc (allArranged_iff.1 hcs c hc).2
      have hmerged := allArranged_merged hcs
      have htree := (attached_arranged h).2.2
      have htree' := TableSpans.isArranged_merged h
      rw [attached_branch h] at htree ⊢
      rw [merged_branch h] at htree' ⊢
      rw [merged_branch htree, attached_branch htree', ← moved_map TableSpans.keepsLeaves_merged,
        hswap, TableSpans.joinedIn_moved (ImageAttributes.allArranged_attached hmerged),
        joinedIn_map ImageAttributes.keepsMarks_attached ImageAttributes.attached_row hmerged]

theorem replaced_attached (h : n.isArranged = true) :
    replaced markup (attached n) = attached (replaced markup n) := by
  induction n using Node.induction with
  | leaf l m => rw [attached_leaf, replaced_leaf, attached_leaf]
  | branch k cs m ih =>
      have hcs := allArranged_iff.1 (isArranged_branch ▸ h)
      have hswap : (cs.map attached).map (substituted markup) =
          (cs.map (substituted markup)).map attached := by
        refine map_map_comm fun c hc => ?_
        have hkind := (attached_arranged (hcs c hc).2).2.1
        exact substituted_comm markup (fun _ => rfl)
          (DirectiveMarkup.markupFor?_of_kind_eq markup hkind) (ih c hc (hcs c hc).2)
      have htree := (attached_arranged h).2.2
      have htree' := (DirectiveMarkup.isArranged_replaced markup h).2
      rw [attached_branch h] at htree ⊢
      rw [replaced_branch markup h] at htree' ⊢
      rw [replaced_branch markup htree, attached_branch htree',
        ← moved_map (DirectiveMarkup.keepsLeaves_substituted markup), hswap]

theorem replaced_merged (h : n.isArranged = true) :
    replaced markup (merged n) = merged (replaced markup n) := by
  induction n using Node.induction with
  | leaf l m => rw [merged_leaf, replaced_leaf, merged_leaf]
  | branch k cs m ih =>
      have hcs := isArranged_branch ▸ h
      have hswap : (cs.map merged).map (substituted markup) =
          (cs.map (substituted markup)).map merged := by
        refine map_map_comm fun c hc => ?_
        exact substituted_comm markup (fun _ => rfl)
          (DirectiveMarkup.markupFor?_of_grown markup (merged_grown c))
          (ih c hc (allArranged_iff.1 hcs c hc).2)
      have htree := TableSpans.isArranged_merged h
      have htree' := (DirectiveMarkup.isArranged_replaced markup h).2
      rw [merged_branch h] at htree ⊢
      rw [replaced_branch markup h] at htree' ⊢
      rw [replaced_branch markup htree, merged_branch htree', ← hswap,
        joinedIn_map (DirectiveMarkup.keepsMarks_substituted markup)
          (DirectiveMarkup.substituted_row markup) (allArranged_merged hcs)]

end

/-! ## Documents -/

namespace Transform

variable {markup : List (String × String)} {document : Node}

/-- The program's own transforms that rewrite what a document holds, with the
markup that directives stand for. -/
def inPlace (markup : List (String × String)) : List Transform :=
  [.imageAttributes, .tableSpans, .directives markup]

theorem mem_inPlace {t : Transform} :
    t ∈ inPlace markup ↔ t = .imageAttributes ∨ t = .tableSpans ∨ t = .directives markup := by
  rw [inPlace, List.mem_cons, List.mem_cons, List.mem_singleton]

theorem tree_run_imageAttributes (h : document.isDocument = true) :
    (imageAttributes.run document).tree = ImageAttributes.attached document := by
  rw [run_of_isDocument _ h, apply, ImageAttributes.apply]
  split
  · rfl
  · rfl

theorem tree_run_tableSpans (h : document.isDocument = true) :
    (tableSpans.run document).tree = TableSpans.merged document := by
  rw [run_of_isDocument _ h]
  rfl

theorem tree_run_directives (h : document.isDocument = true) :
    ((directives markup).run document).tree = DirectiveMarkup.replaced markup document := by
  rw [run_of_isDocument _ h, apply, DirectiveMarkup.apply]
  split
  · rfl
  · rfl

theorem isDocument_run {t : Transform} (ht : t ∈ inPlace markup) (h : document.isDocument = true)
    (hdone : (t.run document).failure = none) : (t.run document).tree.isDocument = true := by
  rw [run_of_isDocument t h] at hdone ⊢
  refine isDocument_apply (fun name rewrite heq => ?_) h hdone
  rw [heq, mem_inPlace] at ht
  simp at ht

/-- None of the transforms fails on an arranged document, and it stays one. -/
theorem run_arranged {t : Transform} (ht : t ∈ inPlace markup)
    (h : document.isArrangedDocument = true) :
    (t.run document).failure = none ∧ (t.run document).tree.isArrangedDocument = true := by
  obtain ⟨hroot, harranged⟩ := Bool.and_eq_true_iff.1 h
  have hrun : (t.run document).failure = none ∧ (t.run document).tree.isArranged = true := by
    rcases mem_inPlace.1 ht with rfl | rfl | rfl
    · obtain ⟨hrefusal, -, htree⟩ := ImageAttributes.attached_arranged harranged
      rw [tree_run_imageAttributes hroot, run_of_isDocument _ hroot, apply, ImageAttributes.apply]
      simp only [hrefusal]
      exact ⟨trivial, htree⟩
    · rw [tree_run_tableSpans hroot, run_of_isDocument _ hroot]
      exact ⟨TableSpans.mergeTree_failure harranged, TableSpans.isArranged_merged harranged⟩
    · have hrefusal := DirectiveMarkup.replaceBelow_refusal markup harranged
      rw [tree_run_directives hroot, run_of_isDocument _ hroot, apply, DirectiveMarkup.apply]
      simp only [hrefusal]
      exact ⟨trivial, (DirectiveMarkup.isArranged_replaced markup harranged).2⟩
  rw [isArrangedDocument, hrun.2, isDocument_run ht hroot hrun.1]
  exact ⟨hrun.1, rfl⟩

/-- Two of the transforms arrive at one tree in either order. -/
theorem tree_run_comm {t u : Transform} (ht : t ∈ inPlace markup) (hu : u ∈ inPlace markup)
    (h : document.isArrangedDocument = true) :
    (u.run (t.run document).tree).tree = (t.run (u.run document).tree).tree := by
  obtain ⟨hroot, harranged⟩ := Bool.and_eq_true_iff.1 h
  have hkept : ∀ t ∈ inPlace markup, (t.run document).tree.isDocument = true := fun t ht =>
    isDocument_run ht hroot (run_arranged ht h).1
  have hattached := hkept .imageAttributes (mem_inPlace.2 (.inl rfl))
  have hmerged := hkept .tableSpans (mem_inPlace.2 (.inr (.inl rfl)))
  have hreplaced := hkept (.directives markup) (mem_inPlace.2 (.inr (.inr rfl)))
  have hspans : (tableSpans.run (imageAttributes.run document).tree).tree =
      (imageAttributes.run (tableSpans.run document).tree).tree := by
    rw [tree_run_tableSpans hattached, tree_run_imageAttributes hmerged,
      tree_run_imageAttributes hroot, tree_run_tableSpans hroot, merged_attached harranged]
  have hblocks : ((directives markup).run (imageAttributes.run document).tree).tree =
      (imageAttributes.run ((directives markup).run document).tree).tree := by
    rw [tree_run_directives hattached, tree_run_imageAttributes hreplaced,
      tree_run_imageAttributes hroot, tree_run_directives hroot, replaced_attached markup harranged]
  have hcells : ((directives markup).run (tableSpans.run document).tree).tree =
      (tableSpans.run ((directives markup).run document).tree).tree := by
    rw [tree_run_directives hmerged, tree_run_tableSpans hreplaced, tree_run_tableSpans hroot,
      tree_run_directives hroot, replaced_merged markup harranged]
  rcases mem_inPlace.1 ht with rfl | rfl | rfl
  · rcases mem_inPlace.1 hu with rfl | rfl | rfl
    exacts [rfl, hspans, hblocks]
  · rcases mem_inPlace.1 hu with rfl | rfl | rfl
    exacts [hspans.symm, rfl, hcells]
  · rcases mem_inPlace.1 hu with rfl | rfl | rfl
    exacts [hblocks.symm, hcells.symm, rfl]

end Transform

namespace Pipeline

open Transform (inPlace)

variable {markup : List (String × String)} {document : Node}

theorem result_rewrite_pair {t u : Transform} (ht : (t.run document).failure = none)
    (hu : (u.run (t.run document).tree).failure = none) :
    (rewrite [t, u] document).result = .ok (u.run (t.run document).tree).tree := by
  simp only [rewrite, Transform.runAll, ht, hu]

/-- Moving attribute blocks, merging cells and replacing directives commute: any
two of them rewrite an arranged document to the same tree in either order, and so
it compiles to the same. -/
theorem rewrite_comm (markup : List (String × String)) {t u : Transform}
    (ht : t ∈ [.imageAttributes, .tableSpans, .directives markup])
    (hu : u ∈ [.imageAttributes, .tableSpans, .directives markup])
    {document : Node} (h : document.isArrangedDocument = true) :
    ∃ tree, (rewrite [t, u] document).result = .ok tree ∧
      (rewrite [u, t] document).result = .ok tree ∧
      ∀ options, (rewrite [t, u] document >>= compile options).result =
        (rewrite [u, t] document >>= compile options).result := by
  obtain ⟨htfailure, htdocument⟩ := Transform.run_arranged ht h
  obtain ⟨hufailure, hudocument⟩ := Transform.run_arranged hu h
  have hforth := result_rewrite_pair htfailure (Transform.run_arranged hu htdocument).1
  have hback := result_rewrite_pair hufailure (Transform.run_arranged ht hudocument).1
  rw [← Transform.tree_run_comm ht hu h] at hback
  refine ⟨_, hforth, hback, fun options => ?_⟩
  rw [Attempt.result_bind_of_ok hforth, Attempt.result_bind_of_ok hback]

/-- An image whose block stands beside a directive, in a cell that is merged, in a
table inside a directive that is replaced. -/
def entangledDocument : Node :=
  let blocks : List Node :=
    [.ofLeaf (.image "u" "" none []), .ofText "\x7bwidth=50%\x7d",
      .ofBranch (.leafDirective "pause" []) [.ofText "<"]]
  let table : Node := .ofBranch (.table true [])
    [.ofBranch (.tableRow true)
        [.ofBranch (.tableCell 1 1 false none) blocks,
          .ofBranch (.tableCell 1 1 false none) [.ofText "<", .ofLeaf (.image "v" "" none [])]],
      .ofBranch (.tableRow false) [.ofBranch (.tableCell 0 0 false none) [.ofText "^"]]]
  .ofBranch .document
    [table, .ofBranch (.list false none true) [.ofBranch .listItem blocks],
      .ofBranch (.leafDirective "meanwhile" []) [table], .ofBranch .document [table]]

theorem rewrite_comm_of_entangled :
    entangledDocument.isArrangedDocument = true ∧
      ∃ tree, (rewrite [.imageAttributes, .tableSpans] entangledDocument).result = .ok tree ∧
        (rewrite [.tableSpans, .imageAttributes] entangledDocument).result = .ok tree ∧
        ∀ options,
          (rewrite [.imageAttributes, .tableSpans] entangledDocument >>= compile options).result =
            (rewrite [.tableSpans, .imageAttributes] entangledDocument >>=
              compile options).result := by
  have harranged : entangledDocument.isArrangedDocument = true := by decide
  exact ⟨harranged, rewrite_comm DirectiveMarkup.slideControls (.head _) (.tail _ (.head _))
    harranged⟩

end Pipeline

end TypstPress
