import TypstPress.Proofs.Document.Essence
import TypstPress.Proofs.Transform.Recasting
import TypstPress.Proofs.Transform.WellFormed

/-!
# Transforms see the essence

What a transform makes of a tree, as far as the essence goes, it makes of the
essence already. Merging and replacing do not even know the difference: they can
be run before or after what does not matter is left out (`mergeTree_essence`,
`replaceBelow_essence`). Moving attribute blocks is not as simple, because a
block may bring in attributes that an essence does not have; there the two agree
once the essence is taken again (`attachTree_essence`).

Refusals and failures are among what stays the same, and so are the records. A
row of transforms that is run on two trees with one essence therefore stops in
both at the same place, or arrives at two trees with one essence
(`runAll_congr`).
-/

namespace TypstPress

open Node

variable (names : List String) (known : String → Bool)

/-- The rewrite with the essence of its tree. -/
def Rewrite.essence (r : Rewrite) : Rewrite := { r with tree := r.tree.essence names known }

theorem Node.essence_ofTypst (source : String) :
    (Node.ofTypst source).essence names known = .ofTypst source := by
  rw [ofTypst, ofBranch, essence_branch, essences, essences, ofLeaf, essence_leaf]
  rfl

theorem insertPreamble_essence (source : String) (n : Node) :
    insertPreamble source (n.essence names known) =
      (insertPreamble source n).essence names known := by
  cases n with
  | leaf l m => exact (essence_leaf l m).trans (essence_leaf l m).symm
  | branch k cs m =>
      rw [essence_branch, insertPreamble, insertPreamble]
      split
      · rw [essence_branch]
      · rw [essence_branch, essences, essence_ofTypst]

/-! ## Directives -/

namespace DirectiveMarkup

variable (markup : List (String × String))

theorem markupFor?_essence (n : Node) :
    markupFor? markup (n.essence names known) = markupFor? markup n := by
  cases n with
  | leaf l m => rw [essence_leaf]; rfl
  | branch k cs m => rw [essence_branch]; cases k <;> rfl

theorem countMapped_essences (ns : List Node) :
    countMapped markup (essences names known ns) = countMapped markup ns := by
  rw [countMapped, countMapped, essences_eq_map, List.countP_map]
  exact List.countP_congr fun n _ => by rw [Function.comp_apply, markupFor?_essence]

/-- The outcome with the essence of its tree. -/
def Replaced.essence (replaced : Replaced) : Replaced :=
  { replaced with tree := replaced.tree.essence names known }

mutual

theorem replaceBelow_essence (n : Node) :
    replaceBelow markup (n.essence names known) =
      (replaceBelow markup n).essence names known := by
  match n with
  | .leaf l m => rw [essence_leaf, replaceBelow, replaceBelow, Replaced.essence, essence_leaf]
  | .branch k cs m =>
      rw [essence_branch, replaceBelow, replaceBelow, countMapped_essences,
        Branch.acceptsChildren_essence, Branch.name_essence, replaceAmong_essences cs]
      split
      · rw [Replaced.essence, essence_branch]
      · rw [Replaced.essence, essence_branch]

theorem replaceAmong_essences (ns : List Node) :
    replaceAmong markup (essences names known ns) =
      (essences names known (replaceAmong markup ns).1, (replaceAmong markup ns).2) := by
  match ns with
  | [] => rw [essences, replaceAmong, essences]
  | n :: ns =>
      rw [essences, replaceAmong, replaceAmong, markupFor?_essence, replaceAmong_essences ns]
      cases hmarkup : markupFor? markup n with
      | some source => simp only [essences, essence_ofTypst]
      | none =>
          rw [replaceBelow_essence n]
          cases hrefusal : (replaceBelow markup n).refusal with
          | none => simp only [Replaced.essence, hrefusal, essences]
          | some kindName =>
              have hrest : (essences names known ns).map
                    (fun n => ((markupFor? markup n).map Node.ofTypst).getD n) =
                  essences names known
                    (ns.map fun n => ((markupFor? markup n).map Node.ofTypst).getD n) := by
                rw [essences_eq_map, essences_eq_map, List.map_map, List.map_map]
                refine List.map_congr_left fun n _ => ?_
                rw [Function.comp_apply, Function.comp_apply, markupFor?_essence]
                cases markupFor? markup n with
                | none => rfl
                | some source => exact (essence_ofTypst names known source).symm
              simp only [Replaced.essence, hrefusal, essences, hrest]

end

theorem apply_essence (document : Node) :
    apply markup (document.essence names known) =
      (apply markup document).essence names known := by
  rw [apply, apply, replaceBelow_essence]
  simp only [Replaced.essence]
  cases (replaceBelow markup document).refusal with
  | some kindName => rfl
  | none => rfl

end DirectiveMarkup

/-! ## Spans -/

namespace TableSpans

theorem startsWithMark_essences (mark : Char) (cs : List Node) :
    startsWithMark mark (essences names known cs) = startsWithMark mark cs := by
  cases cs with
  | nil => rw [essences]
  | cons n ns =>
      rw [essences]
      cases n with
      | leaf l m => rw [essence_leaf]; cases l <;> rfl
      | branch k cs m => rw [essence_branch]; rfl

theorem isMark_essence (mark : Char) (n : Node) :
    isMark mark (n.essence names known) = isMark mark n := by
  have hname := n.kindName_essence names known
  unfold isMark
  rw [hname]
  cases n with
  | leaf l m => rw [essence_leaf]; cases l <;> rfl
  | branch k cs m =>
      have hmark := startsWithMark_essences names known mark cs
      rw [essence_branch]
      cases k <;> first | rfl | exact congrArg Except.ok hmark

theorem recastsRows_essence : RecastsRows (essence names known) (essence names known) where
  cell alignment cs m :=
    ⟨none, essences names known cs, [], fun mark => startsWithMark_essences names known mark cs,
      fun _ _ _ => essence_branch _ cs m⟩
  noCell n h := by
    cases n with
    | leaf l m => rw [essence_leaf]; rfl
    | branch k cs m =>
        rw [essence_branch]
        cases k with
        | tableCell => cases h
        | _ => rfl
  isMark := isMark_essence names known
  kindName := kindName_essence names known
  rowCells? row := by
    cases row with
    | leaf l m => rw [essence_leaf]; rfl
    | branch k cells m =>
        rw [essence_branch, essences_eq_map]
        cases k <;> rfl
  rowKindName := kindName_essence names known
  putChildren cells row := by
    cases row with
    | leaf l m => exact (essence_leaf l m).trans (essence_leaf l m).symm
    | branch k cells' m =>
        rw [essence_branch, TableSpans.putChildren, TableSpans.putChildren, essence_branch,
          essences_eq_map]

theorem mergeTable_essences (rows : List Node) :
    mergeTable (essences names known rows) =
      ((mergeTable rows).1.map (essences names known), (mergeTable rows).2) := by
  have hmap : List.map (essence names known) = essences names known :=
    funext fun ns => (essences_eq_map names known ns).symm
  rw [essences_eq_map, mergeTable_recast (recastsRows_essence names known), hmap]

mutual

theorem mergeTree_essence (n : Node) :
    mergeTree (n.essence names known) = (mergeTree n).essence names known := by
  match n with
  | .leaf l m => rw [essence_leaf, mergeTree, mergeTree, Rewrite.essence, essence_leaf]
  | .branch k rows m =>
      have hbelow := mergeTrees_essences rows
      rw [essence_branch]
      by_cases hk : ∃ headed alignments, k = .table headed alignments
      · obtain ⟨headed, alignments, rfl⟩ := hk
        have htable : (Branch.table headed alignments).essence known = .table headed alignments :=
          rfl
        rw [htable, mergeTree, mergeTree, mergeTable_essences, hbelow]
        cases hfailure : (mergeTable rows).1.failure with
        | some f => simp only [Merge.map, hfailure, Rewrite.essence, essence_branch, htable]
        | none =>
            simp only [Merge.map, hfailure, mergeTable_essences, Rewrite.essence, essence_branch,
              htable]
      · have hne : ∀ headed alignments, k ≠ .table headed alignments :=
          fun headed alignments heq => hk ⟨headed, alignments, heq⟩
        have hne' : ∀ headed alignments, k.essence known ≠ .table headed alignments := by
          intro headed alignments heq
          have hlayout := k.layout_essence known
          rw [heq] at hlayout
          obtain ⟨headed', rfl⟩ := layout_eq_table hlayout.symm
          exact hne _ _ rfl
        rw [mergeTree, mergeTree, hbelow]
        · simp only [Rewrite.essence, essence_branch]
        · exact fun headed alignments heq => hne headed alignments heq
        · exact fun headed alignments heq => hne' headed alignments heq

theorem mergeTrees_essences (ns : List Node) :
    mergeTrees (essences names known ns) =
      { mergeTrees ns with trees := essences names known (mergeTrees ns).trees } := by
  match ns with
  | [] => simp only [essences, mergeTrees]
  | n :: ns =>
      rw [essences, mergeTrees, mergeTrees, mergeTree_essence n, mergeTrees_essences ns]
      cases hfailure : (mergeTree n).failure with
      | some f => simp only [Rewrite.essence, hfailure, essences]
      | none => simp only [Rewrite.essence, hfailure, essences]

end

end TableSpans

/-! ## Attribute blocks -/

namespace ImageAttributes

theorem splitText?_essence (n : Node) :
    splitText? (n.essence names known) =
      (splitText? n).map fun r => (r.1, r.2.1, r.2.2.essence names known) := by
  cases n with
  | branch k cs m => rw [essence_branch]; rfl
  | leaf l m =>
      rw [essence_leaf]
      cases l with
      | text content =>
          rw [Leaf.essence, splitText?, splitText?, Option.map_map]
          · refine Option.map_congr fun r _ => ?_
            rw [Function.comp_apply, essence_leaf]
            rfl
          all_goals
            intros
            contradiction
      | _ => rfl

/-- A block may bring in attributes that the essence leaves out again. -/
theorem addTo?_essence (attributes : Attributes) (n : Node) :
    (addTo? attributes (n.essence names known)).map (essence names known) =
      (addTo? attributes n).map (essence names known) := by
  have hupdate : ∀ old : Attributes,
      ((old.restricted names).update attributes).restricted names =
        (old.update attributes).restricted names := fun old =>
    Attributes.restricted_congr fun _ hname =>
      Attributes.value?_update (Attributes.value?_restricted hname old) attributes
  cases n with
  | branch k cs m => rw [essence_branch]; rfl
  | leaf l m =>
      rw [essence_leaf]
      cases l with
      | image url altText title old =>
          simp only [Leaf.essence, addTo?, Option.map_some, essence_leaf, hupdate]
      | imageReference identifier label form altText old =>
          simp only [Leaf.essence, addTo?, Option.map_some, essence_leaf, hupdate]
          split <;> rfl
      | _ => rfl

/-- The child with the essence of its node. -/
def Child.essence (child : Child) : Child :=
  { child with node := child.node.essence names known }

theorem moveBlocks_essences (cs : List Node) :
    (moveBlocks (essences names known cs)).1.map (Child.essence names known) =
        (moveBlocks cs).1.map (Child.essence names known) ∧
      (moveBlocks (essences names known cs)).2 = (moveBlocks cs).2 := by
  induction cs using moveBlocks.induct with
  | case1 => rw [essences]; exact ⟨rfl, rfl⟩
  | case2 n =>
      rw [essences, essences, moveBlocks, moveBlocks]
      simp only [List.map_cons, List.map_nil, Child.essence, essence_essence, and_self]
  | case3 n next rest attributes remaining shortened hsplit image hadd children moved hmoved ih =>
      have himage := addTo?_essence names known attributes n
      rw [hadd] at himage
      obtain ⟨image', hadd', himage'⟩ := Option.map_eq_some_iff.1 himage
      rw [hmoved] at ih
      simp only [essences, moveBlocks, splitText?_essence, hsplit, hadd, hadd', hmoved,
        Option.map_some, List.map_cons, Child.essence, himage', essence_essence, ih, and_self]
  | case4 n next rest attributes remaining shortened hsplit hadd children moved hmoved ih =>
      have himage := addTo?_essence names known attributes n
      rw [hadd] at himage
      have hadd' := Option.map_eq_none_iff.1 himage
      rw [hmoved, essences] at ih
      simp only [essences, moveBlocks, splitText?_essence, hsplit, hadd, hadd', hmoved,
        Option.map_some, List.map_cons, Child.essence, essence_essence, ih, and_self]
  | case5 n next rest hsplit children moved hmoved ih =>
      rw [hmoved, essences] at ih
      simp only [essences, moveBlocks, splitText?_essence, hsplit, hmoved, Option.map_none,
        List.map_cons, Child.essence, essence_essence, ih, and_self]

/-- The outcome with the essence of its tree. -/
def Moved.essence (moved : Moved) : Moved :=
  { moved with tree := moved.tree.essence names known }

theorem essences_kept (children : List Child) :
    essences names known ((children.filter (!·.usedUp)).map (·.node)) =
      ((children.map (Child.essence names known)).filter (!·.usedUp)).map (·.node) := by
  rw [essences_eq_map, List.filter_map, List.map_map, List.map_map]
  rfl

theorem essences_nodes (children : List Child) :
    essences names known (children.map (·.node)) =
      (children.map (Child.essence names known)).map (·.node) := by
  rw [essences_eq_map, List.map_map, List.map_map]
  rfl

theorem attach_essence (n : Node) :
    (attach (n.essence names known)).essence names known =
      (attach n).essence names known := by
  cases n with
  | leaf l m => simp only [essence_leaf, attach, Moved.essence, Leaf.essence_essence]
  | branch k cs m =>
      obtain ⟨hchildren, hcount⟩ := moveBlocks_essences names known cs
      have hany : (moveBlocks (essences names known cs)).1.any (·.usedUp) =
          (moveBlocks cs).1.any (·.usedUp) := by
        have husedUp := congrArg (fun children => children.any fun child => child.usedUp) hchildren
        rwa [List.any_map, List.any_map] at husedUp
      -- whether a node is refused depends on whether a text of it was used up
      rw [essence_branch, attach, attach]
      simp only [hany, hcount, Branch.acceptsChildren_essence, Branch.name_essence]
      split
      · split
        · simp only [Moved.essence, essence_branch, Branch.essence_essence, essences_kept,
            hchildren]
        · simp only [Moved.essence, essence_branch, Branch.essence_essence, essences_nodes,
            hchildren]
      · simp only [Moved.essence, essence_branch, Branch.essence_essence, essences_nodes,
          hchildren]

variable {names known}

/-- Nodes with one essence still have one when their blocks are moved. -/
theorem attach_congr {n n' : Node} (h : n.essence names known = n'.essence names known) :
    (attach n).essence names known = (attach n').essence names known := by
  rw [← attach_essence, h, attach_essence]

mutual

theorem attachTree_essence (n : Node) :
    (attachTree (n.essence names known)).essence names known =
      (attachTree n).essence names known := by
  match n with
  | .leaf l m => simp only [essence_leaf, attachTree, Moved.essence, Leaf.essence_essence]
  | .branch k cs m =>
      have hhere := attach_essence names known (.branch k cs m)
      have hbelow := attachTrees_essences cs
      rw [essence_branch] at hhere ⊢
      have hrefusal := congrArg Moved.refusal hhere
      have hcount := congrArg Moved.count hhere
      simp only [Moved.essence] at hrefusal hcount
      rw [attachTree, attachTree]
      simp only [hrefusal, hcount]
      cases hrefused : (attach (.branch k cs m)).refusal with
      | some kindName => exact hhere
      | none =>
          have hparts : (Node.branch (k.essence known)
                (attachTrees (essences names known cs)).1 []).essence names known =
              (Node.branch k (attachTrees cs).1 m).essence names known := by
            rw [essence_branch, essence_branch, Branch.essence_essence, hbelow.1]
          have hwhole := congrArg Moved.tree (attach_congr hparts)
          simp only [Moved.essence] at hwhole ⊢
          simp only [hwhole, hbelow.2]

theorem attachTrees_essences (ns : List Node) :
    essences names known (attachTrees (essences names known ns)).1 =
        essences names known (attachTrees ns).1 ∧
      (attachTrees (essences names known ns)).2 = (attachTrees ns).2 := by
  match ns with
  | [] => rw [essences, attachTrees]; exact ⟨rfl, rfl⟩
  | n :: ns =>
      have hfirst := attachTree_essence n
      have hrest := attachTrees_essences ns
      have htree := congrArg Moved.tree hfirst
      have hrefusal := congrArg Moved.refusal hfirst
      have hcount := congrArg Moved.count hfirst
      simp only [Moved.essence] at htree hrefusal hcount
      rw [essences, attachTrees, attachTrees]
      simp only [hrefusal, hcount]
      cases hrefused : (attachTree n).refusal with
      | some kindName =>
          simp only [essences, htree, essences_essences, and_self]
      | none => simp only [essences, htree, hrest, and_self]

end

theorem apply_essence (document : Node) :
    (apply (document.essence names known)).essence names known =
      (apply document).essence names known := by
  have hmoved : (attachTree (document.essence names known)).essence names known =
      (attachTree document).essence names known :=
    attachTree_essence document
  have htree := congrArg Moved.tree hmoved
  have hrefusal := congrArg Moved.refusal hmoved
  have hcount := congrArg Moved.count hmoved
  simp only [Moved.essence] at htree hrefusal hcount
  rw [apply, apply]
  simp only [hrefusal, hcount]
  cases (attachTree document).refusal with
  | some kindName => simp only [Rewrite.essence, htree]
  | none => simp only [Rewrite.essence, htree]

end ImageAttributes

/-! ## Rows of transforms -/

namespace Transform

variable {names : List String} {known : String → Bool}

theorem essence_essence (r : Rewrite) :
    (r.essence names known).essence names known = r.essence names known := by
  simp only [Rewrite.essence, Node.essence_essence]

/-- A transform of the program's own sees the essence only. -/
theorem apply_essence {t : Transform} (ht : t.isBuiltIn = true) (document : Node) :
    (t.apply (document.essence names known)).essence names known =
      (t.apply document).essence names known := by
  cases t with
  | imageAttributes => exact ImageAttributes.apply_essence document
  | tableSpans =>
      rw [apply, apply, TableSpans.apply, TableSpans.apply, TableSpans.mergeTree_essence,
        essence_essence]
  | preamble source =>
      simp only [apply, Rewrite.essence, insertPreamble_essence, Node.essence_essence]
  | directives markup =>
      rw [apply, apply, DirectiveMarkup.apply_essence, essence_essence]
  | custom name rewrite => cases ht

theorem run_essence {t : Transform} (ht : t.isBuiltIn = true) (n : Node) :
    (t.run (n.essence names known)).essence names known = (t.run n).essence names known := by
  rw [run, run, ensureDocument, ensureDocument, isDocument_essence, kindName_essence]
  cases n.isDocument with
  | true => exact apply_essence ht n
  | false => exact congrArg (fun tree => Rewrite.mk tree _ _) (Node.essence_essence n)

/-- Trees with one essence are rewritten to trees with one essence, with the same
records and up to the same failure. -/
theorem runAll_congr {ts : List Transform} (hts : ∀ t ∈ ts, t.isBuiltIn = true) {n n' : Node}
    (h : n.essence names known = n'.essence names known) :
    (runAll ts n).essence names known = (runAll ts n').essence names known := by
  induction ts generalizing n n' with
  | nil => exact congrArg (fun tree => Rewrite.mk tree _ _) h
  | cons t ts ih =>
      rw [List.forall_mem_cons] at hts
      have hfirst : (t.run n).essence names known = (t.run n').essence names known := by
        rw [← run_essence hts.1 n, h, run_essence hts.1]
      have htree := congrArg Rewrite.tree hfirst
      have hlog := congrArg Rewrite.log hfirst
      have hfailure := congrArg Rewrite.failure hfirst
      simp only [Rewrite.essence] at htree hlog hfailure
      rw [runAll, runAll]
      simp only [hfailure, hlog]
      cases (t.run n').failure with
      | some f => simp only [Rewrite.essence, htree]
      | none =>
          have hrest := ih hts.2 htree
          simp only [Rewrite.essence, Rewrite.mk.injEq] at hrest ⊢
          exact ⟨hrest.1, congrArg _ hrest.2.1, hrest.2.2⟩

end Transform

end TypstPress
