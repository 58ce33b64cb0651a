import TypstPress.Proofs.Document.InPlaceWalk
import TypstPress.Proofs.Transform.Commuting

/-!
# The walk that replaces directives

Directives are replaced while the tree is being walked: each container that the
walk comes to has the directives among its children replaced by markup, all at
once, and the walk goes on to the children that are there then. What stands in a
directive that was replaced is gone by the time the walk might have come to it,
and the markup that came in its place is walked and has nothing to replace.

So this is a substitution, written as one recursion on the tree (`spliced`), if
it comes to an end. It does unless a list, a table or a row has a directive to
replace among its children, and not even then if it stands in a directive that is
replaced itself (`BlockedAt`).
-/

namespace TypstPress.DirectiveMarkup

open Node

open Relation (ReflTransGen)

variable (markup : List (String × String))

/-- A child, after its parent was visited. -/
def swapped (n : Node) : Node := ((markupFor? markup n).map Node.ofTypst).getD n

/-- Replaces the directives among the children of a node, if there are any. -/
def visit : Node → Visit
  | .leaf l m => { tree := .leaf l m }
  | .branch k cs m =>
    if countMapped markup cs != 0 && !k.acceptsChildren then
      { tree := .branch k cs m, refusal := some k.name }
    else { tree := .branch k (cs.map (swapped markup)) m }

mutual

/-- The tree with markup for its directives that are mapped, of which those inside
others are gone with them. -/
def spliced : Node → Node
  | .leaf l m => .leaf l m
  | .branch k cs m =>
    match markupFor? markup (.branch k cs m) with
    | some source => .ofTypst source
    | none => .branch k (splicedAll cs) m

/-- Several trees with markup for their directives that are mapped. -/
def splicedAll : List Node → List Node
  | [] => []
  | n :: ns => spliced n :: splicedAll ns

end

/-- That the node at a place does not let its children be replaced although a
directive that is mapped is among them, and is in none itself. -/
def BlockedAt (tree : Node) (place : List Nat) (k : Branch) : Prop :=
  (∃ cs m, tree.at? place = some (.branch k cs m) ∧ k.acceptsChildren = false ∧
    ∃ c ∈ cs, (markupFor? markup c).isSome = true) ∧
  ∀ above, above <+: place → ∀ n, tree.at? above = some n → markupFor? markup n = none

/-! ## The walk is a recursion -/

variable {markup} {k : Branch} {cs ns : List Node} {m : Metadata} {n : Node} {source : String}

theorem swapped_of_some (h : markupFor? markup n = some source) :
    swapped markup n = .ofTypst source := by
  rw [swapped, h, Option.map_some, Option.getD_some]

theorem swapped_of_none (h : markupFor? markup n = none) : swapped markup n = n := by
  rw [swapped, h, Option.map_none, Option.getD_none]

theorem finishes_ofTypst (source : String) :
    ∃ found, Finishes (visit markup) (.ofTypst source) (.ofTypst source) found none :=
  ⟨_, .branch rfl (.accepted (.leaf rfl) .nil)⟩

theorem replaceAmong_of_some (h : markupFor? markup n = some source) (ns : List Node) :
    (replaceAmong markup (n :: ns)).1 = .ofTypst source :: (replaceAmong markup ns).1 ∧
      (replaceAmong markup (n :: ns)).2.2 = (replaceAmong markup ns).2.2 := by
  rw [replaceAmong, h]
  exact ⟨rfl, rfl⟩

theorem replaceAmong_of_refused (h : markupFor? markup n = none) {kindName : String}
    (hrefusal : (replaceBelow markup n).refusal = some kindName) (ns : List Node) :
    (replaceAmong markup (n :: ns)).1 = (replaceBelow markup n).tree :: ns.map (swapped markup) ∧
      (replaceAmong markup (n :: ns)).2.2 = some kindName := by
  rw [replaceAmong, h]
  simp only [hrefusal]
  exact ⟨rfl, trivial⟩

theorem replaceAmong_of_accepted (h : markupFor? markup n = none)
    (hrefusal : (replaceBelow markup n).refusal = none) (ns : List Node) :
    (replaceAmong markup (n :: ns)).1 =
        (replaceBelow markup n).tree :: (replaceAmong markup ns).1 ∧
      (replaceAmong markup (n :: ns)).2.2 = (replaceAmong markup ns).2.2 := by
  rw [replaceAmong, h]
  simp only [hrefusal, and_self]

theorem finishesAll_replaceAmong
    (h : ∀ n ∈ ns, ∃ found, Finishes (visit markup) n (replaceBelow markup n).tree found
      (replaceBelow markup n).refusal) :
    ∃ found, FinishesAll (visit markup) (ns.map (swapped markup)) (replaceAmong markup ns).1 found
      (replaceAmong markup ns).2.2 := by
  induction ns with
  | nil =>
      rw [replaceAmong]
      exact ⟨[], .nil⟩
  | cons n ns ih =>
      rw [List.forall_mem_cons] at h
      obtain ⟨behind, hrest⟩ := ih h.2
      rw [List.map_cons]
      cases hmarkup : markupFor? markup n with
      | some source =>
          obtain ⟨htrees, hnone⟩ := replaceAmong_of_some hmarkup ns
          obtain ⟨found, hsource⟩ := @finishes_ofTypst markup source
          rw [htrees, hnone, swapped_of_some hmarkup]
          exact ⟨found ++ behind, .accepted hsource hrest⟩
      | none =>
          obtain ⟨found, hfirst⟩ := h.1
          rw [swapped_of_none hmarkup]
          cases hrefusal : (replaceBelow markup n).refusal with
          | some kindName =>
              obtain ⟨htrees, hsome⟩ := replaceAmong_of_refused hmarkup hrefusal ns
              rw [htrees, hsome]
              rw [hrefusal] at hfirst
              exact ⟨found, .refused hfirst _⟩
          | none =>
              obtain ⟨htrees, hnone⟩ := replaceAmong_of_accepted hmarkup hrefusal ns
              rw [htrees, hnone]
              rw [hrefusal] at hfirst
              exact ⟨found ++ behind, .accepted hfirst hrest⟩

/-- Replacing directives is the recursion that a walk carries out. -/
theorem finishes_replaceBelow (n : Node) :
    ∃ found, Finishes (visit markup) n (replaceBelow markup n).tree found
      (replaceBelow markup n).refusal := by
  induction n using Node.induction with
  | leaf l m =>
      rw [replaceBelow]
      exact ⟨_, .leaf rfl⟩
  | branch k cs m ih =>
      rw [replaceBelow]
      dsimp only
      cases hrefused : countMapped markup cs != 0 && !k.acceptsChildren with
      | true =>
          rw [if_pos rfl]
          exact ⟨_, .refused (by rw [visit, if_pos hrefused])⟩
      | false =>
          obtain ⟨found, hbelow⟩ := finishesAll_replaceAmong ih
          rw [if_neg Bool.false_ne_true]
          exact ⟨_, .branch (by rw [visit, hrefused, if_neg Bool.false_ne_true]) hbelow⟩

/-! ## Where it is refused -/

theorem countMapped_ne_zero_iff :
    countMapped markup cs ≠ 0 ↔ ∃ c ∈ cs, (markupFor? markup c).isSome = true := by
  rw [countMapped, Nat.ne_zero_iff_zero_lt, List.countP_pos_iff]

theorem blockedAt_root (h : markupFor? markup (.branch k cs m) = none) {k' : Branch} :
    BlockedAt markup (.branch k cs m) [] k' ↔
      k' = k ∧ k.acceptsChildren = false ∧ ∃ c ∈ cs, (markupFor? markup c).isSome = true := by
  constructor
  · rintro ⟨⟨_, _, ⟨⟩, hfixed, hmapped⟩, -⟩
    exact ⟨rfl, hfixed, hmapped⟩
  · rintro ⟨rfl, hfixed, hmapped⟩
    refine ⟨⟨cs, m, rfl, hfixed, hmapped⟩, fun above habove n hn => ?_⟩
    rw [List.prefix_nil] at habove
    subst habove
    cases hn
    exact h

theorem blockedAt_child (h : markupFor? markup (.branch k cs m) = none) {i : Nat}
    {place : List Nat} {k' : Branch} :
    BlockedAt markup (.branch k cs m) (i :: place) k' ↔
      ∃ c, cs[i]? = some c ∧ BlockedAt markup c place k' := by
  constructor
  · rintro ⟨⟨cs', m', hat, hblocked⟩, hnone⟩
    rw [at?_branch] at hat
    obtain ⟨c, hc, hn⟩ := Option.bind_eq_some_iff.1 hat
    refine ⟨c, hc, ⟨cs', m', hn, hblocked⟩, fun above habove n hn => ?_⟩
    refine hnone (i :: above) (List.cons_prefix_cons.2 ⟨rfl, habove⟩) n ?_
    rw [at?_branch, hc, Option.bind_some, hn]
  · rintro ⟨c, hc, ⟨cs', m', hat, hblocked⟩, hnone⟩
    refine ⟨⟨cs', m', ?_, hblocked⟩, fun above habove n hn => ?_⟩
    · rw [at?_branch, hc, Option.bind_some, hat]
    · cases above with
      | nil =>
          cases hn
          exact h
      | cons j above =>
          obtain ⟨rfl, hbegins⟩ := List.cons_prefix_cons.1 habove
          rw [at?_branch, hc, Option.bind_some] at hn
          exact hnone above hbegins n hn

/-- Among several nodes it is the first one below which something refuses that
does; in those that are mapped nobody looks. -/
theorem exists_of_replaceAmong_refused {kindName : String}
    (h : (replaceAmong markup ns).2.2 = some kindName) :
    ∃ n ∈ ns, markupFor? markup n = none ∧ (replaceBelow markup n).refusal = some kindName := by
  induction ns with
  | nil =>
      rw [replaceAmong] at h
      cases h
  | cons n ns ih =>
      cases hmarkup : markupFor? markup n with
      | some source =>
          rw [(replaceAmong_of_some hmarkup ns).2] at h
          obtain ⟨n', hn', hrefused⟩ := ih h
          exact ⟨n', .tail _ hn', hrefused⟩
      | none =>
          cases hrefusal : (replaceBelow markup n).refusal with
          | some kindName' =>
              rw [(replaceAmong_of_refused hmarkup hrefusal ns).2, ← hrefusal] at h
              exact ⟨n, .head _, hmarkup, h⟩
          | none =>
              rw [(replaceAmong_of_accepted hmarkup hrefusal ns).2] at h
              obtain ⟨n', hn', hrefused⟩ := ih h
              exact ⟨n', .tail _ hn', hrefused⟩

theorem replaceAmong_accepted (h : (replaceAmong markup ns).2.2 = none) :
    ∀ n ∈ ns, markupFor? markup n = none → (replaceBelow markup n).refusal = none := by
  induction ns with
  | nil => exact nofun
  | cons n ns ih =>
      cases hmarkup : markupFor? markup n with
      | some source =>
          rw [(replaceAmong_of_some hmarkup ns).2] at h
          refine List.forall_mem_cons.2 ⟨fun hnone => ?_, ih h⟩
          rw [hmarkup] at hnone
          cases hnone
      | none =>
          cases hrefusal : (replaceBelow markup n).refusal with
          | some kindName =>
              rw [(replaceAmong_of_refused hmarkup hrefusal ns).2] at h
              cases h
          | none =>
              rw [(replaceAmong_of_accepted hmarkup hrefusal ns).2] at h
              exact List.forall_mem_cons.2 ⟨fun _ => hrefusal, ih h⟩

/-- A branch refuses, or it ends as replacing among its children does. -/
theorem refusal_branch (k : Branch) (cs : List Node) (m : Metadata) :
    (k.acceptsChildren = false ∧ (∃ c ∈ cs, (markupFor? markup c).isSome = true) ∧
      (replaceBelow markup (.branch k cs m)).refusal = some k.name) ∨
    (¬ (k.acceptsChildren = false ∧ ∃ c ∈ cs, (markupFor? markup c).isSome = true) ∧
      (replaceBelow markup (.branch k cs m)).refusal = (replaceAmong markup cs).2.2 ∧
      (replaceBelow markup (.branch k cs m)).tree = .branch k (replaceAmong markup cs).1 m) := by
  rw [← countMapped_ne_zero_iff, replaceBelow]
  dsimp only
  cases hrefused : countMapped markup cs != 0 && !k.acceptsChildren with
  | true =>
      rw [Bool.and_eq_true, bne_iff_ne, Bool.not_eq_true'] at hrefused
      exact .inl ⟨hrefused.2, hrefused.1, rfl⟩
  | false =>
      refine .inr ⟨fun ⟨hfixed, hmapped⟩ => ?_, rfl, rfl⟩
      rw [← bne_iff_ne] at hmapped
      rw [hfixed, hmapped] at hrefused
      cases hrefused

theorem exists_blockedAt {kindName : String} (hn : markupFor? markup n = none)
    (h : (replaceBelow markup n).refusal = some kindName) :
    ∃ place k, BlockedAt markup n place k ∧ k.name = kindName := by
  induction n using Node.induction with
  | leaf l m =>
      rw [replaceBelow] at h
      cases h
  | branch k cs m ih =>
      rcases @refusal_branch markup k cs m with
        ⟨hfixed, hmapped, hrefusal⟩ | ⟨-, hrefusal, -⟩
      · rw [hrefusal] at h
        exact ⟨[], k, (blockedAt_root hn).2 ⟨rfl, hfixed, hmapped⟩, Option.some.inj h⟩
      · rw [hrefusal] at h
        obtain ⟨c, hc, hnone, hrefused⟩ := exists_of_replaceAmong_refused h
        obtain ⟨place, k', hblocked, hname⟩ := ih c hc hnone hrefused
        obtain ⟨i, hi⟩ := List.mem_iff_getElem?.1 hc
        exact ⟨i :: place, k', (blockedAt_child hn).2 ⟨c, hi, hblocked⟩, hname⟩

theorem refused_of_blockedAt {place : List Nat} {k' : Branch}
    (h : BlockedAt markup n place k') : (replaceBelow markup n).refusal ≠ none := by
  have hn : markupFor? markup n = none := h.2 [] List.nil_prefix n rfl
  induction place generalizing n with
  | nil =>
      cases n with
      | leaf l m =>
          obtain ⟨⟨_, _, ⟨⟩, _⟩, _⟩ := h
      | branch k cs m =>
          obtain ⟨-, hblocked⟩ := (blockedAt_root hn).1 h
          rcases @refusal_branch markup k cs m with ⟨-, -, hrefusal⟩ | ⟨hnot, -⟩
          · rw [hrefusal]
            exact Option.some_ne_none _
          · exact absurd hblocked hnot
  | cons i place ih =>
      cases n with
      | leaf l m => obtain ⟨⟨_, _, ⟨⟩, _⟩, _⟩ := h
      | branch k cs m =>
          obtain ⟨c, hc, hblocked⟩ := (blockedAt_child hn).1 h
          have hnone : markupFor? markup c = none := hblocked.2 [] List.nil_prefix c rfl
          rcases @refusal_branch markup k cs m with ⟨-, -, hrefusal⟩ | ⟨-, hrefusal, -⟩
          · rw [hrefusal]
            exact Option.some_ne_none _
          · rw [hrefusal]
            intro haccepted
            exact ih hblocked hnone
              (replaceAmong_accepted haccepted c (List.mem_of_getElem? hc) hnone)

/-! ## What it makes of a tree -/

theorem spliced_of_some (h : markupFor? markup n = some source) :
    spliced markup n = .ofTypst source := by
  cases n with
  | leaf l m => cases h
  | branch k cs m => rw [spliced, h]

theorem spliced_branch (h : markupFor? markup (.branch k cs m) = none) :
    spliced markup (.branch k cs m) = .branch k (splicedAll markup cs) m := by
  rw [spliced, h]

theorem replaceAmong_eq_splicedAll
    (ih : ∀ n ∈ ns, markupFor? markup n = none → (replaceBelow markup n).refusal = none →
      (replaceBelow markup n).tree = spliced markup n)
    (h : (replaceAmong markup ns).2.2 = none) :
    (replaceAmong markup ns).1 = splicedAll markup ns := by
  induction ns with
  | nil => rw [replaceAmong, splicedAll]
  | cons n ns ihns =>
      have haccepted := replaceAmong_accepted h
      rw [List.forall_mem_cons] at ih haccepted
      rw [splicedAll]
      cases hmarkup : markupFor? markup n with
      | some source =>
          obtain ⟨htrees, hrefusal⟩ := replaceAmong_of_some hmarkup ns
          rw [hrefusal] at h
          rw [htrees, spliced_of_some hmarkup, ihns ih.2 h]
      | none =>
          have hfirst := haccepted.1 hmarkup
          obtain ⟨htrees, hrefusal⟩ := replaceAmong_of_accepted hmarkup hfirst ns
          rw [hrefusal] at h
          rw [htrees, ih.1 hmarkup hfirst, ihns ih.2 h]

theorem replaced_eq_spliced (hn : markupFor? markup n = none)
    (h : (replaceBelow markup n).refusal = none) :
    (replaceBelow markup n).tree = spliced markup n := by
  induction n using Node.induction with
  | leaf l m => rw [replaceBelow, spliced]
  | branch k cs m ih =>
      rcases @refusal_branch markup k cs m with ⟨-, -, hrefusal⟩ | ⟨-, hrefusal, htree⟩
      · rw [hrefusal] at h
        cases h
      · rw [hrefusal] at h
        rw [htree, spliced_branch hn, replaceAmong_eq_splicedAll ih h]

/-- Whether a tree has no directive that is mapped. -/
def IsUnmapped (markup : List (String × String)) (n : Node) : Prop :=
  ∀ n' ∈ n.preorder, markupFor? markup n' = none

theorem isUnmapped_branch :
    IsUnmapped markup (.branch k cs m) ↔
      markupFor? markup (.branch k cs m) = none ∧ ∀ c ∈ cs, IsUnmapped markup c := by
  rw [IsUnmapped, preorder, List.forall_mem_cons]
  refine and_congr_right fun _ => ⟨fun h c hc n hn => h n (mem_preorderAll.2 ⟨c, hc, hn⟩), ?_⟩
  intro h n hn
  obtain ⟨c, hc, hmem⟩ := mem_preorderAll.1 hn
  exact h c hc n hmem

theorem isUnmapped_ofTypst (source : String) : IsUnmapped markup (.ofTypst source) := by
  refine isUnmapped_branch.2 ⟨rfl, List.forall_mem_singleton.2 fun n hn => ?_⟩
  rw [ofLeaf, preorder, List.mem_singleton] at hn
  rw [hn]
  rfl

theorem splicedAll_eq_map (ns : List Node) : splicedAll markup ns = ns.map (spliced markup) := by
  induction ns with
  | nil => rw [splicedAll, List.map_nil]
  | cons n ns ih => rw [splicedAll, List.map_cons, ih]

theorem isUnmapped_spliced (n : Node) : IsUnmapped markup (spliced markup n) := by
  induction n using Node.induction with
  | leaf l m =>
      intro n hn
      rw [spliced, preorder, List.mem_singleton] at hn
      rw [hn]
      rfl
  | branch k cs m ih =>
      cases hmarkup : markupFor? markup (.branch k cs m) with
      | some source =>
          rw [spliced_of_some hmarkup]
          exact isUnmapped_ofTypst source
      | none =>
          rw [spliced_branch hmarkup, splicedAll_eq_map, isUnmapped_branch, List.forall_mem_map]
          rw [← hmarkup]
          exact ⟨markupFor?_of_kind_eq markup rfl, ih⟩

theorem replaceAmong_of_isUnmapped (hns : ∀ n ∈ ns, IsUnmapped markup n)
    (ih : ∀ n ∈ ns, replaceBelow markup n = { tree := n }) :
    replaceAmong markup ns = (ns, 0, none) := by
  induction ns with
  | nil => rw [replaceAmong]
  | cons n ns ihns =>
      rw [List.forall_mem_cons] at hns ih
      have hmarkup : markupFor? markup n = none := hns.1 n (by rw [preorder_eq]; exact .head _)
      rw [replaceAmong, hmarkup, ih.1, ihns hns.2 ih.2]

/-- In a tree without such directives there is nothing to replace. -/
theorem replaceBelow_of_isUnmapped (h : IsUnmapped markup n) :
    replaceBelow markup n = { tree := n } := by
  induction n using Node.induction with
  | leaf l m => rw [replaceBelow]
  | branch k cs m ih =>
      obtain ⟨-, hcs⟩ := isUnmapped_branch.1 h
      have hcount : countMapped markup cs = 0 := by
        refine Classical.byContradiction fun hne => ?_
        obtain ⟨c, hc, hmapped⟩ := countMapped_ne_zero_iff.1 hne
        rw [hcs c hc c (by rw [preorder_eq]; exact .head _)] at hmapped
        cases hmapped
      rw [replaceBelow, replaceAmong_of_isUnmapped hcs fun c hc => ih c hc (hcs c hc), hcount]
      rfl

/-! ## Documents -/

variable {document : Node}

theorem markupFor?_of_isDocument (h : document.isDocument = true) :
    markupFor? markup document = none := by
  obtain ⟨cs, m, rfl⟩ := eq_document h
  rfl

theorem run_directives (h : document.isDocument = true) :
    ((Transform.directives markup).run document).tree = (replaceBelow markup document).tree ∧
      ((Transform.directives markup).run document).failure =
        (replaceBelow markup document).refusal.map Failure.fixedChildren := by
  rw [Transform.run_of_isDocument _ h, Transform.apply, apply]
  cases (replaceBelow markup document).refusal with
  | none => exact ⟨rfl, rfl⟩
  | some kindName => exact ⟨rfl, rfl⟩

theorem run_directives_of_isUnmapped (h : document.isDocument = true)
    (hunmapped : IsUnmapped markup document) :
    (Transform.directives markup).run document = { tree := document } := by
  rw [Transform.run_of_isDocument _ h, Transform.apply, apply,
    replaceBelow_of_isUnmapped hunmapped]
  rfl

theorem isDocument_spliced (h : document.isDocument = true) :
    (spliced markup document).isDocument = true := by
  obtain ⟨cs, m, rfl⟩ := eq_document h
  rw [spliced_branch rfl]
  rfl

/-- Replacing the directives of a document by a walk with a stack, in a tree that
changes under the walk, is a substitution. The walk ends, with the tree and the
failure of the transform, and it comes to every node of that tree in order, or to
those up to the one that refuses, and to none of them twice. It is refused
exactly if a list, a table or a row has a directive to replace among its children
and is in no such directive itself. Otherwise markup stands for the outermost of
these directives, all else is as it was, and there is nothing left to replace. -/
theorem run_directives_splices (markup : List (String × String)) {document : Node}
    (h : document.isDocument = true) :
    (∃ w, ReflTransGen (InPlaceWalk.Steps (visit markup)) (.start document) w ∧ w.stack = [] ∧
      ((Transform.directives markup).run document).tree = w.tree ∧
      ((Transform.directives markup).run document).failure =
        w.refusal.map Failure.fixedChildren ∧
      w.visited.Nodup ∧ w.visited.map w.tree.at? <+: w.tree.preorder.map some ∧
      (w.refusal = none → w.visited.map w.tree.at? = w.tree.preorder.map some)) ∧
    (((Transform.directives markup).run document).failure ≠ none ↔
      ∃ place k, BlockedAt markup document place k) ∧
    (∀ failure, ((Transform.directives markup).run document).failure = some failure →
      ∃ place k, BlockedAt markup document place k ∧ failure = .fixedChildren k.name) ∧
    (((Transform.directives markup).run document).failure = none →
      ((Transform.directives markup).run document).tree = spliced markup document ∧
      (∀ n ∈ (spliced markup document).preorder, markupFor? markup n = none) ∧
      (Transform.directives markup).run (spliced markup document) =
        { tree := spliced markup document }) := by
  have hroot : markupFor? markup document = none := markupFor?_of_isDocument h
  obtain ⟨htree, hfailure⟩ := @run_directives markup document h
  have hblocked : ∀ failure, ((Transform.directives markup).run document).failure = some failure →
      ∃ place k, BlockedAt markup document place k ∧ failure = .fixedChildren k.name := by
    intro failure hsome
    rw [hfailure, Option.map_eq_some_iff] at hsome
    obtain ⟨kindName, hrefusal, rfl⟩ := hsome
    obtain ⟨place, k, hplace, rfl⟩ := exists_blockedAt hroot hrefusal
    exact ⟨place, k, hplace, rfl⟩
  refine ⟨?_, ⟨fun hfailed => ?_, ?_⟩, hblocked, fun hnone => ⟨?_, ?_, ?_⟩⟩
  · obtain ⟨found, hfinishes⟩ := @finishes_replaceBelow markup document
    obtain ⟨w, hwalk, hstack, hwtree, -, hrefusal, hnodup, hbegins, hall⟩ :=
      exists_walk_of_finishes hfinishes
    rw [htree, hfailure, ← hrefusal]
    rw [← hrefusal] at hall
    exact ⟨w, hwalk, hstack, hwtree.symm, rfl, hnodup, hbegins, hall⟩
  · obtain ⟨failure, hsome⟩ := Option.ne_none_iff_exists'.1 hfailed
    obtain ⟨place, k, hplace, -⟩ := hblocked failure hsome
    exact ⟨place, k, hplace⟩
  · rintro ⟨place, k, hplace⟩
    rw [hfailure, ne_eq, Option.map_eq_none_iff]
    exact refused_of_blockedAt hplace
  · rw [hfailure, Option.map_eq_none_iff] at hnone
    rw [htree, replaced_eq_spliced hroot hnone]
  · exact isUnmapped_spliced document
  · exact run_directives_of_isUnmapped (isDocument_spliced h) (isUnmapped_spliced document)

/-- A pause in a quote, and one that holds a list with another one. -/
def pausedDocument : Node :=
  .ofBranch .document
    [.ofBranch .blockQuote [.ofBranch (.leafDirective "pause" []) []],
      .ofBranch (.leafDirective "pause" [])
        [.ofBranch (.list false none true) [.ofBranch (.leafDirective "pause" []) []]]]

/-- A pause in a list refuses, unless the list is in a pause. -/
theorem run_directives_splices_pauses :
    pausedDocument.isDocument = true ∧
      ((Transform.directives slideControls).run pausedDocument).failure = none ∧
      ((Transform.directives slideControls).run pausedDocument).tree =
        .ofBranch .document
          [.ofBranch .blockQuote [.ofTypst "#pause\n"], .ofTypst "#pause\n"] ∧
      ((Transform.directives slideControls).run
        (.ofBranch .document
          [.ofBranch (.list false none true) [.ofBranch (.leafDirective "pause" []) []]])).failure ≠
        none := by
  have hnone : ((Transform.directives slideControls).run pausedDocument).failure = none := rfl
  obtain ⟨-, -, -, hspliced⟩ := @run_directives_splices slideControls pausedDocument rfl
  obtain ⟨-, hblocked, -⟩ := @run_directives_splices slideControls (.ofBranch .document
    [.ofBranch (.list false none true) [.ofBranch (.leafDirective "pause" []) []]]) rfl
  refine ⟨rfl, hnone, (hspliced hnone).1.trans (by rfl),
    hblocked.2 ⟨[0], .list false none true, ?_⟩⟩
  exact (blockedAt_child rfl).2 ⟨_, rfl, (blockedAt_root rfl).2 ⟨rfl, rfl, _, .head _, rfl⟩⟩

end TypstPress.DirectiveMarkup
