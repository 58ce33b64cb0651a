import TypstPress.Transform
import TypstPress.Proofs.Document.Preorder
import TypstPress.Proofs.Transform.SpanGrowth

/-!
# Transforms one after the other

A row of transforms is run in parts: the second part starts from the tree that
the first one arrived at, and if the first one failed it does not start at all.
So a row is settled by the first transform that fails, and whatever stands
behind it leaves no trace, neither in the tree nor in the records
(`runAll_of_failing`).

A document stays one. None of the program's own transforms touches the root,
also where the tree below it is not what they expect and they stop half-way
(`isDocument_apply`).
-/

namespace TypstPress.Transform

open Node

variable {ts : List Transform} {tree : Node}

/-! ## Rows in two parts -/

/-- What stands behind a row that failed is not run. -/
theorem runAll_append_of_failed {f : Failure} (h : (runAll ts tree).failure = some f)
    (us : List Transform) : runAll (ts ++ us) tree = runAll ts tree := by
  induction ts generalizing tree with
  | nil => cases h
  | cons t ts ih =>
      rw [runAll] at h
      rw [List.cons_append, runAll, runAll]
      cases hfirst : (t.run tree).failure with
      | some g => rfl
      | none =>
          rw [hfirst] at h
          dsimp only
          rw [ih h]

/-- What stands behind a row that finished starts from where it arrived. -/
theorem runAll_append_of_finished (h : (runAll ts tree).failure = none) (us : List Transform) :
    runAll (ts ++ us) tree =
      { runAll us (runAll ts tree).tree with
        log := (runAll ts tree).log ++ (runAll us (runAll ts tree).tree).log } := by
  induction ts generalizing tree with
  | nil => rfl
  | cons t ts ih =>
      rw [runAll] at h
      rw [List.cons_append, runAll, runAll]
      cases hfirst : (t.run tree).failure with
      | some g =>
          rw [hfirst] at h
          cases h
      | none =>
          rw [hfirst] at h
          dsimp only
          rw [ih h]
          simp only [List.cons_append, List.append_assoc]

/-- The first transform that fails settles the row: its failure is reported, and
the transforms behind it are as good as not there. -/
theorem runAll_of_failing {before : List Transform} (hbefore : (runAll before tree).failure = none)
    {t : Transform} {f : Failure} (hfail : (t.run (runAll before tree).tree).failure = some f)
    (after : List Transform) :
    (runAll (before ++ t :: after) tree).failure = some (t.report f) ∧
      runAll (before ++ t :: after) tree = runAll (before ++ [t]) tree := by
  have hhead : ∀ us, runAll (t :: us) (runAll before tree).tree =
      { tree := (t.run (runAll before tree).tree).tree
        log := ⟨.debug, "md2typst.api", "Applying transform: " ++ t.name⟩ ::
          (t.run (runAll before tree).tree).log
        failure := some (t.report f) } := by
    intro us
    rw [runAll, hfail]
  rw [runAll_append_of_finished hbefore, runAll_append_of_finished hbefore, hhead, hhead]
  exact ⟨rfl, rfl⟩

/-- A row that fails does so at one of its transforms. -/
theorem exists_failing {f : Failure} (h : (runAll ts tree).failure = some f) :
    ∃ before t after g, ts = before ++ t :: after ∧ (runAll before tree).failure = none ∧
      (t.run (runAll before tree).tree).failure = some g ∧ f = t.report g := by
  induction ts generalizing tree with
  | nil => cases h
  | cons t ts ih =>
      rw [runAll] at h
      cases hfirst : (t.run tree).failure with
      | some g =>
          rw [hfirst] at h
          cases h
          exact ⟨[], t, ts, g, rfl, rfl, hfirst, rfl⟩
      | none =>
          rw [hfirst] at h
          obtain ⟨before, u, after, g, rfl, hbefore, hfail, rfl⟩ := ih h
          have hrun : runAll (t :: before) tree =
              { runAll before (t.run tree).tree with
                log := ⟨.debug, "md2typst.api", "Applying transform: " ++ t.name⟩ ::
                  (t.run tree).log ++ (runAll before (t.run tree).tree).log } := by
            rw [runAll, hfirst]
          refine ⟨t :: before, u, after, g, rfl, ?_, ?_, rfl⟩
          · rw [hrun]
            exact hbefore
          · rw [hrun]
            exact hfail

/-! ## The root stays a document -/

theorem isDocument_attachTree (h : tree.isDocument = true) :
    (ImageAttributes.attachTree tree).tree.isDocument = true := by
  have hattach : ∀ cs m,
      (ImageAttributes.attach (.branch .document cs m)).tree.isDocument = true := by
    intro cs m
    rw [ImageAttributes.attach]
    dsimp only
    split
    · rfl
    · rfl
  obtain ⟨cs, m, rfl⟩ := eq_document h
  rw [ImageAttributes.attachTree]
  dsimp only
  split
  · exact hattach cs m
  · exact hattach _ m

theorem isDocument_mergeTree (h : tree.isDocument = true) :
    (TableSpans.mergeTree tree).tree.isDocument = true := by
  obtain ⟨cs, m, rfl⟩ := eq_document h
  have hgrown := TableSpans.mergeTree_grown (.branch .document cs m)
  generalize (TableSpans.mergeTree (.branch .document cs m)).tree = grown at hgrown
  cases hgrown with
  | branch hkind hchildren =>
      cases hkind with
      | refl => rfl

theorem isDocument_replaceBelow (markup : List (String × String)) (h : tree.isDocument = true) :
    (DirectiveMarkup.replaceBelow markup tree).tree.isDocument = true := by
  obtain ⟨cs, m, rfl⟩ := eq_document h
  rw [DirectiveMarkup.replaceBelow]
  dsimp only
  split
  · rfl
  · rfl

theorem isDocument_insertPreamble (source : String) (h : tree.isDocument = true) :
    (insertPreamble source tree).isDocument = true := by
  obtain ⟨cs, m, rfl⟩ := eq_document h
  rw [insertPreamble]
  split
  · rfl
  · rfl

/-- What callers promise of a rewriting of their own: it works inside of a
document, so a document stays one unless the rewriting fails. -/
def KeepsDocuments (rewrite : Node → Rewrite) : Prop :=
  ∀ document, document.isDocument = true → (rewrite document).failure = none →
    (rewrite document).tree.isDocument = true

theorem isDocument_apply {t : Transform}
    (ht : ∀ name rewrite, t = .custom name rewrite → KeepsDocuments rewrite)
    (h : tree.isDocument = true) (hdone : (t.apply tree).failure = none) :
    (t.apply tree).tree.isDocument = true := by
  cases t with
  | imageAttributes =>
      rw [apply, ImageAttributes.apply]
      split
      · exact isDocument_attachTree h
      · exact isDocument_attachTree h
  | tableSpans => exact isDocument_mergeTree h
  | preamble source => exact isDocument_insertPreamble source h
  | directives markup =>
      rw [apply, DirectiveMarkup.apply]
      split
      · exact isDocument_replaceBelow markup h
      · exact isDocument_replaceBelow markup h
  | custom name rewrite => exact ht name rewrite rfl tree h hdone

theorem run_of_isDocument (t : Transform) (h : tree.isDocument = true) :
    t.run tree = t.apply tree := by
  rw [run, ensureDocument, if_pos h]

theorem isDocument_runAll
    (hts : ∀ name rewrite, .custom name rewrite ∈ ts → KeepsDocuments rewrite)
    (h : tree.isDocument = true) (hdone : (runAll ts tree).failure = none) :
    (runAll ts tree).tree.isDocument = true := by
  induction ts generalizing tree with
  | nil => exact h
  | cons t ts ih =>
      rw [runAll] at hdone ⊢
      cases hfirst : (t.run tree).failure with
      | some g =>
          rw [hfirst] at hdone
          cases hdone
      | none =>
          rw [hfirst] at hdone
          rw [run_of_isDocument t h] at hfirst hdone ⊢
          have htree : (t.apply tree).tree.isDocument = true := by
            refine isDocument_apply (fun name rewrite ht => ?_) h hfirst
            exact hts name rewrite (ht ▸ List.mem_cons_self)
          exact ih (fun name rewrite ht => hts name rewrite (List.mem_cons_of_mem t ht)) htree hdone

end TypstPress.Transform
