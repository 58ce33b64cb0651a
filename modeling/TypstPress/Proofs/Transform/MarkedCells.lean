import TypstPress.Proofs.Text.Span
import TypstPress.Proofs.Transform.SpanGrowth
import TypstPress.Typst.Fragment

/-!
# What a merged cell takes with it

A suppressed cell is never set, so whatever it holds is lost. Merging suppresses
only cells whose first child is a text that is a mark, and it looks at nothing
behind that child. So a merged cell holds nothing but its mark exactly when what
stands behind its first child is blank (`merged_holdsOnlyMark_iff`); a cell such
as `< **b**` is merged all the same, and its content with it
(`emphasis_is_dropped`).

Holding nothing but a mark is said of a content as it is set and as it reads:
no child sets anything but text, and the texts together, trimmed, are the mark.
-/

namespace TypstPress

open Node

namespace TableSpans

/-! ## Contents that are a mark -/

/-- Whether a node sets nothing where it stands, whatever it is set with. -/
def SetsNothing (n : Node) : Prop :=
  ∀ s : Typst.Setting, ∀ f ∈ Typst.fragments s n, f = .source ""

/-- Whether no child sets anything but text. -/
def SetsOnlyText (content : List Node) : Prop :=
  ∀ child ∈ content, (∃ text m, child = .leaf (.text text) m) ∨ SetsNothing child

/-- Whether a content is a mark, as it is set and as it reads. -/
def HoldsOnlyMark (content : List Node) : Prop :=
  SetsOnlyText content ∧ ∃ mark, (mark = '<' ∨ mark = '^') ∧
    Text.trim (plainTextOf "" content).toList = [mark]

/-- Whether a content is blank, as it is set and as it reads. -/
def HoldsBlank (content : List Node) : Prop :=
  SetsOnlyText content ∧ Text.isAllBlank (plainTextOf "" content).toList = true

theorem intercalate_nil_eq_flatten (texts : List (List Char)) :
    List.intercalate [] texts = texts.flatten := by
  induction texts with
  | nil => rfl
  | cons text texts ih =>
      cases texts with
      | nil => rw [List.intercalate_singleton, List.flatten_singleton]
      | cons next texts =>
          rw [List.intercalate_cons_cons, ih, List.append_nil]
          rfl

theorem toList_joinParts (parts : List String) :
    (joinParts "" parts).toList = parts.flatMap String.toList := by
  rw [joinParts, String.toList_intercalate, String.toList_empty, intercalate_nil_eq_flatten]
  induction parts with
  | nil => rfl
  | cons part parts ih =>
      rw [List.flatMap_cons, ← ih]
      by_cases hempty : part = ""
      · simp [hempty]
      · simp [hempty]

theorem toList_plainTextOf (content : List Node) :
    (plainTextOf "" content).toList =
      content.flatMap fun child => (child.plainText "").toList := by
  rw [plainTextOf, toList_joinParts]
  induction content with
  | nil => rfl
  | cons n ns ih => rw [plainTexts, List.flatMap_cons, List.flatMap_cons, ih]

theorem startsWithMark_iff {mark : Char} {content : List Node} :
    startsWithMark mark content = true ↔ ∃ text m rest,
      content = .leaf (.text text) m :: rest ∧ Text.trim text.toList = [mark] := by
  constructor
  · intro h
    unfold startsWithMark at h
    split at h
    · next text m rest => exact ⟨text, m, rest, rfl, eq_of_beq h⟩
    · cases h
  · rintro ⟨text, m, rest, rfl, htext⟩
    exact beq_iff_eq.2 htext

theorem isMarked_iff {content : List Node} :
    isMarked content = true ↔ ∃ mark, (mark = '<' ∨ mark = '^') ∧
      startsWithMark mark content = true := by
  rw [isMarked, Bool.or_eq_true]
  constructor
  · rintro (h | h)
    · exact ⟨'<', .inl rfl, h⟩
    · exact ⟨'^', .inr rfl, h⟩
  · rintro ⟨mark, rfl | rfl, h⟩
    · exact .inl h
    · exact .inr h

/-- A content that starts with a mark is that mark if the rest is blank. -/
theorem holdsOnlyMark_cons_iff {text : String} {m : Metadata} {rest : List Node} {mark : Char}
    (hmark : mark = '<' ∨ mark = '^') (htext : Text.trim text.toList = [mark]) :
    HoldsOnlyMark (.leaf (.text text) m :: rest) ↔ HoldsBlank rest := by
  have hset : SetsOnlyText (.leaf (.text text) m :: rest) ↔ SetsOnlyText rest :=
    List.forall_mem_cons.trans (and_iff_right (.inl ⟨text, m, rfl⟩))
  have hread : ∀ d, Text.trim (plainTextOf "" (.leaf (.text text) m :: rest)).toList = [d] ↔
      d = mark ∧ Text.isAllBlank (plainTextOf "" rest).toList = true := by
    intro d
    rw [toList_plainTextOf, List.flatMap_cons, ← toList_plainTextOf, plainText]
    exact Text.trim_append_eq_singleton_iff htext
  rw [HoldsOnlyMark, HoldsBlank, hset]
  refine and_congr_right fun _ => ⟨?_, fun hblank => ⟨mark, hmark, (hread mark).2 ⟨rfl, hblank⟩⟩⟩
  rintro ⟨d, -, hd⟩
  exact ((hread d).1 hd).2

/-! ## Cells that are merged -/

theorem isMarked_of_suppressed {colspan colspan' rowspan rowspan' : Nat}
    {alignment alignment' : Option String} {content content' : List Node} {m m' : Metadata}
    (h : Grown (.branch (.tableCell colspan rowspan false alignment) content m)
      (.branch (.tableCell colspan' rowspan' true alignment') content' m')) :
    isMarked content = true := by
  cases h with
  | branch hkind hchildren =>
      cases hkind with
      | cell hcolspan hrowspan hsuppressed =>
          rcases hsuppressed with h | ⟨hmarked, -⟩
          · cases h
          · exact hmarked

/-- A cell that merging suppresses starts with a text that is a mark, and it
holds nothing but that mark exactly if what stands behind the text is blank. -/
theorem merged_holdsOnlyMark_iff {document : Node} {path : List Nat}
    {colspan colspan' rowspan rowspan' : Nat} {alignment alignment' : Option String}
    {content content' : List Node} {m m' : Metadata}
    (hbefore : document.at? path =
      some (.branch (.tableCell colspan rowspan false alignment) content m))
    (hafter : (apply document).tree.at? path =
      some (.branch (.tableCell colspan' rowspan' true alignment') content' m')) :
    ∃ text d rest mark, content = .leaf (.text text) d :: rest ∧ (mark = '<' ∨ mark = '^') ∧
      Text.trim text.toList = [mark] ∧ (HoldsOnlyMark content ↔ HoldsBlank rest) := by
  obtain ⟨cell, hcell, hgrown⟩ := (apply_grown document).exists_at hafter
  rw [hbefore] at hcell
  cases hcell
  obtain ⟨mark, hmark, hstart⟩ := isMarked_iff.1 (isMarked_of_suppressed hgrown)
  obtain ⟨text, d, rest, rfl, htext⟩ := startsWithMark_iff.1 hstart
  exact ⟨text, d, rest, mark, rfl, hmark, htext, holdsOnlyMark_cons_iff hmark htext⟩

/-- A table with a single row: a cell, and one with another content. -/
def besideCell (content : List Node) : Node :=
  .ofBranch .document [.ofBranch (.table true []) [.ofBranch (.tableRow true) [
    .ofBranch (.tableCell 1 1 false none) [.ofText "a"],
    .ofBranch (.tableCell 1 1 false none) content]]]

theorem blank_behind_mark :
    (besideCell [.ofText "<", .ofText " "]).at? [0, 0, 1] =
        some (.ofBranch (.tableCell 1 1 false none) [.ofText "<", .ofText " "]) ∧
      (apply (besideCell [.ofText "<", .ofText " "])).tree.at? [0, 0, 1] =
        some (.ofBranch (.tableCell 1 1 true none) [.ofText "<", .ofText " "]) ∧
      HoldsOnlyMark [.ofText "<", .ofText " "] := by
  have hbefore : (besideCell [.ofText "<", .ofText " "]).at? [0, 0, 1] =
      some (.ofBranch (.tableCell 1 1 false none) [.ofText "<", .ofText " "]) := rfl
  have hafter : (apply (besideCell [.ofText "<", .ofText " "])).tree.at? [0, 0, 1] =
      some (.ofBranch (.tableCell 1 1 true none) [.ofText "<", .ofText " "]) := rfl
  obtain ⟨text, d, rest, mark, hcontent, -, -, hiff⟩ := merged_holdsOnlyMark_iff hbefore hafter
  cases hcontent
  have hblank : HoldsBlank [.ofText " "] :=
    ⟨List.forall_mem_singleton.2 (.inl ⟨" ", [], rfl⟩), by decide⟩
  exact ⟨hbefore, hafter, hiff.2 hblank⟩

/-- Merging drops an emphasis that stands behind a mark. -/
theorem emphasis_is_dropped :
    (besideCell [.ofText "< ", .ofBranch .strong [.ofText "b"]]).at? [0, 0, 1] =
        some (.ofBranch (.tableCell 1 1 false none)
          [.ofText "< ", .ofBranch .strong [.ofText "b"]]) ∧
      (apply (besideCell [.ofText "< ", .ofBranch .strong [.ofText "b"]])).tree.at? [0, 0, 1] =
        some (.ofBranch (.tableCell 1 1 true none)
          [.ofText "< ", .ofBranch .strong [.ofText "b"]]) ∧
      ¬ HoldsOnlyMark [.ofText "< ", .ofBranch .strong [.ofText "b"]] := by
  refine ⟨rfl, rfl, ?_⟩
  rintro ⟨hset, -⟩
  rcases hset (.ofBranch .strong [.ofText "b"]) (.tail _ List.mem_cons_self) with
    ⟨text, m, h⟩ | h
  · cases h
  · have hopening := h default (.source "#strong[") (by rw [Node.ofBranch, Typst.fragments]; simp)
    simp at hopening

end TableSpans

end TypstPress
