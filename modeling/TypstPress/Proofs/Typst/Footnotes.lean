import Mathlib.Data.List.Count
import Mathlib.Data.List.Nodup
import TypstPress.Proofs.Typst.Labels
import TypstPress.Proofs.Typst.Scan

/-!
# When every footnote that is referred to is set

The bodies of footnotes are set one after the other, in the order of their
definitions, and each is set if something set before has referred to it. So a
body that refers ahead brings the later footnote in, but a body that refers
back comes too late: when nothing else refers to the earlier footnote, its
turn has passed, its body is never set, and the label of the reference names
nothing.

`Reached` says which footnotes a document reaches, without the order in which
references are recorded: those that the text refers to, and those that a
reached footnote refers to ahead. These are the ones that are set
(`mem_settledNotes_iff`). With it `footnote_labels` gives the exact condition:
every label that is referred to belongs to one body that is set if and only if
no reached footnote refers back to one that is not reached.
-/

namespace TypstPress.Typst

open Node

/-- The footnotes that setting the body of a footnote refers to. -/
def noteCitations (s : Setting) (note : String × List Node) : List String :=
  citations (fragmentsAll s note.2)

/-- The footnotes that are reached from references to `cited`: these, and those
that the body of a reached footnote refers to and that are defined after it. -/
inductive Reached (s : Setting) (cited : List String) (notes : List (String × List Node)) :
    String → Prop where
  | text {identifier : String} :
      identifier ∈ cited → Reached s cited notes identifier
  | ahead {early late : String × List Node} : [early, late].Sublist notes →
      Reached s cited notes early.1 → late.1 ∈ noteCitations s early →
      Reached s cited notes late.1

section

variable {s : Setting} {cited : List String} {notes : List (String × List Node)}

theorem citations_bodyFragments (s : Setting) (note : String × List Node) :
    citations (bodyFragments s note.1 note.2) = noteCitations s note := by
  show citations (fragmentsAll s note.2 ++ _) = _
  rw [citations_append, noteCitations]
  exact List.append_nil _

theorem pair_sublist_cons {early late note : String × List Node} :
    [early, late].Sublist (note :: notes) ↔
      [early, late].Sublist notes ∨ early = note ∧ late ∈ notes := by
  rw [List.sublist_cons_iff]
  constructor
  · rintro (h | ⟨rest, heq, h⟩)
    · exact Or.inl h
    · injection heq with hearly hrest
      rw [← hrest, List.singleton_sublist] at h
      exact Or.inr ⟨hearly, h⟩
  · rintro (h | ⟨rfl, h⟩)
    · exact Or.inl h
    · exact Or.inr ⟨[late], rfl, List.singleton_sublist.2 h⟩

theorem Reached.mono {cited' : List String} (h : ∀ i ∈ cited, i ∈ cited') {identifier : String}
    (hr : Reached s cited notes identifier) : Reached s cited' notes identifier := by
  induction hr with
  | text hi => exact .text (h _ hi)
  | ahead hpair _ hcited ih => exact .ahead hpair ih hcited

/-- A footnote that is referred to hands on its own references. -/
theorem reached_cons_of_mem {note : String × List Node} (hnote : note.1 ∈ cited)
    {identifier : String} (hi : identifier ∈ notes.map Prod.fst) :
    Reached s cited (note :: notes) identifier ↔
      Reached s (citeAll cited (noteCitations s note)) notes identifier := by
  constructor
  · intro h
    clear hi
    induction h with
    | text hcited => exact .text (mem_citeAll.2 (Or.inl hcited))
    | ahead hpair _ hcited ih =>
        rcases pair_sublist_cons.1 hpair with hpair | ⟨rfl, -⟩
        · exact .ahead hpair ih hcited
        · exact .text (mem_citeAll.2 (Or.inr hcited))
  · intro h
    induction h with
    | text hcited =>
        rcases mem_citeAll.1 hcited with hcited | hcited
        · exact .text hcited
        · obtain ⟨late, hlate, rfl⟩ := List.mem_map.1 hi
          exact .ahead (pair_sublist_cons.2 (Or.inr ⟨rfl, hlate⟩)) (.text hnote) hcited
    | @ahead early late hpair _ hcited ih =>
        have hearly : early ∈ notes := hpair.subset List.mem_cons_self
        exact .ahead (hpair.cons note) (ih (List.mem_map_of_mem hearly)) hcited

/-- A footnote that is not referred to is not reached from the ones after it. -/
theorem not_reached_head {note : String × List Node} (hnote : note.1 ∉ cited)
    (hnew : note.1 ∉ notes.map Prod.fst) : ¬ Reached s cited (note :: notes) note.1 := by
  intro h
  generalize hi : note.1 = identifier at h
  cases h with
  | text hcited => exact hnote (hi ▸ hcited)
  | @ahead early late hpair _ _ =>
      have hlate : late ∈ notes := by
        rcases pair_sublist_cons.1 hpair with hpair | ⟨-, hlate⟩
        · exact hpair.subset (List.mem_cons_of_mem _ List.mem_cons_self)
        · exact hlate
      exact hnew (hi ▸ List.mem_map_of_mem hlate)

theorem reached_cons_of_not_mem {note : String × List Node} (hnote : note.1 ∉ cited)
    (hnew : note.1 ∉ notes.map Prod.fst) {identifier : String} :
    Reached s cited (note :: notes) identifier ↔ Reached s cited notes identifier := by
  constructor
  · intro h
    induction h with
    | text hcited => exact .text hcited
    | ahead hpair hearly hcited ih =>
        rcases pair_sublist_cons.1 hpair with hpair | ⟨rfl, -⟩
        · exact .ahead hpair ih hcited
        · exact absurd hearly (not_reached_head hnote hnew)
  · intro h
    induction h with
    | text hcited => exact .text hcited
    | ahead hpair _ hcited ih => exact .ahead (hpair.cons note) ih hcited

/-- The footnotes that are set are the ones that are reached. -/
theorem mem_settledNotes_iff (hnodup : (notes.map Prod.fst).Nodup) {note : String × List Node}
    (hnote : note ∈ notes) :
    note ∈ settledNotes s cited notes ↔ Reached s cited notes note.1 := by
  induction notes generalizing cited with
  | nil => cases hnote
  | cons first notes ih =>
      rw [List.map_cons, List.nodup_cons] at hnodup
      rw [settledNotes, citations_bodyFragments]
      by_cases hfirst : first.1 ∈ cited
      · rw [if_pos (List.contains_iff_mem.2 hfirst)]
        rcases List.mem_cons.1 hnote with rfl | hnote
        · exact iff_of_true List.mem_cons_self (.text hfirst)
        · have hid := List.mem_map_of_mem (f := Prod.fst) hnote
          have hne : note ≠ first := fun heq => hnodup.1 (heq ▸ hid)
          rw [List.mem_cons, or_iff_right hne, ih hnodup.2 hnote, reached_cons_of_mem hfirst hid]
      · rw [if_neg fun h => hfirst (List.contains_iff_mem.1 h)]
        rcases List.mem_cons.1 hnote with rfl | hnote
        · refine iff_of_false ?_ (not_reached_head hfirst hnodup.1)
          intro hmem
          exact hnodup.1 (List.mem_map_of_mem ((settledNotes_sublist s cited notes).subset hmem))
        · rw [ih hnodup.2 hnote, reached_cons_of_not_mem hfirst hnodup.1]

end

/-! ## Whole documents -/

/-- The footnotes that a document reaches from the references in its text. -/
def DocumentReaches (options : TypstOptions) (document : Node) (identifier : String) : Prop :=
  Reached (settingOf options document)
    (citations (fragmentsAll (settingOf options document) document.children))
    (Definitions.collect document).notes identifier

theorem mem_setNotes_iff {options : TypstOptions} {document : Node} {note : String × List Node}
    (h : note ∈ (Definitions.collect document).notes) :
    note ∈ setNotes options document ↔ DocumentReaches options document note.1 := by
  refine (mem_settledNotes_iff (Definitions.nodup_notes_collect document) h).trans ⟨?_, ?_⟩
  · exact Reached.mono fun i hi => (mem_citeAll.1 hi).resolve_left List.not_mem_nil
  · exact Reached.mono fun i hi => mem_citeAll.2 (Or.inr hi)

theorem mem_notes_of_mem_setNotes {options : TypstOptions} {document : Node}
    {note : String × List Node} (h : note ∈ setNotes options document) :
    note ∈ (Definitions.collect document).notes :=
  (settledNotes_sublist _ _ _).subset h

theorem eq_of_fst_eq {document : Node} {a b : String × List Node}
    (ha : a ∈ (Definitions.collect document).notes)
    (hb : b ∈ (Definitions.collect document).notes) (h : a.1 = b.1) : a = b :=
  List.inj_on_of_nodup_map (Definitions.nodup_notes_collect document) ha hb h

theorem mem_citations_compiledFragments {options : TypstOptions} {document : Node}
    {identifier : String} :
    identifier ∈ citations (compiledFragments options document) ↔
      identifier ∈ citations (fragmentsAll (settingOf options document) document.children) ∨
        ∃ note ∈ setNotes options document,
          identifier ∈ noteCitations (settingOf options document) note := by
  rw [compiledFragments, documentFragments, citations_append, citations_append,
    citations_textFragments, List.mem_append, List.mem_append, or_assoc]
  refine or_congr_right ?_
  show _ ∈ citations (noteFragments _ _ _) ∨ identifier ∈ [] ↔ _
  rw [or_iff_left List.not_mem_nil, noteFragments, citations, List.filterMap_flatMap,
    List.mem_flatMap]
  refine exists_congr fun note => and_congr_right fun _ => ?_
  rw [← citations_bodyFragments]
  rfl

theorem noteLabel_injective (s : Setting) : Function.Injective (noteLabel s) := by
  intro i j h
  have hlabel := congrArg String.toList (escape_injective h)
  rw [String.toList_append, String.toList_append] at hlabel
  exact String.toList_inj.1 (List.append_cancel_left hlabel)

theorem count_noteLabel {s : Setting} {given : List String} (h : given.Nodup)
    (identifier : String) :
    (given.map (noteLabel s)).count (noteLabel s identifier) = 1 ↔ identifier ∈ given := by
  rw [List.count_map_of_injective given _ (noteLabel_injective s)]
  constructor
  · intro hcount
    exact List.count_pos_iff.1 (by omega)
  · exact List.count_eq_one_of_mem h

theorem pair_sublist_total {notes : List (String × List Node)} {a b : String × List Node}
    (ha : a ∈ notes) (hb : b ∈ notes) :
    a = b ∨ [a, b].Sublist notes ∨ [b, a].Sublist notes := by
  induction notes with
  | nil => cases ha
  | cons note notes ih =>
      rcases List.mem_cons.1 ha with rfl | ha'
      · rcases List.mem_cons.1 hb with rfl | hb'
        · exact Or.inl rfl
        · exact Or.inr (Or.inl (pair_sublist_cons.2 (Or.inr ⟨rfl, hb'⟩)))
      · rcases List.mem_cons.1 hb with rfl | hb'
        · exact Or.inr (Or.inr (pair_sublist_cons.2 (Or.inr ⟨rfl, ha'⟩)))
        · rcases ih ha' hb' with h | h | h
          · exact Or.inl h
          · exact Or.inr (Or.inl (h.cons note))
          · exact Or.inr (Or.inr (h.cons note))

/-- Every footnote that a document refers to is set if and only if no footnote
that it reaches refers back to one that it does not reach. -/
theorem citations_set_iff {options : TypstOptions} {document : Node}
    (hdefined : ∀ i ∈ citations (compiledFragments options document),
      i ∈ (Definitions.collect document).notes.map Prod.fst) :
    (∀ i ∈ citations (compiledFragments options document),
        i ∈ (setNotes options document).map Prod.fst) ↔
      ∀ early late, [early, late].Sublist (Definitions.collect document).notes →
        DocumentReaches options document late.1 →
        early.1 ∈ noteCitations (settingOf options document) late →
        DocumentReaches options document early.1 := by
  constructor
  · intro hset early late hpair hlate hback
    have hearly : early ∈ (Definitions.collect document).notes :=
      hpair.subset List.mem_cons_self
    have hlateSet : late ∈ setNotes options document :=
      (mem_setNotes_iff (hpair.subset (List.mem_cons_of_mem _ List.mem_cons_self))).2 hlate
    have hcited := mem_citations_compiledFragments.2 (Or.inr ⟨late, hlateSet, hback⟩)
    obtain ⟨note, hnote, hid⟩ := List.mem_map.1 (hset early.1 hcited)
    rw [← eq_of_fst_eq (mem_notes_of_mem_setNotes hnote) hearly hid]
    exact (mem_setNotes_iff (mem_notes_of_mem_setNotes hnote)).1 hnote
  · intro hback i hi
    obtain ⟨target, htarget, rfl⟩ := List.mem_map.1 (hdefined i hi)
    refine List.mem_map_of_mem ((mem_setNotes_iff htarget).2 ?_)
    rcases mem_citations_compiledFragments.1 hi with hi | ⟨note, hset, hi⟩
    · exact .text hi
    · have hnote := mem_notes_of_mem_setNotes hset
      have hreached := (mem_setNotes_iff hnote).1 hset
      -- only a reference back depends on what else reaches its target
      rcases pair_sublist_total hnote htarget with rfl | hahead | hbehind
      · exact hreached
      · exact .ahead hahead hreached hi
      · exact hback target note hbehind hreached hi

/-- The source of a document that compiles refers only to labels that it gives
to one body each, exactly when no footnote that the document reaches refers
back to one that it does not reach. -/
theorem footnote_labels (options : TypstOptions) {document : Node} {compiled : Compiled}
    (hwhole : document.isWholeDocument = true)
    (hraw : document.all (!·.isRawSource) = true)
    (hok : (compile options document).result = .ok compiled) :
    compiled.source = String.join (sources (compiledFragments options document)) ∧
      ((∀ label ∈ references (sources (compiledFragments options document)),
          (bodyLabels (sources (compiledFragments options document))).count label = 1) ↔
        ∀ early late, [early, late].Sublist (Definitions.collect document).notes →
          DocumentReaches options document late.1 →
          early.1 ∈ noteCitations (settingOf options document) late →
          DocumentReaches options document early.1) := by
  have hroot : document.isDocument = true := (Bool.and_eq_true_iff.1 hwhole).1
  have hsafe : allOf Kind.isLabelSafe document.children = true :=
    allOf_and.2 ⟨(Bool.and_eq_true_iff.1 hwhole).2, allOf_children hraw⟩
  have hlabelled := labelled_compiledFragments options hroot hsafe
  have hreferences := hlabelled.references []
  have hbodies := hlabelled.bodies []
  rw [List.append_nil] at hreferences hbodies
  have hnodup : ((setNotes options document).map Prod.fst).Nodup :=
    (Definitions.nodup_notes_collect document).sublist
      ((settledNotes_sublist _ _ _).map Prod.fst)
  refine ⟨?_, ?_⟩
  · rw [compile_result options hwhole] at hok
    split at hok
    · cases hok
    · cases hok
      rfl
  · rw [← citations_set_iff fun i hi => Definitions.hasNote_iff.1 (hlabelled.defined i hi)]
    rw [hreferences, hbodies, show references [] = [] from rfl,
      show bodyLabels [] = [] from rfl, List.append_nil, List.append_nil, List.forall_mem_map]
    exact forall₂_congr fun i _ => count_noteLabel hnodup i

/-- Two footnotes that refer to each other, and a text that refers to one. -/
def cyclicDocument : Node :=
  .ofBranch .document
    [.ofBranch (.footnoteDefinition "a")
        [.ofBranch .paragraph [.ofLeaf (.footnoteReference "b")]],
      .ofBranch (.footnoteDefinition "b")
        [.ofBranch .paragraph [.ofLeaf (.footnoteReference "a")]],
      .ofBranch .paragraph [.ofLeaf (.footnoteReference "a")]]

theorem footnote_labels_of_cycle :
    ∃ compiled, (compile {} cyclicDocument).result = .ok compiled ∧
      compiled.source = String.join (sources (compiledFragments {} cyclicDocument)) ∧
      ((∀ label ∈ references (sources (compiledFragments {} cyclicDocument)),
          (bodyLabels (sources (compiledFragments {} cyclicDocument))).count label = 1) ↔
        ∀ early late, [early, late].Sublist (Definitions.collect cyclicDocument).notes →
          DocumentReaches {} cyclicDocument late.1 →
          early.1 ∈ noteCitations (settingOf {} cyclicDocument) late →
          DocumentReaches {} cyclicDocument early.1) := by
  have hdefect : firstDefect (compiledFragments {} cyclicDocument) = none := by
    rw [compiledFragments, settingOf, Definitions.collect_eq]
    decide
  obtain ⟨compiled, hok⟩ : ∃ compiled, (compile {} cyclicDocument).result = .ok compiled := by
    rw [compile_result {} (by decide), hdefect]
    exact ⟨_, rfl⟩
  exact ⟨compiled, hok, footnote_labels {} (by decide) (by decide) hok⟩

/-- The text refers to the second of two footnotes, and that one to the first. -/
def backwardDocument : Node :=
  .ofBranch .document
    [.ofBranch (.footnoteDefinition "a") [.ofBranch .paragraph [.ofText "A"]],
      .ofBranch (.footnoteDefinition "b")
        [.ofBranch .paragraph [.ofLeaf (.footnoteReference "a")]],
      .ofBranch .paragraph [.ofLeaf (.footnoteReference "b")]]

/-- The source of the document refers to the first footnote and does not set
it. -/
theorem backward_reference_dangles :
    backwardDocument.isWholeDocument = true ∧
      backwardDocument.all (!·.isRawSource) = true ∧
      ∃ compiled, (compile {} backwardDocument).result = .ok compiled ∧
      compiled.source = String.join (sources (compiledFragments {} backwardDocument)) ∧
      "user-footnote: a" ∈ references (sources (compiledFragments {} backwardDocument)) ∧
      (bodyLabels (sources (compiledFragments {} backwardDocument))).count
        "user-footnote: a" = 0 := by
  have hfragments : compiledFragments {} backwardDocument =
      [.source "#par[", .cite "b", .source "#footnote(label(\"", .source "user-footnote: b",
        .source "\"))", .source "]\n", .source "\n", .source "#hide(place(top+left, [\n",
        .source "#footnote[\n", .source "#par[", .cite "a", .source "#footnote(label(\"",
        .source "user-footnote: a", .source "\"))", .source "]\n", .source "]#label(\"",
        .source "user-footnote: b", .source "\")\n", .source "]))\n"] := by
    rw [compiledFragments, settingOf, Definitions.collect_eq]
    decide
  rw [compile_result {} (by decide), hfragments]
  exact ⟨by decide, by decide, _, rfl, rfl, by decide, by decide⟩

end TypstPress.Typst
