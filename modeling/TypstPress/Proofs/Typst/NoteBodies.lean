import TypstPress.Proofs.Typst.Footnotes
import TypstPress.Proofs.Typst.Reached

/-!
# Exactly which footnotes are set

The loop over the footnotes asks for each whether it has been referred to by
now, and setting a body is itself a way of referring to footnotes. `Footnotes`
answers with the references that were recorded; this file says what they are in
terms of the tree alone. The footnotes are the first definitions of their
identifiers (`notes_collect`), a reference counts if setting comes to it
(`citations_fragmentsAll`), and a footnote is set exactly when a reference to it
is reached in the text or in the body of one set before it
(`mem_setNotes_iff_rendered`).

`footnotes_set` puts this together with the form of the source, in which the
bodies that are set stand one behind the other. Nothing goes around in circles:
setting the bodies of a document without inner ones always comes to an end.
-/

namespace TypstPress

open Node

/-! ## The first definitions -/

/-- The identifier and the content of a footnote definition. -/
def Node.note? : Node → Option (String × List Node)
  | .branch (.footnoteDefinition identifier) content _ => some (identifier, content)
  | _ => none

/-- The footnotes whose identifier no earlier one has. -/
def firsts : List (String × List Node) → List (String × List Node)
  | [] => []
  | note :: notes => note :: (firsts notes).filter (·.1 != note.1)

/-- The first definition of every footnote of a document, in document order. -/
def firstNotes (document : Node) : List (String × List Node) :=
  firsts (document.preorder.filterMap Node.note?)

namespace Definitions

theorem collectNode_of_note? (d : Definitions) {n : Node} {note : String × List Node}
    (h : n.note? = some note) :
    (d.collectNode n).notes = if d.hasNote note.1 then d.notes else d.notes ++ [note] := by
  unfold Node.note? at h
  split at h
  · cases h
    rw [collectNode]
    split <;> rfl
  · cases h

theorem notes_collectNode_of_note?_eq_none (d : Definitions) {n : Node} (h : n.note? = none) :
    (d.collectNode n).notes = d.notes := by
  rcases notes_collectNode d n with heq | ⟨identifier, content, m, rfl, -, -⟩
  · exact heq
  · cases h

theorem notes_foldl (ns : List Node) (d : Definitions) :
    (ns.foldl collectNode d).notes =
      d.notes ++ (firsts (ns.filterMap Node.note?)).filter fun note => !d.hasNote note.1 := by
  induction ns generalizing d with
  | nil => exact (List.append_nil _).symm
  | cons n ns ih =>
      rw [List.foldl_cons, ih]
      have hhas : ∀ (e : Definitions) note, e.notes = d.notes → e.hasNote note = d.hasNote note :=
        fun e note he => by rw [hasNote, hasNote, he]
      cases hn : n.note? with
      | none =>
          have hnotes := notes_collectNode_of_note?_eq_none d hn
          simp only [List.filterMap_cons_none hn, hnotes, hhas _ _ hnotes]
      | some first =>
          have hnotes := collectNode_of_note? d hn
          rw [List.filterMap_cons_some hn, firsts, List.filter_cons, List.filter_filter]
          cases hfirst : d.hasNote first.1 with
          | true =>
              rw [hfirst, if_pos rfl] at hnotes
              rw [hnotes]
              simp only [hhas _ _ hnotes, Bool.not_true, Bool.false_eq_true, if_false]
              refine congrArg _ (List.filter_congr fun note _ => ?_)
              -- a footnote that is new is none of those that were there
              cases hnew : d.hasNote note.1 with
              | true => rfl
              | false =>
                  have hne : note.1 ≠ first.1 := by
                    intro heq
                    rw [heq, hfirst] at hnew
                    cases hnew
                  simp [hne]
          | false =>
              rw [hfirst, if_neg Bool.false_ne_true] at hnotes
              have hcons : ∀ note : String × List Node, (d.collectNode n).hasNote note.1 =
                  (d.hasNote note.1 || first.1 == note.1) := by
                intro note
                rw [hasNote, hnotes, List.any_append, hasNote]
                simp
              rw [hnotes, List.append_assoc]
              simp only [hcons, Bool.not_false, if_true, List.singleton_append]
              refine congrArg _ (congrArg _ (List.filter_congr fun note _ => ?_))
              rw [Bool.not_or, bne_comm]
              rfl

/-- The footnotes that are collected are the first definitions. -/
theorem notes_collect (document : Node) : (collect document).notes = firstNotes document := by
  rw [collect_eq, notes_foldl, List.nil_append, firstNotes]
  exact List.filter_eq_self.2 fun _ _ => rfl

end Definitions

namespace Typst

/-! ## The references that are reached -/

/-- The footnote that a node refers to, defined or not. -/
def reference? : Node → Option String
  | .leaf (.footnoteReference identifier) _ => some identifier
  | _ => none

/-- The footnotes that setting trees comes to a reference to. -/
def rendered (ns : List Node) : List String := (reachedAll ns).filterMap reference?

variable {s : Setting}

theorem citations_nodeEvents (s : Setting) (n : Node) :
    citations (nodeEvents s n) = (reference? n).toList.filter s.definitions.hasNote := by
  cases n with
  | branch k cs m => rfl
  | leaf l m =>
      rw [nodeEvents, citations_events]
      cases l with
      | footnoteReference identifier =>
          rw [leafFragments, reference?, Option.toList_some, List.filter_singleton]
          cases s.definitions.hasNote identifier <;> rfl
      | typstContent content => rfl
      | _ => exact (unlabelled_leafFragments s rfl).elim Unlabelled.citations Unencodable.citations

/-- Setting trees refers to the footnotes with a definition that it comes to a
reference to. -/
theorem citations_fragmentsAll {ns : List Node} (h : allOf (!·.isDocument) ns = true)
    (hd : firstDefect (fragmentsAll s ns) = none) :
    citations (fragmentsAll s ns) = (rendered ns).filter s.definitions.hasNote := by
  rw [← citations_events, events_fragmentsAll h hd, rendered]
  generalize reachedAll ns = ms
  induction ms with
  | nil => rfl
  | cons n ms ih =>
      rw [List.flatMap_cons, citations_append, ih, citations_nodeEvents]
      cases hn : reference? n with
      | none => rw [List.filterMap_cons_none hn]; rfl
      | some identifier =>
          rw [List.filterMap_cons_some hn, ← List.singleton_append, List.filter_append]
          rfl

theorem mem_citations_iff_rendered {ns : List Node} (h : allOf (!·.isDocument) ns = true)
    (hd : firstDefect (fragmentsAll s ns) = none) {note : String × List Node}
    (hnote : note ∈ s.definitions.notes) :
    note.1 ∈ citations (fragmentsAll s ns) ↔ note.1 ∈ rendered ns := by
  have hhas : s.definitions.hasNote note.1 = true :=
    Definitions.hasNote_iff.2 (List.mem_map_of_mem hnote)
  rw [citations_fragmentsAll h hd, List.mem_filter, and_iff_left hhas]

/-! ## The bodies that are set -/

theorem mem_of_pair_sublist {before after : List (String × List Node)}
    {early note : String × List Node} (hnew : note ∉ after)
    (h : [early, note].Sublist (before ++ note :: after)) : early ∈ before := by
  obtain ⟨first, second, heq, hbefore, hafter⟩ := List.sublist_append_iff.1 h
  cases first with
  | nil =>
      rw [List.nil_append] at heq
      rw [← heq] at hafter
      rcases pair_sublist_cons.1 hafter with hpair | ⟨-, hnote⟩
      · exact absurd (hpair.subset (List.mem_cons_of_mem _ List.mem_cons_self)) hnew
      · exact absurd hnote hnew
  | cons head rest =>
      injection heq with hhead hrest
      rw [hhead]
      exact hbefore.subset List.mem_cons_self

/-- A footnote is set exactly when the text refers to it, or the body of one
that is set before it. -/
theorem mem_settledNotes_split {cited : List String} {before after : List (String × List Node)}
    {note : String × List Node}
    (hnodup : ((before ++ note :: after).map Prod.fst).Nodup) :
    note ∈ settledNotes s cited (before ++ note :: after) ↔
      note.1 ∈ cited ∨ ∃ early ∈ before,
        early ∈ settledNotes s cited (before ++ note :: after) ∧
          note.1 ∈ noteCitations s early := by
  have hmem : note ∈ before ++ note :: after :=
    List.mem_append_right before List.mem_cons_self
  have hnew : note ∉ after := by
    intro hafter
    rw [List.map_append, List.map_cons] at hnodup
    exact (List.nodup_cons.1 hnodup.of_append_right).1 (List.mem_map_of_mem hafter)
  rw [mem_settledNotes_iff hnodup hmem]
  constructor
  · intro hreached
    generalize hidentifier : note.1 = identifier at hreached
    cases hreached with
    | text hcited => exact Or.inl hcited
    | @ahead early late hpair hearly hcited =>
        have hlate : late ∈ before ++ note :: after :=
          hpair.subset (List.mem_cons_of_mem _ List.mem_cons_self)
        obtain rfl : late = note := List.inj_on_of_nodup_map hnodup hlate hmem hidentifier.symm
        have hbefore : early ∈ before := mem_of_pair_sublist hnew hpair
        have hmemEarly : early ∈ before ++ late :: after := hpair.subset List.mem_cons_self
        exact Or.inr ⟨early, hbefore, (mem_settledNotes_iff hnodup hmemEarly).2 hearly, hcited⟩
  · rintro (hcited | ⟨early, hbefore, hset, hcited⟩)
    · exact .text hcited
    · have hmemEarly : early ∈ before ++ note :: after := List.mem_append_left _ hbefore
      have hpair : [early, note].Sublist (before ++ note :: after) :=
        (List.singleton_sublist.2 hbefore).append
          (List.singleton_sublist.2 List.mem_cons_self)
      exact .ahead hpair ((mem_settledNotes_iff hnodup hmemEarly).1 hset) hcited

/-! ## Setting always comes to an end -/

theorem noDocument_bodyFragments {content : List Node} (h : allOf (!·.isDocument) content = true)
    (identifier : String) : NoDocument (bodyFragments s identifier content) := by
  have hopening : AllDirect [.source "#footnote[\n"] := .one rfl
  have hlabel : AllDirect
      [.source "]#label(\"", .source (noteLabel s identifier), .source "\")\n"] :=
    .cons rfl (.cons rfl (.one rfl))
  exact .frame hopening (noDocument_fragmentsAll s h) hlabel

theorem noDocument_compiledFragments (options : TypstOptions) {document : Node}
    (hwhole : document.isWholeDocument = true) :
    NoDocument (compiledFragments options document) := by
  obtain ⟨hroot, hinner⟩ := Bool.and_eq_true_iff.1 hwhole
  have hnotes : NoDocument ((setNotes options document).flatMap fun note =>
      bodyFragments (settingOf options document) note.1 note.2) := by
    intro f hf
    obtain ⟨note, hnote, hbody⟩ := List.mem_flatMap.1 hf
    have hcontent := Definitions.allOf_notes_collect hroot hinner (mem_notes_of_mem_setNotes hnote)
    exact noDocument_bodyFragments hcontent note.1 f hbody
  have htext : NoDocument (textFragments (settingOf options document) document.children) :=
    (noDocument_fragmentsAll _ hinner).append (.of_direct (.cons rfl (.one rfl)))
  exact (htext.append hnotes).append (.piece _)

theorem failure_ne_endless {d : Defect} (h : d ≠ .endless) :
    d.failure ≠ Defect.endless.failure := by
  cases d with
  | endless => exact absurd rfl h
  | notTabular kindName part => simp [Defect.failure, Fault.missingPart]
  | unencodableUrl t => simp [Defect.failure, IllFormedText.fault]
  | notADocument | strayRow | unknownAlignment => simp [Defect.failure]

theorem compile_ne_endless (options : TypstOptions) {document : Node}
    (hwhole : document.isWholeDocument = true) :
    (compile options document).result ≠ .error Defect.endless.failure := by
  rw [compile_result options hwhole]
  split
  · next d hd =>
      obtain ⟨f, hf, hdefect⟩ := List.exists_of_findSome?_eq_some hd
      have hfree := noDocument_compiledFragments options hwhole f hf
      have hne : d ≠ .endless := by
        rintro rfl
        cases f with
        | defect e =>
            cases hdefect
            cases hfree
        | _ => cases hdefect
      intro heq
      injection heq with heq
      exact failure_ne_endless hne heq
  · exact fun heq => nomatch heq

/-! ## The source of a document -/

/-- The source of several trees, one after the other. -/
def treeSource (s : Setting) (ns : List Node) : String :=
  String.join (sources (fragmentsAll s ns))

/-- The source of the body of a footnote, with its label. -/
def noteSource (s : Setting) (note : String × List Node) : String :=
  "#footnote[\n" ++ treeSource s note.2 ++ "]#label(\"" ++ noteLabel s note.1 ++ "\")\n"

theorem join_sources_append (fs gs : List Fragment) :
    String.join (sources (fs ++ gs)) = String.join (sources fs) ++ String.join (sources gs) := by
  rw [sources_append, String.join_append]

theorem join_sources_bodyFragments (s : Setting) (note : String × List Node) :
    String.join (sources (bodyFragments s note.1 note.2)) = noteSource s note := by
  have hopening : String.join (sources (.source "#footnote[\n" :: fragmentsAll s note.2)) =
      "#footnote[\n" ++ treeSource s note.2 :=
    String.join_cons
  have hlabel : String.join (sources
      [.source "]#label(\"", .source (noteLabel s note.1), .source "\")\n"]) =
      "]#label(\"" ++ noteLabel s note.1 ++ "\")\n" := by
    show String.join ["]#label(\"", noteLabel s note.1, "\")\n"] = _
    simp only [String.join_cons, String.join_nil, String.append_empty, String.append_assoc]
  unfold noteSource
  rw [bodyFragments, join_sources_append, hopening, hlabel]
  simp only [String.append_assoc]

theorem join_sources_noteFragments (s : Setting) (cited : List String)
    (notes : List (String × List Node)) :
    String.join (sources (noteFragments s cited notes)) =
      String.join ((settledNotes s cited notes).map (noteSource s)) := by
  rw [noteFragments]
  induction settledNotes s cited notes with
  | nil => rfl
  | cons note notes ih =>
      rw [List.flatMap_cons, join_sources_append, ih, join_sources_bodyFragments, List.map_cons,
        String.join_cons]

theorem join_sources_compiledFragments (options : TypstOptions) (document : Node) :
    String.join (sources (compiledFragments options document)) =
      treeSource (settingOf options document) document.children ++
        "\n#hide(place(top+left, [\n" ++
        String.join ((setNotes options document).map (noteSource (settingOf options document))) ++
        "]))\n" := by
  rw [compiledFragments, documentFragments, textFragments, join_sources_append,
    join_sources_append, join_sources_append, join_sources_noteFragments]
  rfl

/-! ## Whole documents -/

theorem firstDefect_eq_none_of_subset {fs gs : List Fragment} (h : fs ⊆ gs)
    (hd : firstDefect gs = none) : firstDefect fs = none :=
  List.findSome?_eq_none_iff.2 fun f hf => List.findSome?_eq_none_iff.1 hd f (h hf)

theorem text_subset_compiledFragments (options : TypstOptions) (document : Node) :
    fragmentsAll (settingOf options document) document.children ⊆
      compiledFragments options document := by
  intro f hf
  rw [compiledFragments, documentFragments, textFragments, List.append_assoc, List.append_assoc]
  exact List.mem_append_left _ hf

theorem note_subset_compiledFragments {options : TypstOptions} {document : Node}
    {note : String × List Node} (h : note ∈ setNotes options document) :
    fragmentsAll (settingOf options document) note.2 ⊆ compiledFragments options document := by
  intro f hf
  have hbody : f ∈ bodyFragments (settingOf options document) note.1 note.2 :=
    List.mem_append_left _ (List.mem_cons_of_mem _ hf)
  rw [compiledFragments, documentFragments]
  exact List.mem_append_left _ (List.mem_append_right _ (List.mem_flatMap.2 ⟨note, h, hbody⟩))

/-- A footnote is set exactly when a reference to it is reached in the text, or
in the body of one that is set before it. -/
theorem mem_setNotes_iff_rendered {options : TypstOptions} {document : Node}
    (hwhole : document.isWholeDocument = true)
    (hd : firstDefect (compiledFragments options document) = none)
    {before after : List (String × List Node)} {note : String × List Node}
    (hsplit : firstNotes document = before ++ note :: after) :
    note ∈ setNotes options document ↔
      note.1 ∈ rendered document.children ∨
        ∃ early ∈ before, early ∈ setNotes options document ∧ note.1 ∈ rendered early.2 := by
  obtain ⟨hroot, hinner⟩ := Bool.and_eq_true_iff.1 hwhole
  have hnotes : (settingOf options document).definitions.notes = before ++ note :: after :=
    (Definitions.notes_collect document).trans hsplit
  have hnodup : ((before ++ note :: after).map Prod.fst).Nodup := by
    rw [← hnotes]
    exact Definitions.nodup_notes_collect document
  have hnote : note ∈ (settingOf options document).definitions.notes := by
    rw [hnotes]
    exact List.mem_append_right before List.mem_cons_self
  have htext := mem_citations_iff_rendered hinner
    (firstDefect_eq_none_of_subset (text_subset_compiledFragments options document) hd) hnote
  have hbody : ∀ early ∈ setNotes options document,
      note.1 ∈ noteCitations (settingOf options document) early ↔ note.1 ∈ rendered early.2 := by
    intro early hearly
    exact mem_citations_iff_rendered
      (Definitions.allOf_notes_collect hroot hinner (mem_notes_of_mem_setNotes hearly))
      (firstDefect_eq_none_of_subset (note_subset_compiledFragments hearly) hd) hnote
  have hset := @mem_settledNotes_split (settingOf options document)
    (citeAll [] (citations (fragmentsAll (settingOf options document) document.children)))
    before after note hnodup
  rw [← hnotes, mem_citeAll, or_iff_right List.not_mem_nil, htext] at hset
  refine hset.trans (or_congr_right (exists_congr fun early => and_congr_right fun _ => ?_))
  exact and_congr_right fun hearly => hbody early hearly

/-- A document without inner ones that compiles sets each footnote at most once,
in the order of the first definitions and with their content, and sets those
that the text or a body set before refers to. The loop over them always comes to
an end. -/
theorem footnotes_set (options : TypstOptions) {document : Node}
    (hwhole : document.isWholeDocument = true) :
    (compile options document).result ≠ .error Defect.endless.failure ∧
      ∀ compiled, (compile options document).result = .ok compiled →
        ∃ set : List (String × List Node),
          set.Sublist (firstNotes document) ∧
          (set.map Prod.fst).Nodup ∧
          compiled.source =
            treeSource (settingOf options document) document.children ++
              "\n#hide(place(top+left, [\n" ++
              String.join (set.map (noteSource (settingOf options document))) ++ "]))\n" ∧
          ∀ before note after, firstNotes document = before ++ note :: after →
            (note ∈ set ↔ note.1 ∈ rendered document.children ∨
              ∃ early ∈ before, early ∈ set ∧ note.1 ∈ rendered early.2) := by
  refine ⟨compile_ne_endless options hwhole, ?_⟩
  intro compiled hok
  have hresult := compile_result options hwhole
  cases hd : firstDefect (compiledFragments options document) with
  | some d =>
      rw [hresult, hd] at hok
      cases hok
  | none =>
      rw [hresult, hd] at hok
      cases hok
      have hsublist : (setNotes options document).Sublist (Definitions.collect document).notes :=
        settledNotes_sublist _ _ _
      refine ⟨setNotes options document, ?_, ?_, join_sources_compiledFragments options document,
        fun before note after hsplit => mem_setNotes_iff_rendered hwhole hd hsplit⟩
      · rw [← Definitions.notes_collect]
        exact hsublist
      · exact (Definitions.nodup_notes_collect document).sublist (hsublist.map Prod.fst)

/-- Two footnotes that refer to each other, the first defined twice, and one that
only a suppressed cell refers to. -/
def mergedDocument : Node :=
  .ofBranch .document
    [.ofBranch (.footnoteDefinition "a") [.ofLeaf (.footnoteReference "b")],
      .ofBranch (.footnoteDefinition "b") [.ofLeaf (.footnoteReference "a")],
      .ofBranch (.footnoteDefinition "a") [.ofLeaf (.footnoteReference "c")],
      .ofBranch (.footnoteDefinition "c") [.ofText "C"],
      .ofBranch (.table true [none, none])
        [.ofBranch (.tableRow true)
          [.ofBranch (.tableCell 2 1 false none) [.ofLeaf (.footnoteReference "a")],
            .ofBranch (.tableCell 1 1 true none) [.ofLeaf (.footnoteReference "c")]]]]

theorem footnotes_set_of_merged :
    ∃ (compiled : Compiled) (set : List (String × List Node)),
      (compile {} mergedDocument).result = .ok compiled ∧
      set.Sublist (firstNotes mergedDocument) ∧
      compiled.source =
        treeSource (settingOf {} mergedDocument) mergedDocument.children ++
          "\n#hide(place(top+left, [\n" ++
          String.join (set.map (noteSource (settingOf {} mergedDocument))) ++ "]))\n" ∧
      ("a", [.ofLeaf (.footnoteReference "b")]) ∈ set ∧
      ("b", [.ofLeaf (.footnoteReference "a")]) ∈ set ∧
      ("c", [.ofText "C"]) ∉ set := by
  have hwhole : mergedDocument.isWholeDocument = true := by decide
  have hnotes : firstNotes mergedDocument =
      [("a", [.ofLeaf (.footnoteReference "b")]), ("b", [.ofLeaf (.footnoteReference "a")]),
        ("c", [.ofText "C"])] := rfl
  have hdefect : firstDefect (compiledFragments {} mergedDocument) = none := by
    rw [compiledFragments, settingOf, Definitions.collect_eq]
    decide
  obtain ⟨compiled, hok⟩ :
      ∃ compiled, (compile {} mergedDocument).result = .ok compiled := by
    rw [compile_result {} hwhole, hdefect]
    exact ⟨_, rfl⟩
  obtain ⟨set, hsublist, -, hsource, hset⟩ := (footnotes_set {} hwhole).2 compiled hok
  have hfirst := (hset [] _ _ hnotes).2 (Or.inl (by decide))
  have hsecond := (hset [_] _ _ hnotes).2 (Or.inr ⟨_, List.mem_cons_self, hfirst, by decide⟩)
  refine ⟨compiled, set, hok, hsublist, hsource, hfirst, hsecond, ?_⟩
  rw [hset [_, _] _ _ hnotes]
  rintro (htext | ⟨early, hearly, -, hbody⟩)
  · exact absurd htext (by decide)
  · revert early
    decide

end Typst

end TypstPress
