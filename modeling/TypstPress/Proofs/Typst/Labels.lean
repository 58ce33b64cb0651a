import TypstPress.Proofs.Typst.WholeDocument

/-!
# The labels in a source

A reference to a footnote is the one place where a source is set to
`#footnote(label("..."))`, and a footnote's body is the one that ends in
`]#label("...")`. This file reads the labels back from the pieces of a source
and finds what was put in: `references` are the labels of the footnotes
referred to, in order, and `bodyLabels` are those of the footnotes that are set
(`labelled_compiledFragments`).

Everything else in a source begins no label (`Unlabelled`), which leaves the
references and the ends of the bodies to read. Raw source may well look like a
label, and is excluded.
-/

namespace TypstPress.Typst

open Node

/-! ## Labels between pieces -/

/-- The pieces that stand between an opening and a closing one. -/
def between (opened closed : String) : List String → List String
  | [] => []
  | s :: rest =>
    match rest with
    | label :: end' :: _ =>
      if s = opened ∧ end' = closed then label :: between opened closed rest
      else between opened closed rest
    | _ => between opened closed rest

/-- The labels that a source refers to. -/
def references (pieces : List String) : List String := between referenceStart "\"))" pieces

/-- The labels that a source gives to the bodies of footnotes. -/
def bodyLabels (pieces : List String) : List String := between bodyStart "\")\n" pieces

theorem between_cons_of_ne {opened closed s : String} (h : s ≠ opened) (rest : List String) :
    between opened closed (s :: rest) = between opened closed rest := by
  match rest with
  | [] => rfl
  | [_] => rfl
  | label :: end' :: rest => rw [between, if_neg fun hs => h hs.1]

theorem between_append {opened closed : String} {pieces : List String}
    (h : ∀ piece ∈ pieces, piece ≠ opened) (rest : List String) :
    between opened closed (pieces ++ rest) = between opened closed rest := by
  induction pieces with
  | nil => rfl
  | cons piece pieces ih =>
      rw [List.forall_mem_cons] at h
      rw [List.cons_append, between_cons_of_ne h.1, ih h.2]

theorem between_label {opened closed label : String} (hlabel : label ≠ opened)
    (hclosed : closed ≠ opened) (rest : List String) :
    between opened closed (opened :: label :: closed :: rest) =
      label :: between opened closed rest := by
  rw [between]
  simp only [and_self, if_true]
  rw [between_cons_of_ne hlabel, between_cons_of_ne hclosed]

/-! ## Labels of trees -/

/-- Fragments whose references are to footnotes that are defined, in the order
in which they are made, and which give labels to the bodies of `given`. -/
structure Labelled (s : Setting) (fs : List Fragment) (given : List String) : Prop where
  references : ∀ rest, references (sources fs ++ rest) =
    (citations fs).map (noteLabel s) ++ references rest
  bodies : ∀ rest, bodyLabels (sources fs ++ rest) =
    given.map (noteLabel s) ++ bodyLabels rest
  defined : ∀ identifier ∈ citations fs, s.definitions.hasNote identifier = true

namespace Labelled

variable {s : Setting}

theorem append {fs gs : List Fragment} {is js : List String} (h : Labelled s fs is)
    (h' : Labelled s gs js) : Labelled s (fs ++ gs) (is ++ js) where
  references rest := by
    rw [sources_append, citations_append, List.append_assoc, h.references, h'.references,
      List.map_append, List.append_assoc]
  bodies rest := by
    rw [sources_append, List.append_assoc, h.bodies, h'.bodies, List.map_append,
      List.append_assoc]
  defined := by
    intro identifier hmem
    rw [citations_append, List.mem_append] at hmem
    rcases hmem with hmem | hmem
    · exact h.defined identifier hmem
    · exact h'.defined identifier hmem

theorem of_unlabelled {fs : List Fragment} (h : Unlabelled fs) : Labelled s fs [] where
  references rest := by
    rw [h.citations, List.map_nil, List.nil_append]
    exact between_append (fun piece hpiece => (h.inert_of_mem hpiece).1) rest
  bodies := between_append fun piece hpiece => (h.inert_of_mem hpiece).2
  defined := by
    rw [h.citations]
    exact fun _ hmem => absurd hmem List.not_mem_nil

theorem defect (d : Defect) : Labelled s [.defect d] [] where
  references _ := rfl
  bodies _ := rfl
  defined := fun _ hmem => absurd hmem List.not_mem_nil

theorem of_unencodable {fs : List Fragment} (h : Unencodable fs) : Labelled s fs [] := by
  obtain ⟨t, rfl⟩ := h
  exact defect _

theorem piece {t : String} (h : Inert t) : Labelled s [.source t] [] :=
  of_unlabelled (.piece h)

theorem reference {identifier : String} (h : s.definitions.hasNote identifier = true) :
    Labelled s [.cite identifier, .source "#footnote(label(\"",
      .source (noteLabel s identifier), .source "\"))"] [] where
  references := between_label (inert_noteLabel s identifier).1 (by decide)
  bodies :=
    between_append (List.forall_mem_cons.2 ⟨by decide, List.forall_mem_cons.2
      ⟨(inert_noteLabel s identifier).2, List.forall_mem_singleton.2 (by decide)⟩⟩)
  defined := by
    intro identifier' hmem
    rw [List.mem_singleton.1 hmem]
    exact h

theorem bodyEnd (identifier : String) :
    Labelled s [.source "]#label(\"", .source (noteLabel s identifier), .source "\")\n"]
      [identifier] where
  references :=
    between_append (List.forall_mem_cons.2 ⟨by decide, List.forall_mem_cons.2
      ⟨(inert_noteLabel s identifier).1, List.forall_mem_singleton.2 (by decide)⟩⟩)
  bodies := between_label (inert_noteLabel s identifier).2 (by decide)
  defined := fun _ hmem => absurd hmem List.not_mem_nil

end Labelled

theorem labelled_leafFragments (s : Setting) {l : Leaf}
    (h : (Kind.leaf l).isRawSource = false) : Labelled s (leafFragments s l) [] := by
  cases l with
  | footnoteReference identifier =>
      rw [leafFragments]
      split
      · next hnote => exact Labelled.reference hnote
      · exact .of_unlabelled (unlabelled_missingNote identifier)
  | typstContent content => cases h
  | _ => exact (unlabelled_leafFragments s rfl).elim .of_unlabelled .of_unencodable

/-- What the footnotes' labels are read from: no document and no raw source. -/
def Kind.isLabelSafe (k : Kind) : Bool := !k.isDocument && !k.isRawSource

theorem labelled_correspondence (s : Setting) :
    Correspondence s s (Alone Kind.isLabelSafe) fun fs _ => Labelled s fs [] where
  layout h := by
    cases h.1
    rfl
  noDocument h hk := by
    obtain rfl := layout_eq_document hk
    cases h.2
  nil := .of_unlabelled .nil
  append := .append
  leaf h := labelled_leafFragments s (by simpa [Kind.isLabelSafe, Kind.isDocument] using h.2)
  frame _ _ h :=
    ((Labelled.of_unlabelled (unlabelled_opening s _)).append h).append
      (.of_unlabelled (unlabelled_closing s _))
  item h :=
    ((Labelled.piece (by decide)).append h).append
      (.piece (by decide))
  table hwords h :=
    ((Labelled.of_unlabelled (unlabelled_tableOpening hwords)).append h).append
      (.piece (by decide))
  rowEnd := .piece (by decide)
  cell h :=
    ((Labelled.of_unlabelled (unlabelled_cellOpening _ _)).append h).append
      (.piece (by decide))
  padding := .piece (by decide)
  strayRow := .defect _
  unknownAlignment _ := .defect _
  notTabular _ _ := .defect _

theorem labelled_fragmentsAll (s : Setting) {ns : List Node}
    (h : allOf Kind.isLabelSafe ns = true) : Labelled s (fragmentsAll s ns) [] :=
  allCorrespond (labelled_correspondence s) (matchesAll_self alone_self h)

/-! ## Labels of documents -/

theorem labelled_bodies {s : Setting} {notes : List (String × List Node)}
    (h : ∀ note ∈ notes, allOf Kind.isLabelSafe note.2 = true) :
    Labelled s (notes.flatMap fun note => bodyFragments s note.1 note.2)
      (notes.map Prod.fst) := by
  induction notes with
  | nil => exact .of_unlabelled .nil
  | cons note notes ih =>
      rw [List.forall_mem_cons] at h
      have hbody := ((Labelled.piece (t := "#footnote[\n") (by decide)).append
        (labelled_fragmentsAll s h.1)).append (Labelled.bodyEnd note.1)
      exact hbody.append (ih h.2)

/-- The footnotes whose bodies compiling a document sets. -/
def setNotes (options : TypstOptions) (document : Node) : List (String × List Node) :=
  settledNotes (settingOf options document)
    (citeAll [] (citations (fragmentsAll (settingOf options document) document.children)))
    (settingOf options document).definitions.notes

/-- A document's source refers to the footnotes that its fragments refer to,
and labels the bodies that are set. -/
theorem labelled_compiledFragments (options : TypstOptions) {document : Node}
    (hroot : document.isDocument = true)
    (hsafe : allOf Kind.isLabelSafe document.children = true) :
    Labelled (settingOf options document) (compiledFragments options document)
      ((setNotes options document).map Prod.fst) := by
  have htext : Labelled (settingOf options document)
      (textFragments (settingOf options document) document.children) [] :=
    (labelled_fragmentsAll _ hsafe).append
      (.of_unlabelled (.source (by decide) (.piece (by decide))))
  have hnotes : ∀ note ∈ setNotes options document,
      allOf Kind.isLabelSafe note.2 = true := fun note hnote =>
    Definitions.allOf_notes_collect hroot hsafe
      ((settledNotes_sublist _ _ _).subset hnote)
  have hall := (htext.append (labelled_bodies hnotes)).append (.piece (t := "]))\n") (by decide))
  rw [List.append_nil, List.nil_append] at hall
  exact hall

end TypstPress.Typst
