import TypstPress.Proofs.Typst.Labels
import TypstPress.Proofs.Typst.Payload

/-!
# A source says what its document says

Scanning the source of a document for string literals gives back exactly what
the document says, in order (`literals_compile`). Nothing is lost on the way and
nothing altered, however many quotes and backslashes it holds; and since all
else in the source is plain, nothing is added either.

The induction follows the fragments of a tree. Where they meet a defect no
source is set, so what they say matters only if they meet none (`SaysIfSet`);
that is enough, because compiling succeeds only then. The footnotes are set in
rounds that depend on the references made so far, and there the payloads have to
mention the same footnotes as the fragments refer to.
-/

namespace TypstPress.Typst

open Node

variable {s : Setting}

/-! ## Trees -/

/-- Whether fragments that meet no defect say the payloads. -/
def SaysIfSet (s : Setting) (fs : List Fragment) (ps : List Payload) : Prop :=
  firstDefect fs = none → Says s fs ps

namespace SaysIfSet

theorem always {fs : List Fragment} {ps : List Payload} (h : Says s fs ps) :
    SaysIfSet s fs ps :=
  fun _ => h

theorem defect (d : Defect) (ps : List Payload) : SaysIfSet s [.defect d] ps := nofun

theorem append {fs gs : List Fragment} {ps qs : List Payload} (h : SaysIfSet s fs ps)
    (h' : SaysIfSet s gs qs) : SaysIfSet s (fs ++ gs) (ps ++ qs) := by
  intro hdefect
  rw [firstDefect_append, Option.or_eq_none_iff] at hdefect
  exact (h hdefect.1).append (h' hdefect.2)

theorem preceded {before fs : List Fragment} {ps : List Payload} (hbefore : Says s before [])
    (h : SaysIfSet s fs ps) : SaysIfSet s (before ++ fs) ps :=
  (always hbefore).append h

theorem frame {before fs after : List Fragment} {ps : List Payload} (hbefore : Says s before [])
    (h : SaysIfSet s fs ps) (hafter : Says s after []) :
    SaysIfSet s (before ++ fs ++ after) ps := by
  simpa only [List.append_nil] using (h.preceded hbefore).append (always hafter)

end SaysIfSet

theorem length_of_tableColumns {alignments columns : List (Option String)} {rows : List Node}
    (h : tableColumns alignments rows = .ok columns) :
    columns.length = columnCount alignments rows := by
  cases alignments with
  | cons alignment alignments =>
      cases h
      rfl
  | nil =>
      match rows with
      | [] =>
          cases h
          rfl
      | .leaf l m :: rows => cases h
      | .branch k cells m :: rows =>
          cases k with
          | tableRow isHeader =>
              cases h
              exact List.length_map _
          | _ => cases h

theorem rowPayload_cons {row : Node}
    (h : ∀ isHeader cells m, row ≠ .branch (.tableRow isHeader) cells m) (columns : Nat)
    (rows : List Node) : rowPayload s columns (row :: rows) = rowPayload s columns rows := by
  rw [rowPayload]
  exact h

theorem silent_lineEnd : Says s [.source "\n"] [] := silent_piece (by decide)

/-- What is no row is skipped in a table without columns, and is a defect in any
other. -/
theorem says_strayRow {row : Node}
    (h : ∀ isHeader cells m, row ≠ .branch (.tableRow isHeader) cells m) {columns : Nat}
    {rows : List Node}
    (hrest : SaysIfSet s (rowFragments s columns rows) (rowPayload s columns rows)) :
    SaysIfSet s (rowFragments s columns (row :: rows)) (rowPayload s columns (row :: rows)) := by
  rw [rowFragments_cons s columns h, rowPayload_cons h]
  split
  · exact hrest.preceded silent_lineEnd
  · exact .defect _ _

theorem says_padding (columns : Nat) :
    Says s (List.replicate columns (.source "table.cell()[], ")) [] :=
  says_silent fun f hf => by
    rw [(List.mem_replicate.1 hf).2]
    show Plain "table.cell()[], "
    decide

mutual

/-- The fragments of a tree say what the tree says. -/
theorem says_fragments (hnames : ∀ name ∈ s.options.imageAttributes, Plain name) {n : Node}
    (h : n.all Kind.isLabelSafe = true) : SaysIfSet s (fragments s n) (payload s n) := by
  match n with
  | .leaf l m =>
      rw [fragments, payload]
      rw [all_leaf, Kind.isLabelSafe, Bool.and_eq_true, Bool.not_eq_true', Bool.not_eq_true'] at h
      exact .always (says_leaf hnames h.2)
  | .branch k cs m =>
      rw [all_branch] at h
      by_cases hframed : k.layout.isFramed = true
      · rw [fragments_framed s hframed, payload_framed hframed]
        have hinner : SaysIfSet s (inner s k.layout cs) (payloadAll s cs) := by
          unfold inner
          split
          · exact says_itemFragments hnames h.2
          · exact says_unwrappedFragments hnames h.2
          · exact says_fragmentsAll hnames h.2
        exact ((SaysIfSet.always (says_opening k)).append hinner).append
          (.always (says_closing k))
      · cases k with
        | document => cases h.1
        | table headed alignments =>
            have hrows := fun columns => says_rowFragments hnames columns h.2
            cases cs with
            | nil =>
                rw [fragments, payload, rowPayload]
                exact .always .nil
            | cons row rows =>
                rw [fragments, payload]
                cases hcolumns : tableColumns alignments (row :: rows) with
                | error d => exact .defect d _
                | ok columns =>
                    -- the payload counts the columns itself, in the tree
                    rw [← length_of_tableColumns hcolumns]
                    dsimp only
                    cases hwords : columnAlignments columns with
                    | error alignment => exact .defect _ _
                    | ok words =>
                        exact (hrows columns.length).frame (says_tableOpening hwords)
                          (silent_piece (by decide))
        | tableRow isHeader =>
            rw [fragments, payload]
            exact .defect _ _
        | footnoteDefinition identifier =>
            rw [fragments, payload]
            exact .always .nil
        | _ => exact absurd rfl hframed
termination_by sizeOf n

theorem says_fragmentsAll (hnames : ∀ name ∈ s.options.imageAttributes, Plain name)
    {ns : List Node} (h : allOf Kind.isLabelSafe ns = true) :
    SaysIfSet s (fragmentsAll s ns) (payloadAll s ns) := by
  match ns with
  | [] =>
      rw [fragmentsAll, payloadAll]
      exact .always .nil
  | n :: ns =>
      rw [allOf_cons] at h
      rw [fragmentsAll, payloadAll]
      exact (says_fragments hnames h.1).append (says_fragmentsAll hnames h.2)
termination_by sizeOf ns

theorem says_itemFragments (hnames : ∀ name ∈ s.options.imageAttributes, Plain name)
    {ns : List Node} (h : allOf Kind.isLabelSafe ns = true) :
    SaysIfSet s (itemFragments s ns) (payloadAll s ns) := by
  match ns with
  | [] =>
      rw [itemFragments, payloadAll]
      exact .always .nil
  | n :: ns =>
      rw [allOf_cons] at h
      have hopening : Says s [.source "["] [] := silent_piece (by decide)
      have hclosing : Says s [.source "],\n"] [] := silent_piece (by decide)
      have hitem := (says_fragments hnames h.1).frame hopening hclosing
      rw [itemFragments, payloadAll]
      simpa using hitem.append (says_itemFragments hnames h.2)
termination_by sizeOf ns

theorem says_unwrappedFragments (hnames : ∀ name ∈ s.options.imageAttributes, Plain name)
    {ns : List Node} (h : allOf Kind.isLabelSafe ns = true) :
    SaysIfSet s (unwrappedFragments s ns) (payloadAll s ns) := by
  match ns with
  | [] =>
      rw [unwrappedFragments, payloadAll]
      exact .always .nil
  | .leaf l m :: ns =>
      rw [allOf_cons] at h
      rw [unwrappedFragments_cons s (fun _ _ => Node.noConfusion), payloadAll]
      exact (says_fragments hnames h.1).append (says_unwrappedFragments hnames h.2)
  | .branch k cs m :: ns =>
      rw [allOf_cons, all_branch] at h
      have hrest := says_unwrappedFragments hnames h.2
      by_cases hk : k.layout = .paragraph
      · have hp := layout_eq_paragraph hk
        subst hp
        have hpayload : payload s (.branch .paragraph cs m) = payloadAll s cs := by
          rw [payload_framed rfl, openingPayload, closingPayload, List.nil_append,
            List.append_nil] <;> nofun
        rw [unwrappedFragments, payloadAll, hpayload]
        exact (says_fragmentsAll hnames h.1.2).append hrest
      · rw [unwrappedFragments_cons s (branch_ne_paragraph hk), payloadAll]
        exact (says_fragments hnames (all_branch.2 h.1)).append hrest
termination_by sizeOf ns

theorem says_rowFragments (hnames : ∀ name ∈ s.options.imageAttributes, Plain name)
    (columns : Nat) {rows : List Node} (h : allOf Kind.isLabelSafe rows = true) :
    SaysIfSet s (rowFragments s columns rows) (rowPayload s columns rows) := by
  match rows with
  | [] =>
      rw [rowFragments, rowPayload]
      exact .always .nil
  | .leaf l m :: rows =>
      rw [allOf_cons] at h
      exact says_strayRow (fun _ _ _ => Node.noConfusion) (says_rowFragments hnames columns h.2)
  | .branch k cells m :: rows =>
      rw [allOf_cons, all_branch] at h
      have hcells := says_cellFragments hnames columns h.1.2
      have hrest := says_rowFragments hnames columns h.2
      by_cases hk : k.layout = .row
      · obtain ⟨isHeader, rfl⟩ := layout_eq_row hk
        rw [rowFragments, rowPayload]
        exact hcells.append (hrest.preceded silent_lineEnd)
      · exact says_strayRow (branch_ne_row hk) hrest
termination_by sizeOf rows

theorem says_cellFragments (hnames : ∀ name ∈ s.options.imageAttributes, Plain name)
    (columns : Nat) {cells : List Node} (h : allOf Kind.isLabelSafe cells = true) :
    SaysIfSet s (cellFragments s columns cells) (cellPayload s columns cells) := by
  match columns, cells with
  | 0, cells =>
      rw [cellFragments, cellPayload]
      exact .always .nil
  | columns + 1, [] =>
      rw [cellFragments, cellPayload]
      · exact .always (says_padding _)
      · nofun
  | columns + 1, .leaf l m :: cells =>
      rw [cellFragments_cons s columns fun _ _ _ _ _ _ => Node.noConfusion]
      exact .defect _ _
  | columns + 1, .branch k cs m :: cells =>
      rw [allOf_cons, all_branch] at h
      have hcontent := says_fragmentsAll hnames h.1.2
      have hrest := says_cellFragments hnames columns h.2
      cases hl : k.layout with
      | cell colspan rowspan suppressed =>
          obtain ⟨alignment, rfl⟩ := layout_eq_cell hl
          rw [cellFragments, cellPayload]
          refine SaysIfSet.append ?_ hrest
          cases suppressed with
          | true => exact .always .nil
          | false =>
              exact hcontent.frame (says_cellOpening colspan rowspan) (silent_piece (by decide))
      | _ =>
          rw [cellFragments_cons s columns (branch_ne_cell (by
            intro _ _ _ hcell
            rw [hl] at hcell
            cases hcell))]
          exact .defect _ _
termination_by sizeOf cells

end

/-! ## Documents -/

theorem says_bodyFragments (hnames : ∀ name ∈ s.options.imageAttributes, Plain name)
    {content : List Node} (h : allOf Kind.isLabelSafe content = true) (identifier : String) :
    SaysIfSet s (bodyFragments s identifier content)
      (payloadAll s content ++ [.text (s.options.footnoteLabelPrefix ++ identifier)]) := by
  have hopening : Says s [.source "#footnote[\n"] [] := silent_piece (by decide)
  have hlabel : Says s
      [.source "]#label(\"", .source (noteLabel s identifier), .source "\")\n"]
      [.text (s.options.footnoteLabelPrefix ++ identifier)] :=
    says_literal (fun _ => rfl) (fun _ _ => rfl) _
  exact ((says_fragmentsAll hnames h).preceded hopening).append (.always hlabel)

theorem mentioned_body (content : List Node) (label : String) :
    mentioned (payloadAll s content ++ [.text label]) = mentioned (payloadAll s content) := by
  rw [mentioned, List.filterMap_append]
  exact List.append_nil _

/-- The bodies that are set depend on which footnotes were referred to, not on
how often. -/
theorem says_noteFragments (hnames : ∀ name ∈ s.options.imageAttributes, Plain name)
    {notes : List (String × List Node)} (h : ∀ note ∈ notes, allOf Kind.isLabelSafe note.2 = true)
    {cited cited' : List String} (hcited : ∀ i, i ∈ cited ↔ i ∈ cited') :
    SaysIfSet s (noteFragments s cited notes) (notesPayload s cited' notes) := by
  induction notes generalizing cited cited' with
  | nil => exact .always .nil
  | cons note notes ih =>
      rw [List.forall_mem_cons] at h
      have hcontains : cited.contains note.1 = cited'.contains note.1 := by
        rw [Bool.eq_iff_iff, List.contains_iff_mem, List.contains_iff_mem, hcited]
      rw [noteFragments, settledNotes, notesPayload, hcontains]
      split
      · -- what the body refers to decides about the notes behind it, so the
        -- body has to be known to say its payloads before they are gone through
        rw [List.flatMap_cons, List.append_cons]
        intro hdefect
        rw [firstDefect_append, Option.or_eq_none_iff] at hdefect
        have hbody := says_bodyFragments hnames h.1 note.1 hdefect.1
        refine hbody.append (ih h.2 (fun i => ?_) hdefect.2)
        rw [mem_citeAll, hbody.cites, mentioned_body, List.mem_append, hcited]
      · exact ih h.2 hcited

theorem says_compiledFragments (options : TypstOptions)
    (hnames : ∀ name ∈ options.imageAttributes, Plain name) {document : Node}
    (hroot : document.isDocument = true)
    (hsafe : allOf Kind.isLabelSafe document.children = true) :
    SaysIfSet (settingOf options document) (compiledFragments options document)
      (payloadAll (settingOf options document) document.children ++
        notesPayload (settingOf options document)
          (mentioned (payloadAll (settingOf options document) document.children))
          (Definitions.collect document).notes) := by
  intro hdefect
  rw [compiledFragments, documentFragments, textFragments, firstDefect_append, firstDefect_append,
    firstDefect_append] at hdefect
  simp only [Option.or_eq_none_iff] at hdefect
  have htext := says_fragmentsAll hnames hsafe hdefect.1.1.1
  have hhidden : Says (settingOf options document)
      [.source "\n", .source "#hide(place(top+left, [\n"] [] :=
    says_silent (List.forall_mem_cons.2 ⟨by decide, List.forall_mem_singleton.2 (by decide)⟩)
  refine ((htext.followedBy hhidden).append ?_).followedBy (silent_piece (by decide))
  refine says_noteFragments hnames
    (fun note hnote => Definitions.allOf_notes_collect hroot hsafe hnote) (fun i => ?_)
    hdefect.1.2
  rw [mem_citeAll, htext.cites]
  simp

/-- A document whose texts try to close their literals, with a link and a note. -/
def quotingDocument : Node :=
  .ofBranch .document
    [.ofBranch .paragraph
      [.ofText "say \"x\"", .ofBranch (.link "u\\" none) [.ofText "\"]#y["],
        .ofLeaf (.footnoteReference "n")],
      .ofBranch (.footnoteDefinition "n") [.ofText "z\n"]]

end TypstPress.Typst
