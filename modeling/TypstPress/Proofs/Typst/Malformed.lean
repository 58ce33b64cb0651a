import TypstPress.Proofs.Document.WellFormed
import TypstPress.Proofs.Typst.Encodable
import TypstPress.Proofs.Typst.Images

/-!
# When compiling fails

A tree whose tables hold rows and whose rows hold cells may be odd in any other
way, and three of its oddities stop setting: a row that stands outside a table,
a table with an alignment that is none of the three, and an image whose url has
no UTF-8 form. They only do so where setting comes to them. `reached` lists what
it comes to in a tree, and `setNodes` adds the footnotes that are set, so the
question when compiling fails has the answer one would wish for: when one of
these nodes is among the three, and the failure is that of the first
(`compile_fails_iff`).

Only two of the three are failures of the tree. What an image stops at comes out
as the fault of encoding its url, and that is what a caller sees of a tree with
such an image unless a malformed node stands before it.

The lists of `Reached` and `Images` were made for documents that meet no defect.
Here a run may stop anywhere, and they are right up to that point: the first
defect of the fragments is the first of the nodes (`firstDefect_fragments`), and
as long as the bodies of footnotes meet none, the references in them are those
that the next footnotes are looked up in (`firstDefect_noteFragments`).
-/

namespace TypstPress

open Node

/-! ## Tabular trees -/

namespace Node

/-- Whether a table holds rows, and a row cells. All else holds what it likes. -/
def holdsParts : Node → Bool
  | .branch (.table ..) rows _ => rows.all (·.kind.isRow)
  | .branch (.tableRow _) cells _ => cells.all (·.kind.isCell)
  | _ => true

/-- Whether every table of the trees holds rows, and every row cells. -/
def areTabular (ns : List Node) : Bool := (preorderAll ns).all holdsParts

/-- Whether every table of the tree holds rows, and every row cells. -/
def isTabular (n : Node) : Bool := n.preorder.all holdsParts

variable {k : Branch} {cs ns : List Node} {n : Node} {m : Metadata}

theorem isTabular_branch :
    (Node.branch k cs m).isTabular = true ↔
      (Node.branch k cs m).holdsParts = true ∧ areTabular cs = true := by
  rw [isTabular, preorder, List.all_cons, Bool.and_eq_true, areTabular]

theorem areTabular_cons :
    areTabular (n :: ns) = true ↔ n.isTabular = true ∧ areTabular ns = true := by
  rw [areTabular, preorderAll, List.all_append, Bool.and_eq_true, isTabular, areTabular]

theorem areTabular_children (h : n.isTabular = true) : areTabular n.children = true := by
  cases n with
  | leaf l m => rfl
  | branch k cs m => exact (isTabular_branch.1 h).2

mutual

/-- What a walk visits below one of its nodes it visits anyway. -/
theorem preorder_subset {n m : Node} (h : m ∈ n.preorder) : m.preorder ⊆ n.preorder := by
  match n with
  | .leaf l d =>
      rw [preorder, List.mem_singleton] at h
      rw [h]
      exact List.Subset.refl _
  | .branch k cs d =>
      rw [preorder] at h ⊢
      rcases List.mem_cons.1 h with rfl | h
      · rw [preorder]
        exact List.Subset.refl _
      · exact List.subset_cons_of_subset _ (preorderAll_subset h)

theorem preorderAll_subset {ns : List Node} {m : Node} (h : m ∈ preorderAll ns) :
    m.preorder ⊆ preorderAll ns := by
  match ns with
  | [] =>
      rw [preorderAll] at h
      cases h
  | n :: ns =>
      rw [preorderAll] at h ⊢
      rcases List.mem_append.1 h with h | h
      · exact List.subset_append_of_subset_left _ (preorder_subset h)
      · exact List.subset_append_of_subset_right _ (preorderAll_subset h)

end

theorem isTabular_of_mem_preorder {tree n : Node} (h : tree.isTabular = true)
    (hn : n ∈ tree.preorder) : n.isTabular = true :=
  List.all_eq_true.2 fun _ hm => List.all_eq_true.1 h _ (preorder_subset hn hm)

end Node

theorem Definitions.areTabular_notes_collect {tree : Node} (h : tree.isTabular = true)
    {note : String × List Node} (hnote : note ∈ (collect tree).notes) :
    areTabular note.2 = true := by
  obtain ⟨m, hm⟩ := mem_notes_collect hnote
  exact (isTabular_branch.1 (isTabular_of_mem_preorder h hm)).2

namespace Typst

/-! ## Malformed nodes -/

/-- The first alignment that tables cannot be set with. -/
def unknownAlignment? (alignments : List (Option String)) : Option String :=
  alignments.findSome? fun alignment => if isAlignment alignment then none else alignment

/-- Why setting stops at a node, if it does: the node is a row that is not set as
part of a table, or a table with at least one row and an unknown alignment. -/
def malformed? : Node → Option Defect
  | .branch (.tableRow _) _ _ => some .strayRow
  | .branch (.table _ alignments) (_ :: _) _ =>
    (unknownAlignment? alignments).map .unknownAlignment
  | _ => none

/-- The nodes that setting a document comes to unless it stops: those of its
text, then those of the footnotes that are set. -/
def setNodes (document : Node) : List Node :=
  reachedAll document.children ++
    (notesSet (rendered document.children) (firstNotes document)).flatMap fun note =>
      reachedAll note.2

/-! ## Images that cannot be encoded -/

/-- Why setting stops at an image, if it does: the url that it is set with has no
UTF-8 form. -/
def unencodable? (url? : String → Option Url) (n : Node) : Option Defect :=
  match (imageUrl? url? n).map Url.encodable with
  | some (.error t) => some (.unencodableUrl t)
  | _ => none

/-- Why setting stops at a node, if it does. -/
def stop? (url? : String → Option Url) (n : Node) : Option Defect :=
  (malformed? n).or (unencodable? url? n)

/-- Why setting stops at the first of some nodes at which it does. -/
def firstStop (url? : String → Option Url) (ns : List Node) : Option Defect :=
  ns.findSome? (stop? url?)

section

variable {url? : String → Option Url} {n : Node} {d : Defect}

theorem firstStop_append (ms ns : List Node) :
    firstStop url? (ms ++ ns) = (firstStop url? ms).or (firstStop url? ns) :=
  List.findSome?_append

theorem firstStop_cons_of_none (h : stop? url? n = none) (ns : List Node) :
    firstStop url? (n :: ns) = firstStop url? ns := by
  rw [firstStop, List.findSome?_cons, h, firstStop]

theorem stop?_framed {k : Branch} (h : k.layout.isFramed = true) (cs : List Node)
    (m : Metadata) : stop? url? (.branch k cs m) = none := by
  cases k with
  | table | tableRow => cases h
  | _ => rfl

/-- Setting stops at an image because of its url. -/
theorem exists_of_unencodable (h : unencodable? url? n = some d) :
    ∃ url t, imageUrl? url? n = some url ∧ url.encodable = .error t ∧ d = .unencodableUrl t := by
  unfold unencodable? at h
  split at h
  · next t ht =>
      obtain ⟨url, hurl, hencodable⟩ := Option.map_eq_some_iff.1 ht
      injection h with h
      exact ⟨url, t, hurl, hencodable, h.symm⟩
  · cases h

/-- A node is not malformed and an image at once. -/
theorem malformed?_of_unencodable (h : (unencodable? url? n).isSome) : malformed? n = none := by
  cases n with
  | leaf l m => rfl
  | branch k cs m => cases h

theorem stop?_of_malformed (h : malformed? n = some d) : stop? url? n = some d := by
  rw [stop?, h, Option.some_or]

theorem stop?_of_not_malformed (h : malformed? n = none) :
    stop? url? n = unencodable? url? n := by
  rw [stop?, h, Option.none_or]

end

theorem columnAlignments_of_isAlignment {alignments : List (Option String)}
    (h : alignments.all isAlignment = true) :
    ∃ words, columnAlignments alignments = .ok words := by
  induction alignments with
  | nil => exact ⟨[], rfl⟩
  | cons alignment alignments ih =>
      rw [List.all_cons, Bool.and_eq_true] at h
      obtain ⟨words, hwords⟩ := ih h.2
      unfold columnAlignments
      rw [hwords]
      split
      · exact ⟨_, rfl⟩
      · exact ⟨_, rfl⟩
      · exact ⟨_, rfl⟩
      · exact ⟨_, rfl⟩
      · next other hcenter hleft hright =>
          have hknown := h.1
          simp only [isAlignment, Bool.or_eq_true, beq_iff_eq] at hknown
          rcases hknown with (rfl | rfl) | rfl
          · exact absurd rfl hleft
          · exact absurd rfl hcenter
          · exact absurd rfl hright

theorem columnAlignments_of_unknown {alignments : List (Option String)} {unknown : String}
    (h : unknownAlignment? alignments = some unknown) :
    columnAlignments alignments = .error unknown := by
  induction alignments with
  | nil => cases h
  | cons alignment alignments ih =>
      rw [unknownAlignment?, List.findSome?_cons] at h
      unfold columnAlignments
      split
      · rw [ih h]; rfl
      · rw [ih h]; rfl
      · rw [ih h]; rfl
      · rw [ih h]; rfl
      · next other hcenter hleft hright =>
          have hother : isAlignment (some other) = false := by
            simp only [isAlignment, Bool.or_eq_false_iff, beq_eq_false_iff_ne]
            exact ⟨⟨fun heq => hleft (heq ▸ rfl), fun heq => hcenter (heq ▸ rfl)⟩,
              fun heq => hright (heq ▸ rfl)⟩
          rw [hother] at h
          injection h with h
          rw [h]

theorem columnAlignments_of_known {alignments : List (Option String)}
    (h : unknownAlignment? alignments = none) :
    ∃ words, columnAlignments alignments = .ok words := by
  refine columnAlignments_of_isAlignment (List.all_eq_true.2 fun alignment halignment => ?_)
  have hnone := List.findSome?_eq_none_iff.1 h alignment halignment
  cases alignment with
  | none => rfl
  | some word =>
      by_contra hknown
      rw [if_neg hknown] at hnone
      cases hnone

theorem tableColumns_of_known {alignments : List (Option String)} {row : Node}
    (hrow : row.kind.isRow = true) (h : unknownAlignment? alignments = none)
    (rows : List Node) :
    ∃ columns words, tableColumns alignments (row :: rows) = .ok columns ∧
      columnAlignments columns = .ok words := by
  cases alignments with
  | cons alignment alignments =>
      obtain ⟨words, hwords⟩ := columnAlignments_of_known h
      exact ⟨alignment :: alignments, words, rfl, hwords⟩
  | nil =>
      obtain ⟨isHeader, cells, m, rfl⟩ := eq_row hrow
      have hnone : unknownAlignment? (cells.map fun _ => none) = none := by
        rw [unknownAlignment?, List.findSome?_map]
        exact List.findSome?_eq_none_iff.2 fun _ _ => rfl
      obtain ⟨words, hwords⟩ := columnAlignments_of_known hnone
      exact ⟨_, words, rfl, hwords⟩

/-! ## The first defect of a tree -/

variable {s : Setting}

theorem firstDefect_of_events {fs gs : List Fragment} (h : events fs = events gs) :
    firstDefect fs = firstDefect gs := by
  rw [← firstDefect_events, h, firstDefect_events]

theorem firstDefect_image (url : Url) (altText : String) (attributes : Attributes) :
    firstDefect (image s url altText attributes) =
      match url.encodable with
      | .error t => some (.unencodableUrl t)
      | .ok _ => none := by
  cases url with
  | text url => exact (unlabelled_encodedImage s url altText attributes).allDirect.firstDefect
  | illFormed t => rfl

/-- Of the leaves only images stop setting. -/
theorem firstDefect_leafFragments (l : Leaf) (m : Metadata) :
    firstDefect (leafFragments s l) = stop? s.definitions.url? (.leaf l m) := by
  have hstop : stop? s.definitions.url? (.leaf l m) =
      unencodable? s.definitions.url? (.leaf l m) :=
    stop?_of_not_malformed rfl
  rw [hstop, unencodable?]
  cases l with
  | image url altText title attributes =>
      rw [leafFragments, firstDefect_image]
      cases url <;> rfl
  | imageReference identifier label form altText attributes =>
      rw [leafFragments, imageUrl?]
      cases s.definitions.url? identifier with
      | none => rfl
      | some url =>
          show firstDefect (image s url altText attributes) = _
          rw [firstDefect_image]
          cases url <;> rfl
  | footnoteReference identifier =>
      rw [leafFragments]
      cases s.definitions.hasNote identifier <;> rfl
  | _ => rfl

/-- A table stops setting at an alignment that is unknown, or where its rows do. -/
theorem firstDefect_table (headed : Bool) (alignments : List (Option String)) (m : Metadata)
    {rows : List Node} (hparts : rows.all (·.kind.isRow) = true)
    (hrows : ∀ columns, firstDefect (rowFragments s columns rows) =
      firstStop s.definitions.url? (reachedRows columns rows)) :
    firstDefect (fragments s (.branch (.table headed alignments) rows m)) =
      firstStop s.definitions.url? (reached (.branch (.table headed alignments) rows m)) := by
  cases rows with
  | nil => rw [fragments, reached, reachedRows]; rfl
  | cons row rows =>
      rw [fragments, reached]
      cases hknown : unknownAlignment? alignments with
      | some unknown =>
          -- a list with an unknown alignment is not empty, so it counts the columns
          cases alignments with
          | nil => cases hknown
          | cons alignment alignments =>
              simp only [tableColumns, columnAlignments_of_unknown hknown]
              rw [firstStop, List.findSome?_cons, stop?, malformed?, hknown]
              rfl
      | none =>
          obtain ⟨columns, words, hcolumns, hwords⟩ :=
            tableColumns_of_known (List.all_eq_true.1 hparts row List.mem_cons_self) hknown rows
          have hgoes : stop? s.definitions.url?
              (.branch (.table headed alignments) (row :: rows) m) = none := by
            rw [stop?, malformed?, hknown]
            rfl
          simp only [hcolumns, hwords]
          rw [firstStop_cons_of_none hgoes, firstDefect_append, firstDefect_append,
            (direct_tableOpening hwords).firstDefect, Option.none_or, hrows,
            length_of_tableColumns hcolumns]
          exact Option.or_none

mutual

/-- Setting a tabular tree stops at the first node that is reached and stops it. -/
theorem firstDefect_fragments {n : Node} (h : n.all (!·.isDocument) = true)
    (ht : n.isTabular = true) :
    firstDefect (fragments s n) = firstStop s.definitions.url? (reached n) := by
  match n with
  | .leaf l m =>
      rw [fragments, reached, firstStop, List.findSome?_cons, List.findSome?_nil,
        firstDefect_leafFragments l m]
      cases stop? s.definitions.url? (.leaf l m) <;> rfl
  | .branch k cs m =>
      rw [all_branch] at h
      have hparts := (isTabular_branch.1 ht).1
      have hbelow := (isTabular_branch.1 ht).2
      by_cases hframed : k.layout.isFramed = true
      · rw [firstDefect_of_events (events_framed s hframed cs m), reached_framed hframed,
          firstStop_cons_of_none (stop?_framed hframed cs m)]
        exact firstDefect_fragmentsAll h.2 hbelow
      · cases k with
        | document => cases h.1
        | table headed alignments =>
            exact firstDefect_table headed alignments m hparts fun columns =>
              firstDefect_rowFragments columns h.2 hparts hbelow
        | tableRow isHeader => rw [fragments, reached]; rfl
        | footnoteDefinition identifier => rw [fragments, reached]; rfl
        | _ => exact absurd rfl hframed
termination_by sizeOf n

theorem firstDefect_fragmentsAll {ns : List Node} (h : allOf (!·.isDocument) ns = true)
    (ht : areTabular ns = true) :
    firstDefect (fragmentsAll s ns) = firstStop s.definitions.url? (reachedAll ns) := by
  match ns with
  | [] => rw [fragmentsAll, reachedAll]; rfl
  | n :: ns =>
      rw [allOf_cons] at h
      rw [areTabular_cons] at ht
      rw [fragmentsAll, reachedAll, firstDefect_append, firstStop_append,
        firstDefect_fragments h.1 ht.1, firstDefect_fragmentsAll h.2 ht.2]
termination_by sizeOf ns

theorem firstDefect_rowFragments (columns : Nat) {rows : List Node}
    (h : allOf (!·.isDocument) rows = true) (hrows : rows.all (·.kind.isRow) = true)
    (ht : areTabular rows = true) :
    firstDefect (rowFragments s columns rows) =
      firstStop s.definitions.url? (reachedRows columns rows) := by
  match rows with
  | [] => rw [rowFragments, reachedRows]; rfl
  | row :: rows =>
      rw [List.all_cons, Bool.and_eq_true] at hrows
      obtain ⟨isHeader, cells, m, rfl⟩ := eq_row hrows.1
      rw [allOf_cons, all_branch] at h
      rw [areTabular_cons, isTabular_branch] at ht
      have hcells := firstDefect_cellFragments columns h.1.2 ht.1.1 ht.1.2
      have hrest := firstDefect_rowFragments columns h.2 hrows.2 ht.2
      rw [rowFragments, reachedRows, firstDefect_append, firstStop_append, hcells, ← hrest]
      rfl
termination_by sizeOf rows

theorem firstDefect_cellFragments (columns : Nat) {cells : List Node}
    (h : allOf (!·.isDocument) cells = true) (hcells : cells.all (·.kind.isCell) = true)
    (ht : areTabular cells = true) :
    firstDefect (cellFragments s columns cells) =
      firstStop s.definitions.url? (reachedCells columns cells) := by
  match columns, cells with
  | 0, cells => rw [cellFragments, reachedCells]; rfl
  | columns + 1, [] =>
      rw [cellFragments, ← firstDefect_events, events_padding, reachedCells]
      · rfl
      · nofun
  | columns + 1, cell :: cells =>
      rw [List.all_cons, Bool.and_eq_true] at hcells
      obtain ⟨colspan, rowspan, suppressed, alignment, cs, m, rfl⟩ := eq_cell hcells.1
      rw [allOf_cons, all_branch] at h
      rw [areTabular_cons, isTabular_branch] at ht
      rw [cellFragments, reachedCells, firstDefect_append, firstStop_append,
        firstDefect_cellFragments columns h.2 hcells.2 ht.2]
      cases suppressed with
      | true => rfl
      | false =>
          simp only [Bool.false_eq_true, if_false]
          rw [firstStop_cons_of_none rfl, firstDefect_append, firstDefect_append,
            (direct_cellOpening colspan rowspan).firstDefect, Option.none_or,
            firstDefect_fragmentsAll h.1.2 ht.1.2]
          exact congrArg (Option.or · _) Option.or_none
termination_by sizeOf cells

end

/-! ## The first defect of a document -/

theorem firstDefect_bodyFragments (s : Setting) (note : String × List Node) :
    firstDefect (bodyFragments s note.1 note.2) = firstDefect (fragmentsAll s note.2) := by
  show firstDefect (fragmentsAll s note.2 ++ _) = _
  rw [firstDefect_append]
  exact Option.or_none

/-- Setting the footnotes stops at the first node of those that are set at which
it does. A footnote whose body meets no defect refers to the others as its tree
tells, so the next one is looked up in the same references. -/
theorem firstDefect_noteFragments {cited cited' : List String} {notes : List (String × List Node)}
    (hnotes : ∀ note ∈ notes, note ∈ s.definitions.notes)
    (hcited : ∀ note ∈ notes, note.1 ∈ cited ↔ note.1 ∈ cited')
    (h : ∀ note ∈ notes, allOf (!·.isDocument) note.2 = true)
    (ht : ∀ note ∈ notes, areTabular note.2 = true) :
    firstDefect (noteFragments s cited notes) =
      firstStop s.definitions.url? ((notesSet cited' notes).flatMap fun note => reachedAll note.2) := by
  induction notes generalizing cited cited' with
  | nil => rfl
  | cons note notes ih =>
      rw [List.forall_mem_cons] at hnotes hcited h ht
      rw [noteFragments, settledNotes, notesSet]
      by_cases hnote : note.1 ∈ cited
      · rw [if_pos (List.contains_iff_mem.2 hnote),
          if_pos (List.contains_iff_mem.2 (hcited.1.1 hnote)), List.flatMap_cons,
          List.flatMap_cons, firstDefect_append, firstStop_append,
          firstDefect_bodyFragments, ← firstDefect_fragmentsAll (s := s) h.1 ht.1,
          citations_bodyFragments]
        cases hd : firstDefect (fragmentsAll s note.2) with
        | some d => rfl
        | none =>
            rw [Option.none_or, Option.none_or]
            refine ih hnotes.2 (fun later hlater => ?_) h.2 ht.2
            rw [mem_citeAll, List.mem_append, hcited.2 later hlater, noteCitations,
              mem_citations_iff_rendered h.1 hd (hnotes.2 later hlater)]
      · rw [if_neg fun hmem => hnote (List.contains_iff_mem.1 hmem),
          if_neg fun hmem => hnote (hcited.1.2 (List.contains_iff_mem.1 hmem))]
        exact ih hnotes.2 hcited.2 h.2 ht.2

theorem firstDefect_compiledFragments {options : TypstOptions} {document : Node}
    (hwhole : document.isWholeDocument = true) (ht : document.isTabular = true) :
    firstDefect (compiledFragments options document) =
      firstStop document.firstUrl? (setNodes document) := by
  obtain ⟨hroot, hinner⟩ := Bool.and_eq_true_iff.1 hwhole
  have htext := firstDefect_fragmentsAll (s := settingOf options document) hinner
    (areTabular_children ht)
  have hnotes : (settingOf options document).definitions.notes = firstNotes document :=
    Definitions.notes_collect document
  have hurl : document.firstUrl? = (settingOf options document).definitions.url? :=
    (funext (Definitions.url?_collect document)).symm
  rw [compiledFragments, documentFragments, textFragments, setNodes, firstStop_append, hurl,
    ← htext, firstDefect_append, firstDefect_append, firstDefect_append, ← hnotes]
  cases hd : firstDefect (fragmentsAll (settingOf options document) document.children) with
  | some d => rfl
  | none =>
      have hcited : ∀ note ∈ (settingOf options document).definitions.notes,
          note.1 ∈ citeAll [] (citations (fragmentsAll (settingOf options document)
            document.children)) ↔ note.1 ∈ rendered document.children := by
        intro note hnote
        rw [mem_citeAll, or_iff_right List.not_mem_nil,
          mem_citations_iff_rendered hinner hd hnote]
      rw [firstDefect_noteFragments (fun _ hnote => hnote) hcited
        (fun note hnote => Definitions.allOf_notes_collect hroot hinner hnote)
        (fun note hnote => Definitions.areTabular_notes_collect ht hnote)]
      exact Option.or_none

/-! ## When compiling fails -/

/-- The failure that a malformed node is reported as tells that the tree is
malformed, and of which kind the node is. -/
theorem failure_of_malformed {n : Node} {d : Defect} (h : malformed? n = some d) :
    ∃ message, d.failure = .malformedTree message (some n.kindName) (some "typst") := by
  unfold malformed? at h
  split at h
  · cases h
    exact ⟨_, rfl⟩
  · obtain ⟨unknown, -, rfl⟩ := Option.map_eq_some_iff.1 h
    exact ⟨_, rfl⟩
  · cases h

variable {options : TypstOptions} {document : Node}

/-- Compiling a whole tabular document fails with the first node that is set at
which it stops, and with nothing else. -/
theorem compile_error_iff (hwhole : document.isWholeDocument = true)
    (ht : document.isTabular = true) {failure : Failure} :
    (compile options document).result = .error failure ↔
      ∃ d, firstStop document.firstUrl? (setNodes document) = some d ∧ failure = d.failure := by
  rw [compile_result options hwhole, firstDefect_compiledFragments hwhole ht]
  cases firstStop document.firstUrl? (setNodes document) with
  | none => exact ⟨nofun, fun ⟨d, h, _⟩ => nomatch h⟩
  | some d =>
      constructor
      · intro h
        injection h with h
        exact ⟨d, rfl, h.symm⟩
      · rintro ⟨_, h, rfl⟩
        injection h with h
        rw [h]

theorem compile_notADocument (options : TypstOptions) (hroot : document.isDocument = false) :
    (compile options document).result = .error (.malformedTree
      ("Expected a Document root, got " ++ document.kindName) (some document.kindName)
      (some "typst")) := by
  rw [compile, if_neg (by rw [hroot]; exact Bool.false_ne_true)]
  rfl

/-- Compiling fails as it is meant to: exactly when the root is no document or a
malformed node is set, and by reporting the root or the first of these nodes as
a malformed tree. -/
def FailsAsMalformed (options : TypstOptions) (document : Node) : Prop :=
  ((∃ failure, (compile options document).result = .error failure) ↔
      document.isDocument = false ∨ ∃ n ∈ setNodes document, (malformed? n).isSome) ∧
    ∀ failure, (compile options document).result = .error failure →
      (document.isDocument = false ∧ failure = .malformedTree
          ("Expected a Document root, got " ++ document.kindName) (some document.kindName)
          (some "typst")) ∨
        (document.isDocument = true ∧ ∃ before n after d,
          setNodes document = before ++ n :: after ∧
            (∀ earlier ∈ before, malformed? earlier = none) ∧ malformed? n = some d ∧
            failure = d.failure ∧
            ∃ message, failure = .malformedTree message (some n.kindName) (some "typst"))

/-- Whether every image without a UTF-8 form that is set has a malformed node
before it. -/
def MalformedFirst (document : Node) : Prop :=
  ∀ before n after, setNodes document = before ++ n :: after →
    (unencodable? document.firstUrl? n).isSome → ∃ earlier ∈ before, (malformed? earlier).isSome

theorem failsAsMalformed_of_notADocument (options : TypstOptions)
    (hroot : document.isDocument = false) : FailsAsMalformed options document := by
  have hfail := compile_notADocument options hroot
  refine ⟨⟨fun _ => Or.inl hroot, fun _ => ⟨_, hfail⟩⟩, fun failure h => Or.inl ⟨hroot, ?_⟩⟩
  rw [hfail] at h
  injection h with h
  exact h.symm

/-- Where compiling fails as it is meant to, it never comes to an image without a
UTF-8 form. -/
theorem malformedFirst_of_failsAsMalformed (hwhole : document.isWholeDocument = true)
    (ht : document.isTabular = true) (h : FailsAsMalformed options document) :
    MalformedFirst document := by
  intro before n after hsplit himage
  by_contra hnone
  have hbefore : ∀ earlier ∈ before, malformed? earlier = none := fun earlier hearlier =>
    Option.not_isSome_iff_eq_none.1 fun hsome => hnone ⟨earlier, hearlier, hsome⟩
  have hn := malformed?_of_unencodable himage
  -- none of the nodes up to the image is malformed, so the first stop is an image
  obtain ⟨d, hd⟩ := Option.isSome_iff_exists.1 himage
  have hfirst : ∃ e, firstStop document.firstUrl? (setNodes document) = some e ∧
      ∃ t, e = .unencodableUrl t := by
    rw [hsplit, List.append_cons, firstStop_append]
    cases hstop : firstStop document.firstUrl? (before ++ [n]) with
    | none =>
        have hnever := List.findSome?_eq_none_iff.1 hstop n
          (List.mem_append_right _ List.mem_cons_self)
        rw [stop?_of_not_malformed hn, hd] at hnever
        cases hnever
    | some e =>
        obtain ⟨m, hm, hme⟩ := List.exists_of_findSome?_eq_some hstop
        have hmalformed : malformed? m = none := by
          rcases List.mem_append.1 hm with hm | hm
          · exact hbefore m hm
          · exact List.mem_singleton.1 hm ▸ hn
        rw [stop?_of_not_malformed hmalformed] at hme
        obtain ⟨_, t, -, -, ht⟩ := exists_of_unencodable hme
        exact ⟨e, rfl, t, ht⟩
  obtain ⟨_, hfirst, t, rfl⟩ := hfirst
  have hfault : (compile options document).result =
      .error (Defect.unencodableUrl t).failure :=
    (compile_error_iff hwhole ht).2 ⟨_, hfirst, rfl⟩
  rcases h.2 _ hfault with ⟨hroot, -⟩ | ⟨_, _, _, _, _, _, _, _, _, _, hmessage⟩
  · rw [(Bool.and_eq_true_iff.1 hwhole).1] at hroot
    cases hroot
  · cases hmessage

/-- With a malformed node before each image without a UTF-8 form, compiling stops
at a malformed node if it stops. -/
theorem failsAsMalformed_of_malformedFirst (hwhole : document.isWholeDocument = true)
    (ht : document.isTabular = true) (h : MalformedFirst document) :
    FailsAsMalformed options document := by
  have hroot := (Bool.and_eq_true_iff.1 hwhole).1
  have hfirst : ∀ {d}, firstStop document.firstUrl? (setNodes document) = some d →
      ∃ before n after, setNodes document = before ++ n :: after ∧
        (∀ earlier ∈ before, malformed? earlier = none) ∧ malformed? n = some d := by
    intro d hd
    obtain ⟨before, n, after, hsplit, hn, hbefore⟩ := List.findSome?_eq_some_iff.1 hd
    have hsound : ∀ earlier ∈ before, malformed? earlier = none := fun earlier hearlier =>
      (Option.or_eq_none_iff.1 (hbefore earlier hearlier)).1
    refine ⟨before, n, after, hsplit, hsound, ?_⟩
    rcases Option.or_eq_some_iff.1 hn with hmalformed | ⟨-, himage⟩
    · exact hmalformed
    · obtain ⟨earlier, hearlier, hsome⟩ := h before n after hsplit (himage ▸ rfl)
      rw [hsound earlier hearlier] at hsome
      cases hsome
  refine ⟨⟨?_, ?_⟩, ?_⟩
  · rintro ⟨failure, hfailure⟩
    obtain ⟨d, hd, -⟩ := (compile_error_iff hwhole ht).1 hfailure
    obtain ⟨before, n, after, hsplit, -, hn⟩ := hfirst hd
    exact Or.inr ⟨n, hsplit ▸ List.mem_append_right _ List.mem_cons_self, hn ▸ rfl⟩
  · rintro (hnone | ⟨n, hn, hmalformed⟩)
    · rw [hroot] at hnone
      cases hnone
    · obtain ⟨d, hd⟩ := Option.isSome_iff_exists.1 hmalformed
      cases hstop : firstStop document.firstUrl? (setNodes document) with
      | none =>
          have hnever := List.findSome?_eq_none_iff.1 hstop n hn
          rw [stop?_of_malformed hd] at hnever
          cases hnever
      | some e => exact ⟨_, (compile_error_iff hwhole ht).2 ⟨e, hstop, rfl⟩⟩
  · intro failure hfailure
    obtain ⟨d, hd, rfl⟩ := (compile_error_iff hwhole ht).1 hfailure
    obtain ⟨before, n, after, hsplit, hbefore, hn⟩ := hfirst hd
    exact Or.inr ⟨hroot, before, n, after, d, hsplit, hbefore, hn, rfl, failure_of_malformed hn⟩

/-- Compiling a document fails if setting stops at one of its nodes. -/
theorem exists_error_iff (hwhole : document.isWholeDocument = true)
    (ht : document.isTabular = true) :
    (∃ failure, (compile options document).result = .error failure) ↔
      ∃ n ∈ setNodes document, (stop? document.firstUrl? n).isSome := by
  constructor
  · rintro ⟨failure, hfailure⟩
    obtain ⟨d, hd, -⟩ := (compile_error_iff hwhole ht).1 hfailure
    obtain ⟨n, hn, hstop⟩ := List.exists_of_findSome?_eq_some hd
    exact ⟨n, hn, hstop ▸ rfl⟩
  · rintro ⟨n, hn, hstop⟩
    obtain ⟨d, hd⟩ := Option.isSome_iff_exists.1 (List.findSome?_isSome_iff.2 ⟨n, hn, hstop⟩)
    exact ⟨_, (compile_error_iff hwhole ht).2 ⟨d, hd, rfl⟩⟩

/-- What compiling a document reports when it fails: the first node at which
setting stops, by what is wrong with it. -/
theorem exists_stop_of_error (hwhole : document.isWholeDocument = true)
    (ht : document.isTabular = true) {failure : Failure}
    (h : (compile options document).result = .error failure) :
    ∃ before n after d, setNodes document = before ++ n :: after ∧
      (∀ earlier ∈ before, stop? document.firstUrl? earlier = none) ∧ failure = d.failure ∧
      ((malformed? n = some d ∧
          ∃ message, failure = .malformedTree message (some n.kindName) (some "typst")) ∨
        ∃ url t, imageUrl? document.firstUrl? n = some url ∧ url.encodable = .error t ∧
          failure = .fault t.fault) := by
  obtain ⟨d, hd, rfl⟩ := (compile_error_iff hwhole ht).1 h
  obtain ⟨before, n, after, hsplit, hn, hbefore⟩ := List.findSome?_eq_some_iff.1 hd
  refine ⟨before, n, after, d, hsplit, hbefore, rfl, ?_⟩
  rcases Option.or_eq_some_iff.1 hn with hmalformed | ⟨-, himage⟩
  · exact Or.inl ⟨hmalformed, failure_of_malformed hmalformed⟩
  · obtain ⟨url, t, hurl, hencodable, rfl⟩ := exists_of_unencodable himage
    exact Or.inr ⟨url, t, hurl, hencodable, rfl⟩

/-- Rows that stand outside a table in a suppressed cell, beyond the columns and
in a footnote that nothing refers to, an unknown alignment of a table without
rows, and a footnote with a table of one column. -/
def oddDocument (alignment : Option String) : Node :=
  .ofBranch .document
    [.ofBranch (.table true [none, none])
        [.ofBranch (.tableRow true)
          [.ofBranch (.tableCell 1 1 true none) [.ofBranch (.tableRow false) []],
            .ofBranch (.tableCell 1 1 false none) [.ofLeaf (.footnoteReference "n")],
            .ofBranch (.tableCell 1 1 false none) [.ofBranch (.tableRow false) []]]],
      .ofBranch (.footnoteDefinition "m") [.ofBranch (.tableRow false) []],
      .ofBranch (.footnoteDefinition "n")
        [.ofBranch (.table false [alignment]) [.ofBranch (.tableRow false) []]],
      .ofBranch (.table false [some "middle"]) []]

end Typst

end TypstPress
