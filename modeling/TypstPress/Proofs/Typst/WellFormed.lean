import TypstPress.Proofs.Typst.Malformed

/-!
# Well-formed documents compile

In a well-formed document rows stand in tables only and every alignment has a
word, so none of its nodes is malformed. The bodies of its footnotes are parts of
it and well formed themselves. What is left for compiling to stop at are the urls
of images: a well-formed document compiles exactly if those of `documentImages`
have a UTF-8 form, and fails with the fault of encoding the first that has none
(`compile_wellFormed`).

Urls that come from a text always have that form. `isSettable` asks for it along
with well-formedness, and then compiling has nothing left to stop at
(`compile_settable`).
-/

namespace TypstPress

open Node

theorem Kind.isContent_of_isItem {k : Kind} (h : k.isItem = true) :
    k.isContent = true := by
  cases k with
  | leaf l => cases h
  | branch k =>
      cases k with
      | listItem => rfl
      | _ => cases h

namespace Node

/-- What a branch with a frame of its own holds is content, list items included. -/
theorem areContent_framed {k : Branch} (hk : k.layout.isFramed = true) {ns : List Node}
    (h : allWellFormed k ns = true) : AreContent ns := by
  cases k with
  | list ordered start tight => exact fun n hn =>
      have hn := allWellFormed_iff.1 h n hn
      ⟨Kind.isContent_of_isItem hn.1, hn.2⟩
  | table | tableRow => cases hk
  | _ => exact (allWellFormed_iff_areContent rfl).1 h

mutual

theorem isWellFormed_of_mem_preorder {n d : Node} (h : n.isWellFormed = true)
    (hd : d ∈ n.preorder) : d.isWellFormed = true := by
  match n with
  | .leaf l m =>
      rw [preorder, List.mem_singleton] at hd
      rw [hd]
      exact h
  | .branch k cs m =>
      rw [preorder] at hd
      rcases List.mem_cons.1 hd with rfl | hd
      · exact h
      · exact isWellFormed_of_mem_preorderAll (isWellFormed_branch.1 h).2 hd

theorem isWellFormed_of_mem_preorderAll {k : Branch} {ns : List Node} {d : Node}
    (h : allWellFormed k ns = true) (hd : d ∈ preorderAll ns) : d.isWellFormed = true := by
  match ns with
  | [] => cases hd
  | n :: ns =>
      obtain ⟨⟨-, hwell⟩, hrest⟩ := allWellFormed_cons.1 h
      rw [preorderAll] at hd
      rcases List.mem_append.1 hd with hd | hd
      · exact isWellFormed_of_mem_preorder hwell hd
      · exact isWellFormed_of_mem_preorderAll hrest hd

end

/-- Well-formed tables hold rows, and well-formed rows cells. -/
theorem holdsParts_of_isWellFormed {n : Node} (h : n.isWellFormed = true) :
    n.holdsParts = true := by
  cases n with
  | leaf l m => rfl
  | branch k cs m =>
      have hcs := allWellFormed_iff.1 (isWellFormed_branch.1 h).2
      cases k with
      | table | tableRow => exact List.all_eq_true.2 fun c hc => (hcs c hc).1
      | _ => rfl

theorem isTabular_of_isWellFormed {n : Node} (h : n.isWellFormed = true) : n.isTabular = true :=
  List.all_eq_true.2 fun _ hm => holdsParts_of_isWellFormed (isWellFormed_of_mem_preorder h hm)

end Node

theorem Definitions.areContent_notes_collect {tree : Node} (h : tree.isWellFormed = true)
    {note : String × List Node} (hnote : note ∈ (collect tree).notes) : AreContent note.2 := by
  obtain ⟨m, hm⟩ := mem_notes_collect hnote
  have hdefinition := isWellFormed_of_mem_preorder h hm
  exact (allWellFormed_iff_areContent rfl).1 (isWellFormed_branch.1 hdefinition).2

namespace Typst

/-! ## Nothing that is set is malformed -/

theorem malformed?_of_isWellFormed {n : Node} (hkind : n.kind.isContent = true)
    (h : n.isWellFormed = true) : malformed? n = none := by
  cases n with
  | leaf l m => rfl
  | branch k cs m =>
      have hsound := (isWellFormed_branch.1 h).1
      cases k with
      | tableRow => cases hkind
      | table headed alignments =>
          cases cs with
          | nil => rfl
          | cons row rows =>
              have hknown : unknownAlignment? alignments = none :=
                List.findSome?_eq_none_iff.2 fun alignment halignment =>
                  if_pos (List.all_eq_true.1 hsound alignment halignment)
              rw [malformed?, hknown, Option.map_none]
      | _ => rfl

mutual

theorem malformed?_of_mem_reached {n d : Node} (hkind : n.kind.isContent = true)
    (h : n.isWellFormed = true) (hd : d ∈ reached n) : malformed? d = none := by
  match n with
  | .leaf l m =>
      rw [reached, List.mem_singleton] at hd
      rw [hd]
      rfl
  | .branch k cs m =>
      have hcs := (isWellFormed_branch.1 h).2
      by_cases hframed : k.layout.isFramed = true
      · rw [reached_framed hframed] at hd
        rcases List.mem_cons.1 hd with rfl | hd
        · exact malformed?_of_isWellFormed hkind h
        · exact malformed?_of_mem_reachedAll (areContent_framed hframed hcs) hd
      · cases k with
        | document | tableRow => cases hkind
        | table headed alignments =>
            rw [reached] at hd
            rcases List.mem_cons.1 hd with rfl | hd
            · exact malformed?_of_isWellFormed hkind h
            · exact malformed?_of_mem_reachedRows hcs hd
        | footnoteDefinition identifier =>
            rw [reached, List.mem_singleton] at hd
            rw [hd]
            rfl
        | _ => exact absurd rfl hframed

theorem malformed?_of_mem_reachedAll {ns : List Node} {d : Node} (h : AreContent ns)
    (hd : d ∈ reachedAll ns) : malformed? d = none := by
  match ns with
  | [] =>
      rw [reachedAll] at hd
      cases hd
  | n :: ns =>
      obtain ⟨⟨hkind, hwell⟩, hrest⟩ := areContent_cons.1 h
      rw [reachedAll] at hd
      rcases List.mem_append.1 hd with hd | hd
      · exact malformed?_of_mem_reached hkind hwell hd
      · exact malformed?_of_mem_reachedAll hrest hd

theorem malformed?_of_mem_reachedRows {columns : Nat} {headed : Bool}
    {alignments : List (Option String)} {rows : List Node} {d : Node}
    (h : allWellFormed (.table headed alignments) rows = true)
    (hd : d ∈ reachedRows columns rows) : malformed? d = none := by
  match rows with
  | [] =>
      rw [reachedRows] at hd
      cases hd
  | .leaf l m :: rows => cases (allWellFormed_cons.1 h).1.1
  | .branch k cells m :: rows =>
      obtain ⟨⟨hrow, hwell⟩, hrest⟩ := allWellFormed_cons.1 h
      have hcells := (isWellFormed_branch.1 hwell).2
      cases k with
      | tableRow isHeader =>
          rw [reachedRows] at hd
          rcases List.mem_append.1 hd with hd | hd
          · exact malformed?_of_mem_reachedCells hcells hd
          · exact malformed?_of_mem_reachedRows hrest hd
      | _ => cases hrow

theorem malformed?_of_mem_reachedCells {columns : Nat} {isHeader : Bool} {cells : List Node}
    {d : Node} (h : allWellFormed (.tableRow isHeader) cells = true)
    (hd : d ∈ reachedCells columns cells) : malformed? d = none := by
  match columns, cells with
  | 0, cells =>
      rw [reachedCells] at hd
      cases hd
  | columns + 1, [] =>
      rw [reachedCells] at hd
      · cases hd
      · nofun
  | columns + 1, .leaf l m :: cells => cases (allWellFormed_cons.1 h).1.1
  | columns + 1, .branch k cs m :: cells =>
      obtain ⟨⟨hcell, hwell⟩, hrest⟩ := allWellFormed_cons.1 h
      have hcs := (isWellFormed_branch.1 hwell).2
      cases k with
      | tableCell colspan rowspan suppressed alignment =>
          rw [reachedCells] at hd
          rcases List.mem_append.1 hd with hd | hd
          · cases suppressed with
            | true => cases hd
            | false =>
                rcases List.mem_cons.1 hd with rfl | hd
                · rfl
                · exact malformed?_of_mem_reachedAll ((allWellFormed_iff_areContent rfl).1 hcs) hd
          · exact malformed?_of_mem_reachedCells hrest hd
      | _ => cases hcell

end

variable {document : Node}

theorem malformed?_of_mem_setNodes (h : document.isWellFormedDocument = true) {n : Node}
    (hn : n ∈ setNodes document) : malformed? n = none := by
  obtain ⟨hroot, hwell⟩ := Bool.and_eq_true_iff.1 h
  obtain ⟨cs, m, rfl⟩ := eq_document hroot
  rcases List.mem_append.1 hn with hn | hn
  · exact malformed?_of_mem_reachedAll
      ((allWellFormed_iff_areContent rfl).1 (isWellFormed_branch.1 hwell).2) hn
  · obtain ⟨note, hnote, hn⟩ := List.mem_flatMap.1 hn
    have hcollected := (notesSet_sublist _ _).subset hnote
    rw [← Definitions.notes_collect] at hcollected
    exact malformed?_of_mem_reachedAll (Definitions.areContent_notes_collect hwell hcollected) hn

/-! ## Images -/

theorem documentImages_eq (document : Node) :
    documentImages document = (setNodes document).filterMap (imageUrl? document.firstUrl?) := by
  rw [documentImages, setNodes, List.filterMap_append, List.filterMap_flatMap]
  rfl

theorem unencodable?_eq_none_iff {url? : String → Option Url} {n : Node} :
    unencodable? url? n = none ↔ ∀ url, imageUrl? url? n = some url → url.isEncodable = true := by
  rw [unencodable?]
  cases imageUrl? url? n with
  | none =>
      refine ⟨fun _ url hurl => ?_, fun _ => rfl⟩
      cases hurl
  | some url =>
      cases url with
      | text url =>
          refine ⟨fun _ url hurl => ?_, fun _ => rfl⟩
          cases hurl
          rfl
      | illFormed t =>
          refine ⟨fun h => ?_, fun h => ?_⟩
          · cases h
          · cases h _ rfl

theorem firstStop_wellFormed (h : document.isWellFormedDocument = true) :
    firstStop document.firstUrl? (setNodes document) =
      (setNodes document).findSome? (unencodable? document.firstUrl?) := by
  have hsound : ∀ n ∈ setNodes document, malformed? n = none := fun n hn =>
    malformed?_of_mem_setNodes h hn
  rw [firstStop]
  generalize setNodes document = ns at hsound
  induction ns with
  | nil => rfl
  | cons n ns ih =>
      rw [List.forall_mem_cons] at hsound
      rw [List.findSome?_cons, List.findSome?_cons, stop?_of_not_malformed hsound.1, ih hsound.2]

/-! ## Compiling -/

/-- A well-formed document compiles exactly if the urls of its images have a
UTF-8 form. If it fails, then with the fault of encoding the first that has
none. -/
theorem compile_wellFormed (options : TypstOptions) (h : document.isWellFormedDocument = true) :
    ((∃ compiled, (compile options document).result = .ok compiled) ↔
        ∀ url ∈ documentImages document, url.isEncodable = true) ∧
      ∀ failure, (compile options document).result = .error failure →
        ∃ before t after, documentImages document = before ++ .illFormed t :: after ∧
          (∀ url ∈ before, url.isEncodable = true) ∧ failure = .fault t.fault := by
  have hwhole := isWholeDocument_of_isWellFormedDocument h
  have ht := isTabular_of_isWellFormed (Bool.and_eq_true_iff.1 h).2
  have hencodable : ∀ {ns : List Node}, (∀ n ∈ ns, unencodable? document.firstUrl? n = none) ↔
      ∀ url ∈ ns.filterMap (imageUrl? document.firstUrl?), url.isEncodable = true := by
    intro ns
    simp only [unencodable?_eq_none_iff, List.mem_filterMap]
    exact ⟨fun h url ⟨n, hn, hurl⟩ => h n hn url hurl, fun h n hn url hurl => h url ⟨n, hn, hurl⟩⟩
  rw [documentImages_eq]
  refine ⟨?_, fun failure hfailure => ?_⟩
  · rw [← hencodable, ← List.findSome?_eq_none_iff, ← firstStop_wellFormed h,
      compile_result options hwhole, firstDefect_compiledFragments hwhole ht]
    cases firstStop document.firstUrl? (setNodes document) with
    | none => exact ⟨fun _ => rfl, fun _ => ⟨_, rfl⟩⟩
    | some d => exact ⟨fun ⟨_, hok⟩ => (by cases hok), nofun⟩
  · obtain ⟨d, hd, rfl⟩ := (compile_error_iff hwhole ht).1 hfailure
    rw [firstStop_wellFormed h] at hd
    obtain ⟨before, n, after, hsplit, hn, hbefore⟩ := List.findSome?_eq_some_iff.1 hd
    obtain ⟨url, t, hurl, hillFormed, rfl⟩ := exists_of_unencodable hn
    cases url with
    | text url => cases hillFormed
    | illFormed t' =>
        cases hillFormed
        have himages : (setNodes document).filterMap (imageUrl? document.firstUrl?) =
            before.filterMap (imageUrl? document.firstUrl?) ++
              .illFormed t :: after.filterMap (imageUrl? document.firstUrl?) := by
          rw [hsplit, List.filterMap_append, List.filterMap_cons_some hurl]
        exact ⟨_, t, _, himages, hencodable.1 hbefore, rfl⟩

/-! ## Documents that compile -/

end Typst

/-- Whether the tree is a well-formed document and the urls that its images may be
set with have a UTF-8 form. -/
def Node.isSettable (document : Node) : Bool :=
  document.isWellFormedDocument && document.all Kind.isEncodable

theorem Node.isDocument_of_isSettable {document : Node} (h : document.isSettable = true) :
    document.isDocument = true :=
  (Bool.and_eq_true_iff.1 (Bool.and_eq_true_iff.1 h).1).1

/-- Compiling a settable document never fails. -/
theorem Typst.compile_settable (options : TypstOptions) {document : Node}
    (h : document.isSettable = true) :
    ∃ compiled, (compile options document).result = .ok compiled := by
  obtain ⟨hwell, hurls⟩ := Bool.and_eq_true_iff.1 h
  have hwhole := isWholeDocument_of_isWellFormedDocument hwell
  have hnever := firstIllFormed_compiledFragments options hwhole hurls
  have ht := isTabular_of_isWellFormed (Bool.and_eq_true_iff.1 hwell).2
  rw [compile_result options hwhole]
  cases hd : firstDefect (compiledFragments options document) with
  | none => exact ⟨_, rfl⟩
  | some d =>
      rw [firstIllFormed, hd, Option.bind_some] at hnever
      rw [firstDefect_compiledFragments hwhole ht, firstStop_wellFormed hwell] at hd
      obtain ⟨n, -, hn⟩ := List.exists_of_findSome?_eq_some hd
      obtain ⟨url, t, -, -, rfl⟩ := exists_of_unencodable hn
      cases hnever

end TypstPress
