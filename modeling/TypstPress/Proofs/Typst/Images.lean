import TypstPress.Proofs.Typst.ImageCalls
import TypstPress.Proofs.Typst.NoteBodies
import TypstPress.Proofs.Typst.Shown

/-!
# The images of a document

Compiling gives two things side by side: a source, in which images are called by
their asset ids, and a list of the assets that whoever typesets the source has to
provide. Were the two out of step, an image would be missing or shown in
another's place.

They are not. `documentImages` lists the urls of the images of a document from its
tree alone: those of the nodes that setting comes to, so none in a suppressed cell
or beyond the columns of a table; those of references with a definition and no
others; then those in the footnotes that are set, in the order in which they are
set. The assets are these urls with their ids, and the calls in the source are
these ids, both in this order and each as often as the image is used
(`imageCalls_compile`).
-/

namespace TypstPress

open Node

namespace Typst

/-! ## Images in trees -/

/-- The url of the image that a node is set as, if it is set as one. -/
def imageUrl? (url? : String → Option Url) : Node → Option Url
  | .leaf (.image url ..) _ => some url
  | .leaf (.imageReference identifier ..) _ => url? identifier
  | _ => none

/-- The urls of the images that setting trees comes to, in order. -/
def imagesOf (url? : String → Option Url) (ns : List Node) : List Url :=
  (reachedAll ns).filterMap (imageUrl? url?)

/-- The footnotes that are set out of the given ones, in order: those that are
referred to by `cited` or by the body of one that is set before. -/
def notesSet : List String → List (String × List Node) → List (String × List Node)
  | _, [] => []
  | cited, note :: notes =>
    if cited.contains note.1 then note :: notesSet (cited ++ rendered note.2) notes
    else notesSet cited notes

theorem notesSet_sublist (cited : List String) (notes : List (String × List Node)) :
    (notesSet cited notes).Sublist notes := by
  induction notes generalizing cited with
  | nil => exact .slnil
  | cons note notes ih =>
      rw [notesSet]
      split
      · exact (ih _).cons_cons note
      · exact (ih _).cons note

/-- The urls of the images of a document: those of its text, then those of the
footnotes that are set. -/
def documentImages (document : Node) : List Url :=
  imagesOf document.firstUrl? document.children ++
    (notesSet (rendered document.children) (firstNotes document)).flatMap fun note =>
      imagesOf document.firstUrl? note.2

/-! ## Images in fragments -/

variable {s : Setting}

theorem assetUrls_events (fs : List Fragment) : assetUrls (events fs) = assetUrls fs := by
  refine filterMap_events (fun f hf => ?_) fs
  cases f with
  | asset url => cases hf
  | _ => rfl

theorem assetUrls_image {url : Url} {altText : String} {attributes : Attributes}
    (hd : firstDefect (image s url altText attributes) = none) :
    (assetUrls (image s url altText attributes)).map Url.text = [url] := by
  cases url with
  | text url => exact congrArg (List.map Url.text) (assetUrls_encodedImage s url altText attributes)
  | illFormed t => cases hd

/-- A node that meets no defect uses the image that it is set as. -/
theorem assetUrls_nodeEvents {n : Node} (hd : firstDefect (nodeEvents s n) = none) :
    (assetUrls (nodeEvents s n)).map Url.text = (imageUrl? s.definitions.url? n).toList := by
  cases n with
  | branch k cs m => rfl
  | leaf l m =>
      rw [nodeEvents, firstDefect_events] at hd
      rw [nodeEvents, assetUrls_events]
      cases l with
      | image url altText title attributes => exact assetUrls_image hd
      | imageReference identifier label form altText attributes =>
          rw [leafFragments] at hd ⊢
          rw [imageUrl?]
          cases hurl : s.definitions.url? identifier with
          | none => rfl
          | some url =>
              rw [hurl] at hd
              exact assetUrls_image hd
      | footnoteReference identifier =>
          rw [leafFragments]
          cases s.definitions.hasNote identifier <;> rfl
      | _ => rfl

theorem assetUrls_fragmentsAll {ns : List Node} (h : allOf (!·.isDocument) ns = true)
    (hd : firstDefect (fragmentsAll s ns) = none) :
    (assetUrls (fragmentsAll s ns)).map Url.text = imagesOf s.definitions.url? ns := by
  have hevents := events_fragmentsAll h hd
  rw [← firstDefect_events, hevents] at hd
  rw [← assetUrls_events, hevents, imagesOf]
  clear hevents
  generalize reachedAll ns = ms at hd
  induction ms with
  | nil => rfl
  | cons n ms ih =>
      rw [List.flatMap_cons, firstDefect_append_eq_none] at hd
      rw [List.flatMap_cons, assetUrls_append, List.map_append, ih hd.2, assetUrls_nodeEvents hd.1]
      cases hn : imageUrl? s.definitions.url? n with
      | none => rw [List.filterMap_cons_none hn]; rfl
      | some url => rw [List.filterMap_cons_some hn]; rfl

/-- The footnotes that are set are found by what is reached, without a look at
the fragments. -/
theorem settledNotes_eq_notesSet {cited cited' : List String} {notes : List (String × List Node)}
    (hnotes : ∀ note ∈ notes, note ∈ s.definitions.notes)
    (hcited : ∀ note ∈ notes, note.1 ∈ cited ↔ note.1 ∈ cited')
    (hdocument : ∀ note ∈ notes, allOf (!·.isDocument) note.2 = true)
    (hd : ∀ note ∈ settledNotes s cited notes, firstDefect (fragmentsAll s note.2) = none) :
    settledNotes s cited notes = notesSet cited' notes := by
  induction notes generalizing cited cited' with
  | nil => rfl
  | cons note notes ih =>
      rw [List.forall_mem_cons] at hnotes hcited hdocument
      rw [settledNotes, citations_bodyFragments] at hd ⊢
      rw [notesSet]
      by_cases hnote : note.1 ∈ cited
      · rw [if_pos (List.contains_iff_mem.2 hnote)] at hd ⊢
        rw [if_pos (List.contains_iff_mem.2 (hcited.1.1 hnote))]
        rw [List.forall_mem_cons] at hd
        refine congrArg (note :: ·) (ih hnotes.2 (fun later hlater => ?_) hdocument.2 hd.2)
        rw [mem_citeAll, List.mem_append, hcited.2 later hlater, noteCitations,
          mem_citations_iff_rendered hdocument.1 hd.1 (hnotes.2 later hlater)]
      · rw [if_neg fun h => hnote (List.contains_iff_mem.1 h)] at hd ⊢
        rw [if_neg fun h => hnote (hcited.1.2 (List.contains_iff_mem.1 h))]
        exact ih hnotes.2 hcited.2 hdocument.2 hd

theorem setNotes_eq_notesSet {options : TypstOptions} {document : Node}
    (hwhole : document.isWholeDocument = true)
    (hd : firstDefect (compiledFragments options document) = none) :
    setNotes options document = notesSet (rendered document.children) (firstNotes document) := by
  obtain ⟨hroot, hinner⟩ := Bool.and_eq_true_iff.1 hwhole
  have hnotes : (settingOf options document).definitions.notes = firstNotes document :=
    Definitions.notes_collect document
  rw [← hnotes]
  refine settledNotes_eq_notesSet (fun _ => id) (fun note hnote => ?_) (fun note hnote => ?_)
    fun note hnote => ?_
  · rw [mem_citeAll, or_iff_right List.not_mem_nil]
    exact mem_citations_iff_rendered hinner
      (firstDefect_eq_none_of_subset (text_subset_compiledFragments options document) hd) hnote
  · exact Definitions.allOf_notes_collect hroot hinner hnote
  · exact firstDefect_eq_none_of_subset (note_subset_compiledFragments hnote) hd

/-! ## Images of documents -/

theorem assetUrls_bodies {notes : List (String × List Node)}
    (h : ∀ note ∈ notes, allOf (!·.isDocument) note.2 = true)
    (hd : ∀ note ∈ notes, firstDefect (fragmentsAll s note.2) = none) :
    (assetUrls (notes.flatMap fun note => bodyFragments s note.1 note.2)).map Url.text =
      notes.flatMap fun note => imagesOf s.definitions.url? note.2 := by
  induction notes with
  | nil => rfl
  | cons note notes ih =>
      rw [List.forall_mem_cons] at h hd
      have hbody : assetUrls (bodyFragments s note.1 note.2) =
          assetUrls (fragmentsAll s note.2) := by
        show assetUrls (fragmentsAll s note.2 ++ _) = _
        rw [assetUrls_append]
        exact List.append_nil _
      rw [List.flatMap_cons, List.flatMap_cons, assetUrls_append, List.map_append, ih h.2 hd.2,
        hbody, assetUrls_fragmentsAll h.1 hd.1]

/-- The images that the fragments of a document use are the images of the
document. -/
theorem assetUrls_compiledFragments {options : TypstOptions} {document : Node}
    (hwhole : document.isWholeDocument = true)
    (hd : firstDefect (compiledFragments options document) = none) :
    (assetUrls (compiledFragments options document)).map Url.text = documentImages document := by
  obtain ⟨hroot, hinner⟩ := Bool.and_eq_true_iff.1 hwhole
  have hurl : (settingOf options document).definitions.url? = document.firstUrl? :=
    funext (Definitions.url?_collect document)
  have htext := assetUrls_fragmentsAll hinner
    (firstDefect_eq_none_of_subset (text_subset_compiledFragments options document) hd)
  have hnotes := assetUrls_bodies (s := settingOf options document)
    (fun note hnote => Definitions.allOf_notes_collect hroot hinner
      (mem_notes_of_mem_setNotes hnote))
    (fun note hnote => firstDefect_eq_none_of_subset (note_subset_compiledFragments hnote) hd)
  rw [hurl] at htext hnotes
  rw [setNotes_eq_notesSet hwhole hd] at hnotes
  rw [documentImages, ← htext, ← hnotes, ← setNotes_eq_notesSet hwhole hd, compiledFragments,
    documentFragments, textFragments, assetUrls_append, assetUrls_append, assetUrls_append,
    List.map_append, List.map_append, List.map_append]
  show _ ++ [] ++ _ ++ [] = _
  rw [List.append_nil, List.append_nil]
  rfl

/-- The image calls in the source of a document are, from left to right, the
assets that compiling lists, each called by its id; and the assets are those of
the images of the document. Attributes of the caller's own choice must have names
without brackets and quotes. -/
theorem imageCalls_compile {options : TypstOptions}
    (hnames : ∀ name ∈ options.imageAttributes, Bare name) {document : Node}
    {compiled : Compiled} (hwhole : document.isWholeDocument = true)
    (hraw : document.all (!·.isRawSource) = true)
    (hok : (compile options document).result = .ok compiled) :
    imageCalls compiled.source = some (compiled.assets.map fun asset => some asset.id) ∧
      (∀ asset ∈ compiled.assets, asset.id = assetId asset.sourceUrl) ∧
      compiled.assets.map (fun asset => Url.text asset.sourceUrl) = documentImages document := by
  obtain ⟨hroot, hinner⟩ := Bool.and_eq_true_iff.1 hwhole
  have hsafe : allOf Kind.isLabelSafe document.children = true :=
    allOf_and.2 ⟨hinner, allOf_children hraw⟩
  rw [compile_result options hwhole] at hok
  split at hok
  · cases hok
  · next hd =>
      cases hok
      rw [imageCalls_join (draws_compiledFragments hnames hroot hsafe),
        ← assetUrls_compiledFragments hwhole hd]
      refine ⟨?_, ?_, ?_⟩
      · rw [List.map_map]
        rfl
      · intro asset hasset
        obtain ⟨url, -, rfl⟩ := List.mem_map.1 hasset
        rfl
      · rw [List.map_map]
        rfl

/-- Texts and captions that look like images, one image used twice, references
with a definition and without, images where nothing is set, and a note that only
a suppressed cell refers to. -/
def galleryDocument : Node :=
  .ofBranch .document
    [.ofBranch .paragraph
        [.ofText "#box(image(\"x\"))", .ofLeaf (.image "u" "image(\"y\")" none []),
          .ofLeaf (.imageReference "u" none .shortcut "image(" []),
          .ofLeaf (.imageReference "r" none .full "" [("width", some "50%")])],
      .ofBranch (.table true [none, none])
        [.ofBranch (.tableRow true)
            [.ofBranch (.tableCell 2 1 false none) [.ofLeaf (.image "u" "" none [])],
              .ofBranch (.tableCell 1 1 true none)
                [.ofLeaf (.image "v" "" none []), .ofLeaf (.footnoteReference "m")],
              .ofBranch (.tableCell 1 1 false none) [.ofLeaf (.image "v" "" none [])]]],
      .ofBranch (.footnoteDefinition "m") [.ofLeaf (.image "v" "" none [])],
      .ofBranch (.footnoteDefinition "n") [.ofLeaf (.image "w" "" none [])],
      .ofLeaf (.definition "r" "z" none none), .ofLeaf (.footnoteReference "n")]

theorem imageCalls_compile_of_gallery :
    (∀ name ∈ ({} : TypstOptions).imageAttributes, Bare name) ∧
      galleryDocument.isWholeDocument = true ∧
      galleryDocument.all (!·.isRawSource) = true ∧
      ∃ compiled, (compile {} galleryDocument).result = .ok compiled ∧
        imageCalls compiled.source = some (compiled.assets.map fun asset => some asset.id) ∧
        (∀ asset ∈ compiled.assets, asset.id = assetId asset.sourceUrl) ∧
        compiled.assets.map (fun asset => Url.text asset.sourceUrl) = ["u", "z", "u", "w"] := by
  have hnames : ∀ name ∈ ({} : TypstOptions).imageAttributes, Bare name := by decide
  have hwhole : galleryDocument.isWholeDocument = true := by decide
  have hraw : galleryDocument.all (!·.isRawSource) = true := by decide
  have hdefect : firstDefect (compiledFragments {} galleryDocument) = none := by
    rw [compiledFragments, settingOf, Definitions.collect_eq]
    decide
  obtain ⟨compiled, hok⟩ : ∃ compiled, (compile {} galleryDocument).result = .ok compiled := by
    rw [compile_result {} hwhole, hdefect]
    exact ⟨_, rfl⟩
  have himages : documentImages galleryDocument = ["u", "z", "u", "w"] := by decide
  obtain ⟨hcalls, hids, hurls⟩ := imageCalls_compile hnames hwhole hraw hok
  exact ⟨hnames, hwhole, hraw, compiled, hok, hcalls, hids, hurls.trans himages⟩

end Typst

end TypstPress
