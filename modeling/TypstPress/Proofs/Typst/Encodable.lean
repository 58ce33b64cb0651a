import TypstPress.Proofs.Typst.WholeDocument

/-!
# Urls that cannot be encoded

The asset id of an image is taken from the UTF-8 form of its url, and a url with
a surrogate has none. Setting such an image stops at once. It is the one defect
that comes from what a document says and not from its shape, so it needs a
condition of its own: `Kind.isEncodable` asks for the urls of images and of link
definitions, since an image may also refer to its url. The urls of links are not
among them, because they are only shown.

A document all of whose urls can be encoded never stops at one
(`firstIllFormed_compiledFragments`).
-/

namespace TypstPress

open Node

/-- Whether a url has a UTF-8 form. -/
def Url.isEncodable (url : Url) : Bool :=
  match url.encodable with
  | .ok _ => true
  | .error _ => false

/-- Whether the url that an image may be set with, if the kind holds one, has a
UTF-8 form. -/
def Kind.isEncodable : Kind → Bool
  | .leaf (.image url ..) | .leaf (.definition _ url _ _) => url.isEncodable
  | _ => true

namespace Typst

/-! ## Where setting stops at a url -/

/-- The url that a defect is about. -/
def Defect.illFormed? : Defect → Option IllFormedText
  | .unencodableUrl t => some t
  | _ => none

/-- The url that setting fragments stops at, if it stops at one. -/
def firstIllFormed (fs : List Fragment) : Option IllFormedText :=
  (firstDefect fs).bind Defect.illFormed?

theorem firstIllFormed_append_of_none {fs : List Fragment} (h : firstDefect fs = none)
    (gs : List Fragment) : firstIllFormed (fs ++ gs) = firstIllFormed gs := by
  rw [firstIllFormed, firstDefect_append, h, Option.none_or, firstIllFormed]

/-- What does not stop at a url together does not do so in its first part. -/
theorem firstIllFormed_of_append {fs gs : List Fragment} (h : firstIllFormed (fs ++ gs) = none) :
    firstIllFormed fs = none := by
  rw [firstIllFormed, firstDefect_append] at h
  rw [firstIllFormed]
  cases hd : firstDefect fs with
  | none => rfl
  | some d =>
      rw [hd, Option.some_or] at h
      exact h

/-! ## Fragments that stop at no url -/

/-- Whether fragments hold no image that cannot be encoded. -/
def Encoded (fs : List Fragment) : Prop := ∀ t, .defect (.unencodableUrl t) ∉ fs

namespace Encoded

theorem append {fs gs : List Fragment} (h : Encoded fs) (h' : Encoded gs) :
    Encoded (fs ++ gs) := fun t hmem =>
  (List.mem_append.1 hmem).elim (h t) (h' t)

theorem of_direct {fs : List Fragment} (h : AllDirect fs) : Encoded fs := fun t hmem => by
  cases h _ hmem

theorem frame {fs gs hs : List Fragment} (hopening : AllDirect fs) (h : Encoded gs)
    (hclosing : AllDirect hs) : Encoded (fs ++ gs ++ hs) :=
  ((of_direct hopening).append h).append (of_direct hclosing)

theorem defect {d : Defect} (h : d.illFormed? = none) : Encoded [.defect d] := by
  intro t hmem
  cases List.mem_singleton.1 hmem
  cases h

theorem image {url : Url} (h : url.isEncodable = true) (s : Setting) (altText : String)
    (attributes : Attributes) : Encoded (image s url altText attributes) := by
  cases url with
  | text url => exact of_direct (unlabelled_encodedImage s url altText attributes).allDirect
  | illFormed t => cases h

theorem firstIllFormed {fs : List Fragment} (h : Encoded fs) : firstIllFormed fs = none := by
  rw [Typst.firstIllFormed]
  cases hd : firstDefect fs with
  | none => rfl
  | some d =>
      obtain ⟨f, hf, hdefect⟩ := List.exists_of_findSome?_eq_some hd
      cases f with
      | defect e =>
          cases hdefect
          cases d with
          | unencodableUrl t => exact absurd hf (h t)
          | _ => rfl
      | _ => cases hdefect

end Encoded

/-! ## Trees -/

/-- Whether the urls of the definitions of a setting can be encoded. -/
def Setting.Encodable (s : Setting) : Prop :=
  ∀ identifier url, s.definitions.url? identifier = some url → url.isEncodable = true

section

variable {s : Setting} (hs : s.Encodable)

include hs

theorem encoded_leafFragments {l : Leaf} (h : Kind.isEncodable (.leaf l) = true) :
    Encoded (leafFragments s l) := by
  cases l with
  | image url altText title attributes => exact .image h s altText attributes
  | imageReference identifier label form altText attributes =>
      rw [leafFragments]
      split
      · next url hurl => exact .image (hs identifier url hurl) s altText attributes
      · exact .of_direct (.cons rfl (.cons rfl (.cons rfl (.cons rfl (.one rfl)))))
  | footnoteReference identifier =>
      rw [leafFragments]
      split
      · exact .of_direct (.cons rfl (.cons rfl (.cons rfl (.one rfl))))
      · exact .of_direct (unlabelled_missingNote identifier).allDirect
  | codeBlock | htmlBlock | code | htmlInline => exact .of_direct (unlabelled_rawText _ _ _).allDirect
  | mathBlock | mathInline => exact .of_direct (unlabelled_formula _ _).allDirect
  | text content => exact .of_direct (.cons rfl (.cons rfl (.one rfl)))
  | thematicBreak | lineBreak | typstContent => exact .of_direct (.one rfl)
  | definition => exact .of_direct .nil

theorem encoded_correspondence :
    Correspondence s s (Alone fun k => !k.isDocument && k.isEncodable) fun fs _ => Encoded fs where
  layout h := by
    cases h.1
    rfl
  noDocument h hk := by
    obtain rfl := layout_eq_document hk
    cases h.2
  nil := .of_direct .nil
  append := .append
  leaf h := encoded_leafFragments hs (Bool.and_eq_true_iff.1 h.2).2
  frame _ _ h := .frame (direct_opening s _) h (direct_closing s _)
  item h := .frame (.one rfl) h (.one rfl)
  table hwords h := .frame (direct_tableOpening hwords) h (.one rfl)
  rowEnd := .of_direct (.one rfl)
  cell h := .frame (direct_cellOpening _ _) h (.one rfl)
  padding := .of_direct (.one rfl)
  strayRow := .defect rfl
  unknownAlignment _ := .defect rfl
  notTabular _ _ := .defect rfl

end

/-! ## Documents -/

theorem encodable_settingOf (options : TypstOptions) {document : Node}
    (h : document.all Kind.isEncodable = true) : (settingOf options document).Encodable := by
  intro identifier url hurl
  rw [settingOf, Definitions.url?_collect, firstUrl?, List.lookup_eq_some_iff] at hurl
  obtain ⟨before, after, hsplit, -⟩ := hurl
  have hmem : (identifier, url) ∈ document.preorder.filterMap definition? :=
    hsplit ▸ List.mem_append_right _ List.mem_cons_self
  obtain ⟨n, hn, hdefinition⟩ := List.mem_filterMap.1 hmem
  have hkind := kind_of_all (all_of_mem_preorder h hn)
  unfold definition? at hdefinition
  split at hdefinition
  · cases hdefinition
    exact hkind
  · cases hdefinition

theorem encoded_compiledFragments (options : TypstOptions) {document : Node}
    (hwhole : document.isWholeDocument = true) (h : document.all Kind.isEncodable = true) :
    Encoded (compiledFragments options document) := by
  obtain ⟨hroot, hinner⟩ := Bool.and_eq_true_iff.1 hwhole
  have hcorrespondence := encoded_correspondence (encodable_settingOf options h)
  have hchildren : allOf (fun k => !k.isDocument && k.isEncodable) document.children = true :=
    allOf_and.2 ⟨hinner, allOf_children h⟩
  have hcontent : ∀ {ns}, allOf (fun k => !k.isDocument && k.isEncodable) ns = true →
      Encoded (fragmentsAll (settingOf options document) ns) := fun hns =>
    allCorrespond hcorrespondence (matchesAll_self alone_self hns)
  refine .append (.append (.append (hcontent hchildren) (.of_direct (.cons rfl (.one rfl)))) ?_)
    (.of_direct (.one rfl))
  intro t hmem
  obtain ⟨note, hnote, hbody⟩ := List.mem_flatMap.1 hmem
  have hcollected := (settledNotes_sublist _ _ _).subset hnote
  have hlabel : AllDirect [.source "]#label(\"",
      .source (noteLabel (settingOf options document) note.1), .source "\")\n"] :=
    .cons rfl (.cons rfl (.one rfl))
  exact Encoded.frame (.one rfl)
    (hcontent (Definitions.allOf_notes_collect hroot hchildren hcollected)) hlabel t hbody

/-- A document all of whose urls can be encoded does not stop at one. -/
theorem firstIllFormed_compiledFragments (options : TypstOptions) {document : Node}
    (hwhole : document.isWholeDocument = true) (h : document.all Kind.isEncodable = true) :
    firstIllFormed (compiledFragments options document) = none :=
  (encoded_compiledFragments options hwhole h).firstIllFormed

/-! ## Compiling -/

/-- The fault of encoding that a result reports. -/
def encodingFault? : Except Failure Compiled → Option Fault
  | .error (.fault fault) => if fault.name == "UnicodeEncodeError" then some fault else none
  | _ => none

theorem encodingFault?_failure (d : Defect) :
    encodingFault? (.error d.failure) = d.illFormed?.map IllFormedText.fault := by
  cases d <;> rfl

/-- Compiling reports the fault of encoding the url that it stops at, and no other
such fault. -/
theorem encodingFault?_compile (options : TypstOptions) {document : Node}
    (hwhole : document.isWholeDocument = true) :
    encodingFault? (compile options document).result =
      (firstIllFormed (compiledFragments options document)).map IllFormedText.fault := by
  rw [compile_result options hwhole, firstIllFormed]
  cases firstDefect (compiledFragments options document) with
  | none => rfl
  | some d => exact encodingFault?_failure d

/-! ## An image that cannot be encoded -/

/-- The url that is the first of the surrogates. -/
def loneSurrogate : Url := .illFormed { before := "", first := 0, after := [] }

/-- A document with one image. -/
def pictureDocument (url : Url) : Node :=
  .ofBranch .document [.ofBranch .paragraph [.ofLeaf (.image url "" none [])]]

theorem compile_loneSurrogate :
    (compile {} (pictureDocument loneSurrogate)).result = .error (.fault
      ⟨"UnicodeEncodeError",
        "'utf-8' codec can't encode character '\\ud800' in position 0: surrogates not allowed"⟩) := by
  have hdefect : firstDefect (compiledFragments {} (pictureDocument loneSurrogate)) =
      some (.unencodableUrl { before := "", first := 0, after := [] }) := by
    rw [compiledFragments, settingOf, Definitions.collect_eq]
    decide
  rw [compile_result {} (by decide), hdefect]
  refine congrArg (fun fault => Except.error (Failure.fault fault)) ?_
  decide

end Typst

end TypstPress
