import TypstPress.Proofs.Typst.Correspondence
import TypstPress.Proofs.Typst.Length

/-!
# What a node sets by itself

Leaves, frames and the openings of tables and cells hold nothing but pieces of
source and what is recorded with them. Footnote bodies and defects come from
the structure of a tree, references to footnotes from one kind of leaf, and
the rest is `Unlabelled`: it is set where it stands, and none of its pieces
looks like the beginning of a label.

Text cannot look like one, because escaped text never leaves its literal and
the beginning of a label does. Pieces without quotes cannot either. The rest is
told apart by its first two characters, which matters for the arguments of
images: their names are the caller's and may be any text, but a comma stands in
front of them.
-/

namespace TypstPress.Typst

/-! ## Pieces that begin no label -/

/-- What stands before the label of a reference to a footnote. -/
def referenceStart : String := "#footnote(label(\""

/-- What stands before the label of the body of a footnote. -/
def bodyStart : String := "]#label(\""

/-- Whether a piece begins no label. -/
def Inert (s : String) : Prop := s ≠ referenceStart ∧ s ≠ bodyStart

instance (s : String) : Decidable (Inert s) := inferInstanceAs (Decidable (_ ∧ _))

theorem inert_escape (s : String) : Inert (escape s) := by
  have hplace := after_escape s
  constructor
  · intro h
    rw [h] at hplace
    revert hplace
    decide
  · intro h
    rw [h] at hplace
    revert hplace
    decide

theorem inert_assetId (url : String) : Inert (assetId url) := by
  rw [← escape_assetId]
  exact inert_escape _

theorem inert_noteLabel (s : Setting) (identifier : String) :
    Inert (noteLabel s identifier) :=
  inert_escape _

theorem inert_plain {s : String} (h : Plain s) : Inert s := by
  constructor
  · intro hs
    rw [hs] at h
    revert h
    decide
  · intro hs
    rw [hs] at h
    revert h
    decide

/-- A piece is told from the beginnings of labels by its first two characters. -/
theorem inert_append {s : String} (t : String) (h : 2 ≤ s.toList.length ∧
    s.toList.take 2 ≠ ['#', 'f'] ∧ s.toList.take 2 ≠ [']', '#']) : Inert (s ++ t) := by
  have htake : (s ++ t).toList.take 2 = s.toList.take 2 := by
    rw [String.toList_append, List.take_append_of_le_length h.1]
  constructor
  · intro heq
    rw [heq] at htake
    exact h.2.1 htake.symm
  · intro heq
    rw [heq] at htake
    exact h.2.2 htake.symm

/-! ## Fragments that hold no label -/

/-- Whether a fragment is set where it stands: it does not ask for the footnote
bodies and does not stop the run. -/
def Fragment.isDirect : Fragment → Bool
  | .source _ | .asset _ | .cite _ | .record _ => true
  | .noteBodies | .defect _ => false

/-- Whether all fragments are set where they stand. -/
def AllDirect (fs : List Fragment) : Prop := ∀ f ∈ fs, f.isDirect = true

namespace AllDirect

theorem nil : AllDirect [] := fun _ h => absurd h List.not_mem_nil

theorem cons {f : Fragment} {fs : List Fragment} (hf : f.isDirect = true)
    (h : AllDirect fs) : AllDirect (f :: fs) :=
  List.forall_mem_cons.2 ⟨hf, h⟩

theorem one {f : Fragment} (hf : f.isDirect = true) : AllDirect [f] := cons hf nil

theorem firstDefect {fs : List Fragment} (h : AllDirect fs) : firstDefect fs = none := by
  refine List.findSome?_eq_none_iff.2 fun f hf => ?_
  have hdirect := h f hf
  cases f with
  | defect d => cases hdirect
  | _ => rfl

end AllDirect

/-- Whether a fragment is set where it stands and refers to no footnote, and its
piece begins no label. -/
def Fragment.IsInert : Fragment → Prop
  | .source s => Inert s
  | .asset _ | .record _ => True
  | .cite _ | .noteBodies | .defect _ => False

/-- Fragments that hold no label and refer to no footnote. -/
def Unlabelled (fs : List Fragment) : Prop := ∀ f ∈ fs, f.IsInert

namespace Unlabelled

theorem nil : Unlabelled [] := fun _ h => absurd h List.not_mem_nil

theorem append {fs gs : List Fragment} (h : Unlabelled fs) (h' : Unlabelled gs) :
    Unlabelled (fs ++ gs) :=
  List.forall_mem_append.2 ⟨h, h'⟩

theorem source {s : String} (h : Inert s) {fs : List Fragment} (h' : Unlabelled fs) :
    Unlabelled (.source s :: fs) :=
  List.forall_mem_cons.2 ⟨h, h'⟩

theorem record (r : Record) {fs : List Fragment} (h : Unlabelled fs) :
    Unlabelled (.record r :: fs) :=
  List.forall_mem_cons.2 ⟨trivial, h⟩

theorem asset (url : String) {fs : List Fragment} (h : Unlabelled fs) :
    Unlabelled (.asset url :: fs) :=
  List.forall_mem_cons.2 ⟨trivial, h⟩

theorem piece {s : String} (h : Inert s) : Unlabelled [.source s] := source h nil

theorem literal {a b : String} (ha : Inert a) (hb : Inert b) (s : String) :
    Unlabelled [.source a, .source (escape s), .source b] :=
  source ha (source (inert_escape s) (piece hb))

theorem inert_of_mem {fs : List Fragment} (h : Unlabelled fs) {piece : String}
    (hpiece : piece ∈ sources fs) : Inert piece := by
  obtain ⟨f, hf, hsource⟩ := List.mem_filterMap.1 hpiece
  have hinert := h f hf
  cases f with
  | source s =>
      injection hsource with hsource
      rw [← hsource]
      exact hinert
  | _ => cases hsource

theorem citations {fs : List Fragment} (h : Unlabelled fs) : citations fs = [] := by
  refine List.filterMap_eq_nil_iff.2 fun f hf => ?_
  have hinert := h f hf
  cases f with
  | cite identifier => exact hinert.elim
  | _ => rfl

theorem allDirect {fs : List Fragment} (h : Unlabelled fs) : AllDirect fs := by
  intro f hf
  have hinert := h f hf
  cases f with
  | source | asset | record => rfl
  | cite | noteBodies | defect => exact hinert.elim

end Unlabelled

/-! ## Leaves and frames -/

theorem unlabelled_rawText (block : Bool) (language content : String) :
    Unlabelled (rawText block language content) := by
  refine Unlabelled.literal ?_ ?_ content
  · simp only [String.append_assoc]
    exact inert_append _ (by decide)
  · cases block <;> decide

theorem unlabelled_formula (block : Bool) (content : String) :
    Unlabelled (formula block content) := by
  refine Unlabelled.literal ?_ ?_ content
  · cases block <;> decide
  · cases block <;> decide

theorem unlabelled_imageArguments (url : String) (attributes : Attributes)
    (names : List String) : Unlabelled (imageArguments url attributes names) := by
  intro f hf
  rcases eq_of_mem_imageArguments hf with ⟨name, -, value, -, rfl⟩ | ⟨r, rfl⟩
  · simp only [String.append_assoc]
    exact inert_append _ (by decide)
  · trivial

theorem unlabelled_encodedImage (s : Setting) (url altText : String)
    (attributes : Attributes) : Unlabelled (encodedImage s url altText attributes) := by
  have hend : ∀ r, Unlabelled [.source "))", .asset url, .record r] := fun r =>
    Unlabelled.source (by decide) (.asset url (.record r .nil))
  have halt : Unlabelled (if altText.isEmpty then []
      else [.source ", alt: \"", .source (escape altText), .source "\""]) := by
    split
    · exact Unlabelled.nil
    · exact Unlabelled.literal (by decide) (by decide) altText
  refine .append (.append (.append ?_ (unlabelled_imageArguments url attributes _)) halt)
    (hend _)
  exact .source (by decide) (.source (inert_assetId url) (.piece (by decide)))

/-- Whether fragments are those of an image that has no asset id: setting stops
at once. -/
def Unencodable (fs : List Fragment) : Prop := ∃ t, fs = [.defect (.unencodableUrl t)]

theorem Unencodable.citations {fs : List Fragment} (h : Unencodable fs) : citations fs = [] := by
  obtain ⟨t, rfl⟩ := h
  rfl

theorem unlabelled_image (s : Setting) (url : Url) (altText : String)
    (attributes : Attributes) :
    Unlabelled (image s url altText attributes) ∨ Unencodable (image s url altText attributes) := by
  cases url with
  | text url => exact Or.inl (unlabelled_encodedImage s url altText attributes)
  | illFormed t => exact Or.inr ⟨t, rfl⟩

theorem inert_referenceEnd (form : ReferenceForm) (label : Option String)
    (identifier : String) : Inert (referenceEnd form label identifier) := by
  unfold referenceEnd
  simp only [String.append_assoc]
  exact inert_append _ (by decide)

theorem unlabelled_listOpening (ordered : Bool) (start : Option Int) :
    Unlabelled (listOpening ordered start) := by
  have hend : Unlabelled [.source "\n"] := .piece (by decide)
  cases ordered with
  | false => exact .source (by decide) hend
  | true =>
      refine Unlabelled.source (by decide) (.append ?_ hend)
      cases start with
      | none => exact .nil
      | some n =>
          exact .piece (inert_plain (plain_integer (by decide) (by decide) n))

theorem unlabelled_figureOpening (attributes : Attributes) :
    Unlabelled (figureOpening attributes) := by
  refine .append (.append (.piece (by decide)) ?_) (.piece (by decide))
  split
  · exact .nil
  · exact .nil
  · exact .literal (by decide) (by decide) _

theorem unlabelled_opening (s : Setting) (k : Branch) : Unlabelled (opening s k) := by
  cases k with
  | heading level =>
      exact .piece (inert_plain (plain_number (by decide) (by decide) level))
  | list ordered start tight => exact unlabelled_listOpening ordered start
  | containerDirective name attributes =>
      rw [opening]
      split
      · exact unlabelled_figureOpening attributes
      · exact .nil
  | link url title => exact .literal (by decide) (by decide) url.shown
  | linkReference identifier label form =>
      rw [opening]
      split
      · exact .literal (by decide) (by decide) _
      · exact .record _ (.piece (by decide))
  | paragraph | blockQuote | emphasis | strong | strikethrough => exact .piece (by decide)
  | _ => exact .nil

theorem unlabelled_closing (s : Setting) (k : Branch) : Unlabelled (closing s k) := by
  cases k with
  | containerDirective name attributes =>
      rw [closing]
      split
      · exact .piece (by decide)
      · exact .nil
  | linkReference identifier label form =>
      rw [closing]
      split
      · exact .piece (by decide)
      · exact .piece (inert_referenceEnd form label identifier)
  | heading | paragraph | blockQuote | list | emphasis | strong | strikethrough | link =>
      exact .piece (by decide)
  | _ => exact .nil

theorem unlabelled_missingNote (identifier : String) :
    Unlabelled [missingDefinition "Footnote" identifier, .source "#\"[^",
      .source (escape identifier), .source "]\""] :=
  .record _ (.literal (by decide) (by decide) identifier)

/-- Whether a leaf is set by the program alone: it is neither raw source nor a
reference to a footnote. -/
def Leaf.isUnlabelled : Leaf → Bool
  | .typstContent _ | .footnoteReference _ => false
  | _ => true

theorem unlabelled_leafFragments (s : Setting) {l : Leaf} (h : Leaf.isUnlabelled l = true) :
    Unlabelled (leafFragments s l) ∨ Unencodable (leafFragments s l) := by
  cases l with
  | footnoteReference | typstContent => cases h
  | imageReference identifier label form altText attributes =>
      rw [leafFragments]
      split
      · exact unlabelled_image s _ altText attributes
      · exact Or.inl (.record _ (.append (.literal (by decide) (by decide) altText)
          (.piece (inert_referenceEnd form label identifier))))
  | image url altText title attributes => exact unlabelled_image s url altText attributes
  | codeBlock | htmlBlock | code | htmlInline => exact Or.inl (unlabelled_rawText _ _ _)
  | mathBlock | mathInline => exact Or.inl (unlabelled_formula _ _)
  | text content => exact Or.inl (.literal (by decide) (by decide) content)
  | thematicBreak | lineBreak => exact Or.inl (.piece (by decide))
  | definition => exact Or.inl .nil

theorem unlabelled_tableOpening {columns : List (Option String)} {words : List String}
    (h : columnAlignments columns = .ok words) : Unlabelled (tableOpening words) := by
  have hcolumns :
      Unlabelled (words.flatMap fun alignment => [.source alignment, .source ", "]) := by
    intro f hf
    obtain ⟨piece, hpiece, rfl⟩ := eq_of_mem_alignments hf
    exact inert_plain (plain_of_mem_alignments h piece hpiece)
  exact .append (.source (inert_plain (plain_number (by decide) (by decide) _)) hcolumns)
    (.piece (by decide))

theorem unlabelled_cellOpening (colspan rowspan : Nat) :
    Unlabelled (cellOpening colspan rowspan) := by
  have hspan : ∀ (condition : Prop) [Decidable condition] (s : String), Plain s →
      Unlabelled (if condition then [.source s] else []) := by
    intro condition _ s hs
    split
    · exact .piece (inert_plain hs)
    · exact .nil
  refine .append (.append (.append (.piece (by decide)) (hspan _ _ ?_)) (hspan _ _ ?_))
    (.piece (by decide))
  · exact plain_number (by decide) (by decide) colspan
  · exact plain_number (by decide) (by decide) rowspan

/-! ## Leaves and frames are set where they stand -/

/-- A leaf is set where it stands, but for an image whose url has no UTF-8 form. -/
theorem direct_leafFragments (s : Setting) (l : Leaf) :
    AllDirect (leafFragments s l) ∨ Unencodable (leafFragments s l) := by
  cases l with
  | typstContent content => exact Or.inl (.one rfl)
  | footnoteReference identifier =>
      rw [leafFragments]
      split
      · exact Or.inl (.cons rfl (.cons rfl (.cons rfl (.one rfl))))
      · exact Or.inl (unlabelled_missingNote identifier).allDirect
  | _ => exact (unlabelled_leafFragments s rfl).imp_left Unlabelled.allDirect

theorem direct_opening (s : Setting) (k : Branch) : AllDirect (opening s k) :=
  (unlabelled_opening s k).allDirect

theorem direct_closing (s : Setting) (k : Branch) : AllDirect (closing s k) :=
  (unlabelled_closing s k).allDirect

theorem direct_tableOpening {columns : List (Option String)} {words : List String}
    (h : columnAlignments columns = .ok words) : AllDirect (tableOpening words) :=
  (unlabelled_tableOpening h).allDirect

theorem direct_cellOpening (colspan rowspan : Nat) :
    AllDirect (cellOpening colspan rowspan) :=
  (unlabelled_cellOpening colspan rowspan).allDirect

end TypstPress.Typst
