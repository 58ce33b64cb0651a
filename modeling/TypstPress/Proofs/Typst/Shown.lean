import TypstPress.Proofs.Typst.NoteBodies

/-!
# Trees that are set alike

A reference to a known url is set as if the url stood in its place, titles do
not show at all, and a definition leaves nothing where it stands. `shown` puts
all of this into one normal form of kinds. What a node adds to the fragments of
a document depends on its normal form and no longer on the links of the
setting, so that two trees with the same normal forms have the same fragments,
whatever they are defined with.

`compiledFragments_alike` says this for whole documents, and says it of the
content only: definitions may stand anywhere among the children of the root.
What is left to know about them is the url that each identifier is first
defined as, in document order (`url?_collect`).

Only the names of kinds tell a reference from a link, and they show in one
place, the message for something that is no row or no cell. `Like` leaves open
which of these defects are told apart.
-/

namespace TypstPress

open Node

/-! ## Normal forms -/

/-- The leaf as it is set: a reference to a known url is an image. Titles and
what is defined do not show. -/
def Leaf.shown (url? : String → Option Url) : Leaf → Leaf
  | .definition .. => .definition "" "" none none
  | .image url altText _ attributes => .image url altText none attributes
  | .imageReference identifier label form altText attributes =>
    match url? identifier with
    | some url => .image url altText none attributes
    | none => .imageReference identifier label form altText attributes
  | l => l

/-- The branch as it is set: a reference to a known url is a link. -/
def Branch.shown (url? : String → Option Url) : Branch → Branch
  | .link url _ => .link url none
  | .linkReference identifier label form =>
    match url? identifier with
    | some url => .link url none
    | none => .linkReference identifier label form
  | k => k

namespace Kind

/-- The kind as it is set. -/
def shown (url? : String → Option Url) : Kind → Kind
  | .leaf l => .leaf (l.shown url?)
  | .branch k => .branch (k.shown url?)

/-- Whether the kind is that of a link definition. -/
def isDefinition : Kind → Bool
  | .leaf (.definition ..) => true
  | _ => false

theorem isDefinition_shown (url? : String → Option Url) (k : Kind) :
    (k.shown url?).isDefinition = k.isDefinition := by
  cases k with
  | branch k => rfl
  | leaf l =>
      cases l with
      | imageReference identifier label form altText attributes =>
          rw [shown, Leaf.shown]
          split <;> rfl
      | _ => rfl

theorem eq_definition {k : Kind} (h : k.isDefinition = true) :
    ∃ identifier url title label, k = .leaf (.definition identifier url title label) := by
  cases k with
  | branch k => cases h
  | leaf l =>
      cases l with
      | definition identifier url title label => exact ⟨identifier, url, title, label, rfl⟩
      | _ => cases h

theorem isDocument_of_isDefinition {k : Kind} (h : k.isDefinition = true) :
    (!k.isDocument) = true := by
  obtain ⟨identifier, url, title, label, rfl⟩ := eq_definition h
  rfl

end Kind

theorem Branch.layout_shown (url? : String → Option Url) (k : Branch) :
    (k.shown url?).layout = k.layout := by
  cases k with
  | linkReference identifier label form =>
      rw [shown]
      split <;> rfl
  | _ => rfl

theorem Branch.eq_footnoteDefinition_of_shown {url? : String → Option Url} {k : Branch}
    {identifier : String} (h : k.shown url? = .footnoteDefinition identifier) :
    k = .footnoteDefinition identifier := by
  cases k with
  | linkReference identifier label form =>
      rw [shown] at h
      split at h <;> cases h
  | link => cases h
  | _ => exact h

/-! ## Content without definitions -/

namespace Node

/-- The trees that are no link definitions. -/
def withoutDefinitions (ns : List Node) : List Node := ns.filter (!·.kind.isDefinition)

theorem withoutDefinitions_append (ms ns : List Node) :
    withoutDefinitions (ms ++ ns) = withoutDefinitions ms ++ withoutDefinitions ns :=
  List.filter_append ms ns

theorem withoutDefinitions_cons_of_isDefinition {n : Node} (h : n.kind.isDefinition = true)
    (ns : List Node) : withoutDefinitions (n :: ns) = withoutDefinitions ns :=
  List.filter_cons_of_neg (by simp [h])

theorem withoutDefinitions_cons {n : Node} (h : n.kind.isDefinition = false)
    (ns : List Node) : withoutDefinitions (n :: ns) = n :: withoutDefinitions ns :=
  List.filter_cons_of_pos (by simp [h])

theorem eq_definition {n : Node} (h : n.kind.isDefinition = true) :
    ∃ identifier url title label m, n = .leaf (.definition identifier url title label) m := by
  cases n with
  | branch k cs m => cases h
  | leaf l m =>
      cases l with
      | definition identifier url title label => exact ⟨identifier, url, title, label, m, rfl⟩
      | _ => cases h

theorem definition?_eq_none {n : Node} (h : (!n.kind.isDefinition) = true) :
    n.definition? = none := by
  cases n with
  | branch k cs m => rfl
  | leaf l m =>
      cases l with
      | definition => cases h
      | _ => rfl

theorem filterMap_definition?_eq_nil {ns : List Node} (h : allOf (!·.isDefinition) ns = true) :
    (preorderAll ns).filterMap definition? = [] := by
  rw [List.filterMap_eq_nil_iff]
  intro n hn
  exact definition?_eq_none (kind_of_all (all_of_mem_preorderAll h hn))

theorem allOf_withoutDefinitions {p : Kind → Bool}
    (hp : ∀ k : Kind, k.isDefinition = true → p k = true) (ns : List Node) :
    allOf p (withoutDefinitions ns) = allOf p ns := by
  induction ns with
  | nil => rfl
  | cons n ns ih =>
      cases hn : n.kind.isDefinition with
      | false => rw [withoutDefinitions_cons hn, allOf, allOf, ih]
      | true =>
          obtain ⟨identifier, url, title, label, m, rfl⟩ := eq_definition hn
          have hp := hp (.leaf (.definition identifier url title label)) rfl
          rw [withoutDefinitions_cons_of_isDefinition hn, ih, allOf, all_leaf, hp, Bool.true_and]

theorem notes_withoutDefinitions (ns : List Node) :
    (preorderAll (withoutDefinitions ns)).filterMap note? =
      (preorderAll ns).filterMap note? := by
  induction ns with
  | nil => rfl
  | cons n ns ih =>
      cases hn : n.kind.isDefinition with
      | false =>
          rw [withoutDefinitions_cons hn, preorderAll, preorderAll, List.filterMap_append,
            List.filterMap_append, ih]
      | true =>
          obtain ⟨identifier, url, title, label, m, rfl⟩ := eq_definition hn
          rw [withoutDefinitions_cons_of_isDefinition hn, ih, preorderAll, preorder]
          rfl

/-- Leaving out definitions keeps trees that match beside each other. -/
theorem MatchesAll.withoutDefinitions {T : Kind → Kind → Prop}
    (hT : ∀ k k', T k k' → k.isDefinition = k'.isDefinition) {ns ns' : List Node}
    (h : MatchesAll T ns ns') :
    MatchesAll T (withoutDefinitions ns) (withoutDefinitions ns') := by
  induction ns generalizing ns' with
  | nil =>
      cases ns' with
      | nil => exact trivial
      | cons n' ns' => exact h.elim
  | cons n ns ih =>
      cases ns' with
      | nil => exact h.elim
      | cons n' ns' =>
          have hkind := hT _ _ h.1.kind
          cases hn : n.kind.isDefinition with
          | false =>
              rw [withoutDefinitions_cons hn, withoutDefinitions_cons (hkind ▸ hn)]
              exact ⟨h.1, ih h.2⟩
          | true =>
              rw [withoutDefinitions_cons_of_isDefinition hn,
                withoutDefinitions_cons_of_isDefinition (hkind ▸ hn)]
              exact ih h.2

end Node

namespace Typst

theorem fragmentsAll_withoutDefinitions (s : Setting) (ns : List Node) :
    fragmentsAll s (withoutDefinitions ns) = fragmentsAll s ns := by
  induction ns with
  | nil => rfl
  | cons n ns ih =>
      cases hn : n.kind.isDefinition with
      | false => rw [withoutDefinitions_cons hn, fragmentsAll, fragmentsAll, ih]
      | true =>
          obtain ⟨identifier, url, title, label, m, rfl⟩ := eq_definition hn
          rw [withoutDefinitions_cons_of_isDefinition hn, ih, fragmentsAll, fragments]
          rfl

/-! ## Settings without links -/

/-- The setting in which no link is defined. -/
def Setting.withoutLinks (s : Setting) : Setting :=
  { s with definitions := { s.definitions with links := [] } }

section

variable (s : Setting)

theorem leafFragments_shown (l : Leaf) :
    leafFragments s l = leafFragments s.withoutLinks (l.shown s.definitions.url?) := by
  cases l with
  | imageReference identifier label form altText attributes =>
      rw [leafFragments, Leaf.shown]
      cases s.definitions.url? identifier <;> rfl
  | _ => rfl

theorem opening_shown (k : Branch) :
    opening s k = opening s.withoutLinks (k.shown s.definitions.url?) := by
  cases k with
  | linkReference identifier label form =>
      rw [opening, Branch.shown]
      cases s.definitions.url? identifier <;> rfl
  | _ => rfl

theorem closing_shown (k : Branch) :
    closing s k = closing s.withoutLinks (k.shown s.definitions.url?) := by
  cases k with
  | linkReference identifier label form =>
      rw [closing, Branch.shown]
      cases s.definitions.url? identifier <;> rfl
  | _ => rfl

end

theorem opening_congr {s s' : Setting} {k k' : Branch}
    (h : k.shown s.definitions.url? = k'.shown s'.definitions.url?) :
    opening s k = opening s' k' := by
  rw [opening_shown s, opening_shown s', h]
  cases k'.shown s'.definitions.url? <;> rfl

theorem closing_congr {s s' : Setting} {k k' : Branch}
    (h : k.shown s.definitions.url? = k'.shown s'.definitions.url?) :
    closing s k = closing s' k' := by
  rw [closing_shown s, closing_shown s', h]
  cases k'.shown s'.definitions.url? <;> rfl

/-- Two settings with the same options that know the same footnotes. -/
structure Setting.Agrees (s s' : Setting) : Prop where
  options : s.options = s'.options
  notes : ∀ identifier, s.definitions.hasNote identifier = s'.definitions.hasNote identifier

namespace Setting.Agrees

variable {s s' : Setting} (h : s.Agrees s')

include h

theorem noteLabel (identifier : String) :
    Typst.noteLabel s identifier = Typst.noteLabel s' identifier := by
  rw [Typst.noteLabel, Typst.noteLabel, h.options]

theorem image (url : Url) (altText : String) (attributes : Attributes) :
    Typst.image s url altText attributes = Typst.image s' url altText attributes := by
  simp only [Typst.image, encodedImage, h.options]

theorem leafFragments {l l' : Leaf}
    (hl : l.shown s.definitions.url? = l'.shown s'.definitions.url?) :
    Typst.leafFragments s l = Typst.leafFragments s' l' := by
  rw [leafFragments_shown s, leafFragments_shown s', hl]
  generalize l'.shown s'.definitions.url? = l
  cases l with
  | image url altText title attributes => exact h.image url altText attributes
  | footnoteReference identifier =>
      show Typst.leafFragments s (.footnoteReference identifier) =
        Typst.leafFragments s' (.footnoteReference identifier)
      rw [Typst.leafFragments, Typst.leafFragments, h.notes, h.noteLabel]
  | _ => rfl

end Setting.Agrees

/-! ## Fragments that are alike -/

/-- Two fragments that are the same, up to defects that are not told apart. -/
inductive Fragment.Like (E : Defect → Defect → Prop) : Fragment → Fragment → Prop where
  | same {f : Fragment} : Like E f f
  | defect {d d' : Defect} (h : E d d') : Like E (.defect d) (.defect d')

/-- Two rows of fragments that are alike one by one. -/
abbrev LikeAll (E : Defect → Defect → Prop) (fs fs' : List Fragment) : Prop :=
  List.Forall₂ (Fragment.Like E) fs fs'

section

variable {E : Defect → Defect → Prop} {fs fs' : List Fragment}

theorem LikeAll.refl (fs : List Fragment) : LikeAll E fs fs :=
  List.forall₂_same.2 fun _ _ => .same

theorem LikeAll.append {gs gs' : List Fragment} (h : LikeAll E fs fs')
    (h' : LikeAll E gs gs') : LikeAll E (fs ++ gs) (fs' ++ gs') :=
  List.rel_append h h'

theorem LikeAll.frame (before after : List Fragment) (h : LikeAll E fs fs') :
    LikeAll E (before ++ fs ++ after) (before ++ fs' ++ after) :=
  ((LikeAll.refl before).append h).append (.refl after)

/-- Nothing but defects differs between fragments that are alike. -/
theorem LikeAll.filterMap_eq {g : Fragment → Option α} (hg : ∀ d, g (.defect d) = none)
    (h : LikeAll E fs fs') : fs.filterMap g = fs'.filterMap g := by
  induction h with
  | nil => rfl
  | cons hfirst _ ih =>
      cases hfirst with
      | same => rw [List.filterMap_cons, List.filterMap_cons, ih]
      | defect =>
          rw [List.filterMap_cons_none (hg _), List.filterMap_cons_none (hg _), ih]

theorem LikeAll.citations_eq (h : LikeAll E fs fs') : citations fs = citations fs' :=
  h.filterMap_eq fun _ => rfl

theorem LikeAll.firstDefect (h : LikeAll E fs fs') :
    (firstDefect fs = none ∧ firstDefect fs' = none) ∨
      ∃ d d', (d = d' ∨ E d d') ∧ firstDefect fs = some d ∧ firstDefect fs' = some d' := by
  induction h with
  | nil => exact Or.inl ⟨rfl, rfl⟩
  | @cons f f' fs fs' hfirst _ ih =>
      cases hfirst with
      | defect h => exact Or.inr ⟨_, _, Or.inr h, rfl, rfl⟩
      | same =>
          cases f with
          | defect d => exact Or.inr ⟨d, d, Or.inl rfl, rfl, rfl⟩
          | _ => exact ih

end

/-! ## Trees of one normal form -/

/-- What makes trees that match by `T` set alike. -/
structure SetAlike (url? url?' : String → Option Url) (T : Kind → Kind → Prop)
    (E : Defect → Defect → Prop) : Prop where
  shown : ∀ {k k'}, T k k' → k.shown url? = k'.shown url?'
  noDocument : ∀ {k k'}, T k k' → (!k.isDocument) = true ∧ (!k'.isDocument) = true
  notTabular : ∀ {n n' : Node} part, T n.kind n'.kind →
    E (.notTabular n.kindName part) (.notTabular n'.kindName part)

namespace SetAlike

variable {s s' : Setting} {T : Kind → Kind → Prop} {E : Defect → Defect → Prop}

theorem isDefinition {url? url?' : String → Option Url} (h : SetAlike url? url?' T E)
    {k k' : Kind} (hk : T k k') : k.isDefinition = k'.isDefinition := by
  rw [← Kind.isDefinition_shown url? k, h.shown hk, Kind.isDefinition_shown]

theorem correspondence (h : SetAlike s.definitions.url? s'.definitions.url? T E)
    (hs : s.Agrees s') : Correspondence s s' T (LikeAll E) where
  layout {k k'} hk := by
    have hshown : k.shown s.definitions.url? = k'.shown s'.definitions.url? :=
      Kind.branch.inj (h.shown hk)
    rw [← Branch.layout_shown s.definitions.url?, hshown, Branch.layout_shown]
  noDocument hk hlayout := by
    obtain rfl := layout_eq_document hlayout
    cases (h.noDocument hk).1
  nil := .nil
  append := .append
  leaf hl := hs.leafFragments (Kind.leaf.inj (h.shown hl)) ▸ .refl _
  frame hk _ hfs := by
    rw [opening_congr (Kind.branch.inj (h.shown hk)), closing_congr (Kind.branch.inj (h.shown hk))]
    exact hfs.frame _ _
  item hfs := hfs.frame [.source "["] _
  table _ hrows := hrows.frame _ _
  rowEnd := .refl _
  cell hfs := hfs.frame _ _
  padding := .refl _
  strayRow := .refl _
  unknownAlignment _ := .refl _
  notTabular part hn := .cons (.defect (h.notTabular part hn)) .nil

/-! ### Footnotes -/

/-- Two footnotes with one identifier and matching contents. -/
def NotesMatch (T : Kind → Kind → Prop) (note note' : String × List Node) : Prop :=
  note.1 = note'.1 ∧ MatchesAll T note.2 note'.2

theorem note?_matches {url? url?' : String → Option Url} (h : SetAlike url? url?' T E)
    {n n' : Node} (hn : n.Matches T n') : Option.Rel (NotesMatch T) n.note? n'.note? := by
  cases n with
  | leaf l m =>
    cases n' with
    | leaf l' m' => exact .none
    | branch k' cs' m' => exact hn.elim
  | branch k cs m =>
    cases n' with
    | leaf l' m' => exact hn.elim
    | branch k' cs' m' =>
      obtain ⟨hk, hcs⟩ := hn
      have hshown : k.shown url? = k'.shown url?' := Kind.branch.inj (h.shown hk)
      by_cases hnote : ∃ identifier, k' = .footnoteDefinition identifier
      · obtain ⟨identifier, rfl⟩ := hnote
        obtain rfl := Branch.eq_footnoteDefinition_of_shown hshown
        exact .some ⟨rfl, hcs⟩
      · have hnone : ∀ {k : Branch} {cs m}, (¬ ∃ identifier, k = .footnoteDefinition identifier) →
            (Node.branch k cs m).note? = none := by
          intro k cs m hk
          cases k with
          | footnoteDefinition identifier => exact absurd ⟨identifier, rfl⟩ hk
          | _ => rfl
        rw [hnone hnote, hnone]
        · exact .none
        · rintro ⟨identifier, rfl⟩
          exact hnote ⟨identifier, Branch.eq_footnoteDefinition_of_shown hshown.symm⟩

theorem notes_match {url? url?' : String → Option Url} (h : SetAlike url? url?' T E)
    {ns ns' : List Node} (hns : List.Forall₂ (Matches T) ns ns') :
    List.Forall₂ (NotesMatch T) (ns.filterMap note?) (ns'.filterMap note?) := by
  induction hns with
  | nil => exact .nil
  | cons hn _ ih =>
      rw [List.filterMap_cons, List.filterMap_cons]
      have hnote := h.note?_matches hn
      revert hnote
      generalize Node.note? _ = note
      generalize Node.note? _ = note'
      intro hnote
      cases hnote with
      | none => exact ih
      | some hnote => exact .cons hnote ih

theorem firsts_match {notes notes' : List (String × List Node)}
    (h : List.Forall₂ (NotesMatch T) notes notes') :
    List.Forall₂ (NotesMatch T) (firsts notes) (firsts notes') := by
  induction h with
  | nil => exact .nil
  | cons hnote _ ih =>
      rw [firsts, firsts]
      refine .cons hnote (List.rel_filter ?_ ih)
      intro note note' hrest
      simp only [hrest.1, hnote.1]

theorem hasNote_eq {d d' : Definitions} (h : List.Forall₂ (NotesMatch T) d.notes d'.notes)
    (identifier : String) : d.hasNote identifier = d'.hasNote identifier := by
  rw [Definitions.hasNote, Definitions.hasNote]
  generalize d.notes = notes, d'.notes = notes' at h
  induction h with
  | nil => rfl
  | cons hnote _ ih => rw [List.any_cons, List.any_cons, hnote.1, ih]

theorem noteFragments_alike (h : SetAlike s.definitions.url? s'.definitions.url? T E)
    (hs : s.Agrees s') {notes notes' : List (String × List Node)}
    (hnotes : List.Forall₂ (NotesMatch T) notes notes') (cited : List String) :
    LikeAll E (noteFragments s cited notes) (noteFragments s' cited notes') := by
  induction hnotes generalizing cited with
  | nil => exact .nil
  | @cons note note' notes notes' hnote _ ih =>
      have hcontent := allCorrespond (h.correspondence hs) hnote.2
      have hbody : LikeAll E (bodyFragments s note.1 note.2)
          (bodyFragments s' note.1 note'.2) := by
        rw [bodyFragments, bodyFragments, hs.noteLabel]
        exact hcontent.frame [.source "#footnote[\n"] _
      rw [noteFragments, noteFragments, settledNotes, settledNotes, ← hnote.1,
        hbody.citations_eq]
      split
      · rw [List.flatMap_cons, List.flatMap_cons, ← hnote.1]
        exact hbody.append (ih _)
      · exact ih _

end SetAlike

/-! ## Documents -/

section

variable {T : Kind → Kind → Prop} {E : Defect → Defect → Prop} {document document' : Node}

/-- The footnotes of documents with matching content match. -/
theorem collected_notes_match (h : SetAlike document.firstUrl? document'.firstUrl? T E)
    (hroot : document.isDocument = true) (hroot' : document'.isDocument = true)
    (hcontent : MatchesAll T (withoutDefinitions document.children)
      (withoutDefinitions document'.children)) :
    List.Forall₂ (SetAlike.NotesMatch T) (Definitions.collect document).notes
      (Definitions.collect document').notes := by
  have hbelow : ∀ {d : Node}, d.isDocument = true → d.preorder.filterMap note? =
      (preorderAll (withoutDefinitions d.children)).filterMap note? := by
    intro d hd
    obtain ⟨cs, m, rfl⟩ := eq_document hd
    rw [notes_withoutDefinitions, preorder]
    rfl
  rw [Definitions.notes_collect, Definitions.notes_collect, firstNotes, firstNotes, hbelow hroot,
    hbelow hroot']
  exact SetAlike.firsts_match (h.notes_match hcontent.preorderAll)

/-- Documents whose content matches have fragments that are alike, wherever their
links are defined. -/
theorem compiledFragments_alike (options : TypstOptions)
    (h : SetAlike document.firstUrl? document'.firstUrl? T E)
    (hroot : document.isDocument = true) (hroot' : document'.isDocument = true)
    (hcontent : MatchesAll T (withoutDefinitions document.children)
      (withoutDefinitions document'.children)) :
    LikeAll E (compiledFragments options document) (compiledFragments options document') := by
  have hnotes := collected_notes_match h hroot hroot' hcontent
  have hs : (settingOf options document).Agrees (settingOf options document') :=
    ⟨rfl, SetAlike.hasNote_eq hnotes⟩
  have hurl : ∀ d, (settingOf options d).definitions.url? = d.firstUrl? := fun d =>
    funext (Definitions.url?_collect d)
  have halike : SetAlike (settingOf options document).definitions.url?
      (settingOf options document').definitions.url? T E := by
    rw [hurl, hurl]
    exact h
  have htext : LikeAll E (fragmentsAll (settingOf options document) document.children)
      (fragmentsAll (settingOf options document') document'.children) := by
    rw [← fragmentsAll_withoutDefinitions, ← fragmentsAll_withoutDefinitions _ document'.children]
    exact allCorrespond (halike.correspondence hs) hcontent
  rw [compiledFragments, compiledFragments, documentFragments, documentFragments,
    htext.citations_eq]
  exact ((htext.append (.refl _)).append (halike.noteFragments_alike hs hnotes _)).append
    (.refl _)

theorem isWholeDocument_of_matches (h : SetAlike document.firstUrl? document'.firstUrl? T E)
    (hroot : document.isDocument = true) (hroot' : document'.isDocument = true)
    (hcontent : MatchesAll T (withoutDefinitions document.children)
      (withoutDefinitions document'.children)) :
    document.isWholeDocument = true ∧ document'.isWholeDocument = true := by
  have hinner := allOf_of_matchesAll (p := (!·.isDocument)) (fun _ _ hk => h.noDocument hk) hcontent
  rw [allOf_withoutDefinitions fun _ => Kind.isDocument_of_isDefinition,
    allOf_withoutDefinitions fun _ => Kind.isDocument_of_isDefinition] at hinner
  rw [isWholeDocument, isWholeDocument, hroot, hroot', hinner.1, hinner.2]
  exact ⟨rfl, rfl⟩

/-- Documents whose content matches compile to the same source and images, or
fail with defects that are not told apart. -/
theorem compile_alike (options : TypstOptions)
    (h : SetAlike document.firstUrl? document'.firstUrl? T E)
    (hroot : document.isDocument = true) (hroot' : document'.isDocument = true)
    (hcontent : MatchesAll T (withoutDefinitions document.children)
      (withoutDefinitions document'.children)) :
    (∃ compiled, (compile options document).result = .ok compiled ∧
        (compile options document').result = .ok compiled) ∨
      ∃ d d', (d = d' ∨ E d d') ∧ (compile options document).result = .error d.failure ∧
        (compile options document').result = .error d'.failure := by
  obtain ⟨hwhole, hwhole'⟩ := isWholeDocument_of_matches h hroot hroot' hcontent
  have hfragments := compiledFragments_alike options h hroot hroot' hcontent
  rw [compile_result options hwhole, compile_result options hwhole']
  rcases hfragments.firstDefect with ⟨hd, hd'⟩ | ⟨d, d', hdefects, hd, hd'⟩
  · have hsources : sources (compiledFragments options document) =
        sources (compiledFragments options document') := hfragments.filterMap_eq fun _ => rfl
    have hassets : assetUrls (compiledFragments options document) =
        assetUrls (compiledFragments options document') := hfragments.filterMap_eq fun _ => rfl
    rw [hd, hd', hsources, hassets]
    exact Or.inl ⟨_, rfl, rfl⟩
  · rw [hd, hd']
    exact Or.inr ⟨d, d', hdefects, rfl, rfl⟩

end

end Typst

end TypstPress
