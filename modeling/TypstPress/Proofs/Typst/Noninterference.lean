import TypstPress.Proofs.Typst.Length
import TypstPress.Proofs.Typst.Malformed

/-!
# Text never becomes markup

The statement is about two runs. Take two documents of one shape that differ
in nothing but what they say: the contents of texts and of code, urls, labels,
alternative texts and captions. Then compiling them fails for both with one
failure, or gives two sources with one skeleton. Whatever an author writes, the
markup around it is the markup of the shape. Only a url that cannot be encoded
tells the two runs apart, and it does so unless both stop at the same fault
(`compile_skeleton`).

`Alike` is what carries the proof. Two rows of pieces are alike when they take
a reading from one place to another and show the same on the way; it composes
along concatenation, and an escaped text is alike any other. The kinds of nodes
then only have to be read piece by piece, and `corresponds` does the rest.

What the shape fixes is what is not set in literals: identifiers, because a
reference is set differently when its definition is missing, the form of a
reference, the attributes of an image, and whether a text that is left out when
it is empty is there at all.
-/

namespace TypstPress

open Node

/-! ## Documents that differ in what they say -/

/-- Two leaves that are set by the same markup. -/
inductive Leaf.SameMarkup : Leaf → Leaf → Prop where
  | codeBlock {content content' language language'} :
      SameMarkup (.codeBlock content language) (.codeBlock content' language')
  | thematicBreak : SameMarkup .thematicBreak .thematicBreak
  | htmlBlock {content content'} : SameMarkup (.htmlBlock content) (.htmlBlock content')
  | mathBlock {content content'} : SameMarkup (.mathBlock content) (.mathBlock content')
  | definition {identifier url url' title title' label label'} :
      SameMarkup (.definition identifier url title label)
        (.definition identifier url' title' label')
  | text {content content'} : SameMarkup (.text content) (.text content')
  | code {content content'} : SameMarkup (.code content) (.code content')
  | image {url url' altText altText' title title' attributes}
      (hempty : altText.isEmpty = altText'.isEmpty) :
      SameMarkup (.image url altText title attributes) (.image url' altText' title' attributes)
  | imageReference {identifier label label' form altText altText' attributes}
      (hempty : altText.isEmpty = altText'.isEmpty) :
      SameMarkup (.imageReference identifier label form altText attributes)
        (.imageReference identifier label' form altText' attributes)
  | lineBreak {soft soft'} : SameMarkup (.lineBreak soft) (.lineBreak soft')
  | htmlInline {content content'} : SameMarkup (.htmlInline content) (.htmlInline content')
  | mathInline {content content'} : SameMarkup (.mathInline content) (.mathInline content')
  | footnoteReference {identifier} :
      SameMarkup (.footnoteReference identifier) (.footnoteReference identifier)

/-- Whether attributes give a caption that is not blank. -/
def Attributes.isCaptioned (attributes : Attributes) : Bool :=
  match attributes.value? "caption" with
  | none | some "" => false
  | some _ => true

/-- Two branches below the root that are set by the same markup. -/
inductive Branch.SameMarkup : Branch → Branch → Prop where
  | heading {level} : SameMarkup (.heading level) (.heading level)
  | paragraph : SameMarkup .paragraph .paragraph
  | blockQuote : SameMarkup .blockQuote .blockQuote
  | list {ordered start tight tight'} :
      SameMarkup (.list ordered start tight) (.list ordered start tight')
  | listItem : SameMarkup .listItem .listItem
  | table {headed headed' alignments} :
      SameMarkup (.table headed alignments) (.table headed' alignments)
  | tableRow {isHeader isHeader'} : SameMarkup (.tableRow isHeader) (.tableRow isHeader')
  | tableCell {colspan rowspan suppressed alignment alignment'} :
      SameMarkup (.tableCell colspan rowspan suppressed alignment)
        (.tableCell colspan rowspan suppressed alignment')
  | footnoteDefinition {identifier} :
      SameMarkup (.footnoteDefinition identifier) (.footnoteDefinition identifier)
  | containerDirective {name attributes attributes'}
      (hcaption : name = "figure" → attributes.isCaptioned = attributes'.isCaptioned) :
      SameMarkup (.containerDirective name attributes) (.containerDirective name attributes')
  | leafDirective {name name' attributes attributes'} :
      SameMarkup (.leafDirective name attributes) (.leafDirective name' attributes')
  | emphasis : SameMarkup .emphasis .emphasis
  | strong : SameMarkup .strong .strong
  | strikethrough : SameMarkup .strikethrough .strikethrough
  | link {url url' title title'} : SameMarkup (.link url title) (.link url' title')
  | linkReference {identifier label label' form} :
      SameMarkup (.linkReference identifier label form) (.linkReference identifier label' form)
  | textDirective {name name' attributes attributes'} :
      SameMarkup (.textDirective name attributes) (.textDirective name' attributes')
  | typstMarkup : SameMarkup .typstMarkup .typstMarkup

/-- Two nodes below the root that are set by the same markup and differ at
most in what they say. Raw source is no part of such nodes. -/
def Kind.SameMarkup : Kind → Kind → Prop
  | .leaf l, .leaf l' => l.SameMarkup l'
  | .branch k, .branch k' => k.SameMarkup k'
  | _, _ => False

theorem isDocument_of_sameMarkup {k k' : Kind} (h : k.SameMarkup k') :
    (!k.isDocument) = true ∧ (!k'.isDocument) = true := by
  match k, k', h with
  | .leaf l, .leaf l', _ => exact ⟨rfl, rfl⟩
  | .branch k, .branch k', h => cases h <;> exact ⟨rfl, rfl⟩

theorem layout_of_sameMarkup {k k' : Branch} (h : k.SameMarkup k') :
    k.layout = k'.layout := by
  cases h <;> rfl

theorem kindName_of_sameMarkup {n n' : Node} (h : n.kind.SameMarkup n'.kind) :
    n.kindName = n'.kindName := by
  match n, n', h with
  | .leaf l m, .leaf l' m', h => cases h <;> rfl
  | .branch k cs m, .branch k' cs' m', h => cases h <;> rfl

/-- Definitions with the same identifiers and with notes of one markup. -/
structure Definitions.SameMarkup (d d' : Definitions) : Prop where
  links : d.links.map Prod.fst = d'.links.map Prod.fst
  notes : List.Forall₂
    (fun note note' => note.1 = note'.1 ∧ MatchesAll Kind.SameMarkup note.2 note'.2)
    d.notes d'.notes

namespace Definitions

variable {d d' : Definitions}

theorem isSome_url?_iff {identifier : String} :
    (d.url? identifier).isSome = true ↔ identifier ∈ d.links.map Prod.fst := by
  rw [url?, List.lookup_isSome_iff, List.mem_map]
  constructor
  · rintro ⟨link, hlink, heq⟩
    exact ⟨link, hlink, (eq_of_beq heq).symm⟩
  · rintro ⟨link, hlink, rfl⟩
    exact ⟨link, hlink, beq_self_eq_true link.1⟩

theorem SameMarkup.isSome_url? (h : d.SameMarkup d') (identifier : String) :
    (d.url? identifier).isSome = (d'.url? identifier).isSome := by
  rw [Bool.eq_iff_iff, isSome_url?_iff, isSome_url?_iff, h.links]

theorem SameMarkup.url?_cases (h : d.SameMarkup d') (identifier : String) :
    (∃ url url', d.url? identifier = some url ∧ d'.url? identifier = some url') ∨
      (d.url? identifier = none ∧ d'.url? identifier = none) := by
  have hsome := h.isSome_url? identifier
  cases hu : d.url? identifier with
  | some url =>
      rw [hu] at hsome
      obtain ⟨url', hu'⟩ := Option.isSome_iff_exists.1 hsome.symm
      exact Or.inl ⟨url, url', rfl, hu'⟩
  | none =>
      rw [hu] at hsome
      exact Or.inr ⟨rfl, Option.isNone_iff_eq_none.1 (by simpa using hsome.symm)⟩

theorem SameMarkup.identifiers (h : d.SameMarkup d') :
    d.notes.map Prod.fst = d'.notes.map Prod.fst := by
  have hnotes := h.notes
  generalize d.notes = notes, d'.notes = notes' at hnotes ⊢
  induction hnotes with
  | nil => rfl
  | cons hnote hnotes ih => rw [List.map_cons, List.map_cons, hnote.1, ih]

theorem SameMarkup.hasNote (h : d.SameMarkup d') (identifier : String) :
    d.hasNote identifier = d'.hasNote identifier := by
  rw [Bool.eq_iff_iff, hasNote_iff, hasNote_iff, h.identifiers]

theorem SameMarkup.collectNode (h : d.SameMarkup d') {n n' : Node}
    (hn : n.Matches Kind.SameMarkup n') : (d.collectNode n).SameMarkup (d'.collectNode n') := by
  match n, n', hn with
  | .leaf l m, .leaf l' m', hn =>
      cases hn with
      | @definition identifier =>
          simp only [Definitions.collectNode, h.isSome_url? identifier]
          split
          · exact h
          · exact ⟨by rw [List.map_append, List.map_append, h.links]; rfl, h.notes⟩
      | _ => exact h
  | .branch k cs m, .branch k' cs' m', ⟨hk, hcs⟩ =>
      cases hk with
      | @footnoteDefinition identifier =>
          simp only [Definitions.collectNode, h.hasNote identifier]
          split
          · exact h
          · exact ⟨h.links, List.rel_append h.notes (.cons ⟨rfl, hcs⟩ .nil)⟩
      | _ => exact h

theorem SameMarkup.foldl (h : d.SameMarkup d') {ns ns' : List Node}
    (hn : List.Forall₂ (Matches Kind.SameMarkup) ns ns') :
    (ns.foldl Definitions.collectNode d).SameMarkup
      (ns'.foldl Definitions.collectNode d') := by
  induction hn generalizing d d' with
  | nil => exact h
  | cons hfirst _ ih => exact ih (h.collectNode hfirst)

end Definitions

namespace Typst

/-! ## Pieces that read alike -/

/-- The characters of pieces of source. -/
def text (pieces : List String) : List Char := pieces.flatMap String.toList

theorem text_append (ps qs : List String) : text (ps ++ qs) = text ps ++ text qs :=
  List.flatMap_append

/-- Two rows of pieces that lead a reading from one place to another and show
the same on the way. -/
structure Alike (p q : Place) (ps ps' : List String) : Prop where
  left : p.after (text ps) = q
  right : p.after (text ps') = q
  shown : skeletonFrom p (text ps) = skeletonFrom p (text ps')

theorem Alike.append {p q r : Place} {ps ps' qs qs' : List String} (h : Alike p q ps ps')
    (h' : Alike q r qs qs') : Alike p r (ps ++ qs) (ps' ++ qs') where
  left := by rw [text_append, Place.after_append, h.left, h'.left]
  right := by rw [text_append, Place.after_append, h.right, h'.right]
  shown := by
    rw [text_append, text_append, skeletonFrom_append, skeletonFrom_append, h.left, h.right,
      h.shown, h'.shown]

theorem Alike.nil (p : Place) : Alike p p [] [] := ⟨rfl, rfl, rfl⟩

theorem Alike.cons {p q r : Place} {s s' : String} {ps ps' : List String}
    (h : Alike p q [s] [s']) (h' : Alike q r ps ps') : Alike p r (s :: ps) (s' :: ps') :=
  h.append h'

theorem text_glue (s t : String) (ps : List String) :
    text ((s ++ t) :: ps) = text (s :: t :: ps) := by
  simp [text]

/-- Pieces that are joined to one read as they do apart. -/
theorem Alike.glue {p q : Place} {s s' t t' : String} {ps ps' : List String}
    (h : Alike p q (s :: t :: ps) (s' :: t' :: ps')) :
    Alike p q ((s ++ t) :: ps) ((s' ++ t') :: ps') where
  left := by rw [text_glue, h.left]
  right := by rw [text_glue, h.right]
  shown := by rw [text_glue, text_glue, h.shown]

theorem text_singleton (s : String) : text [s] = s.toList :=
  List.append_nil _

theorem Alike.same {p q : Place} {s : String} (h : p.after s.toList = q) :
    Alike p q [s] [s] := by
  rw [← text_singleton] at h
  exact ⟨h, h, rfl⟩

theorem Alike.plain {s : String} (h : Plain s) : Alike .outside .outside [s] [s] :=
  Alike.same (after_of_quote_not_mem h)

/-- Any two escaped texts read alike inside a literal. -/
theorem Alike.escape (s s' : String) : Alike .inside .inside [escape s] [escape s'] where
  left := by rw [text_singleton, after_escape]
  right := by rw [text_singleton, after_escape]
  shown := by
    rw [text_singleton, text_singleton, skeletonFrom_escape, skeletonFrom_escape]

theorem Alike.literal {a b : String} (ha : Place.outside.after a.toList = .inside)
    (hb : Place.inside.after b.toList = .outside) (s s' : String) :
    Alike .outside .outside [a, Typst.escape s, b] [a, Typst.escape s', b] :=
  (Alike.same ha).cons ((Alike.escape s s').cons (Alike.same hb))

/-! ## Fragments of one skeleton -/

/-- Two rows of fragments that meet the same defect, unless one of them stops at a
url, and that refer to the same footnotes and read alike as markup where neither
is stopped. -/
structure SameSkeleton (fs fs' : List Fragment) : Prop where
  defect : firstIllFormed fs = none → firstIllFormed fs' = none →
    firstDefect fs = firstDefect fs'
  cited : firstDefect fs = none → firstDefect fs' = none → citations fs = citations fs'
  alike : firstDefect fs = none → firstDefect fs' = none →
    Alike .outside .outside (sources fs) (sources fs')

theorem SameSkeleton.of_alike {fs fs' : List Fragment} (hdefect : firstDefect fs = firstDefect fs')
    (hcited : citations fs = citations fs')
    (halike : Alike .outside .outside (sources fs) (sources fs')) : SameSkeleton fs fs' :=
  ⟨fun _ _ => hdefect, fun _ _ => hcited, fun _ _ => halike⟩

/-- Where one row stops at a url nothing is asked of the other. -/
theorem SameSkeleton.of_illFormed {fs fs' : List Fragment} {t : IllFormedText}
    (h : firstIllFormed fs = some t ∨ firstIllFormed fs' = some t) : SameSkeleton fs fs' := by
  have hstops : firstIllFormed fs = none → firstIllFormed fs' = none → False := by
    intro hfs hfs'
    rw [hfs, hfs'] at h
    exact h.elim nofun nofun
  have hgoes : ∀ {gs}, firstDefect gs = none → firstIllFormed gs = none := fun hd => by
    rw [firstIllFormed, hd, Option.bind_none]
  exact ⟨fun h h' => (hstops h h').elim, fun h h' => (hstops (hgoes h) (hgoes h')).elim,
    fun h h' => (hstops (hgoes h) (hgoes h')).elim⟩

theorem SameSkeleton.nil : SameSkeleton [] [] := .of_alike rfl rfl (Alike.nil _)

/-- What follows need only agree where the first rows were not stopped. -/
theorem SameSkeleton.andThen {fs fs' gs gs' : List Fragment} (h : SameSkeleton fs fs')
    (h' : firstDefect fs = none → firstDefect fs' = none → SameSkeleton gs gs') :
    SameSkeleton (fs ++ gs) (fs' ++ gs') where
  defect hstop hstop' := by
    have hfirst := h.defect (firstIllFormed_of_append hstop) (firstIllFormed_of_append hstop')
    rw [firstDefect_append, firstDefect_append]
    cases hd : firstDefect fs with
    | some d => rw [← hfirst, hd, Option.some_or, Option.some_or]
    | none =>
        have hd' := hfirst.symm.trans hd
        rw [firstIllFormed_append_of_none hd] at hstop
        rw [firstIllFormed_append_of_none hd'] at hstop'
        rw [hd', (h' hd hd').defect hstop hstop']
  cited hd hd' := by
    rw [firstDefect_append_eq_none] at hd hd'
    rw [citations_append, citations_append, h.cited hd.1 hd'.1,
      (h' hd.1 hd'.1).cited hd.2 hd'.2]
  alike hd hd' := by
    rw [firstDefect_append_eq_none] at hd hd'
    rw [sources_append, sources_append]
    exact (h.alike hd.1 hd'.1).append ((h' hd.1 hd'.1).alike hd.2 hd'.2)

theorem SameSkeleton.append {fs fs' gs gs' : List Fragment} (h : SameSkeleton fs fs')
    (h' : SameSkeleton gs gs') : SameSkeleton (fs ++ gs) (fs' ++ gs') :=
  h.andThen fun _ _ => h'

theorem SameSkeleton.defect_self (d : Defect) :
    SameSkeleton [.defect d] [.defect d] :=
  .of_alike rfl rfl (Alike.nil _)

theorem SameSkeleton.piece {t t' : String} (h : Alike .outside .outside [t] [t']) :
    SameSkeleton [.source t] [.source t'] :=
  .of_alike rfl rfl h

theorem SameSkeleton.plain {t : String} (h : Plain t) : SameSkeleton [.source t] [.source t] :=
  .piece (Alike.plain h)

theorem SameSkeleton.of_forall_plain {fs : List Fragment}
    (h : ∀ f ∈ fs, ∃ t, Plain t ∧ f = .source t) : SameSkeleton fs fs := by
  induction fs with
  | nil => exact .nil
  | cons f fs ih =>
      rw [List.forall_mem_cons] at h
      obtain ⟨t, ht, rfl⟩ := h.1
      exact (SameSkeleton.plain ht).append (ih h.2)

theorem SameSkeleton.record (r r' : Record) : SameSkeleton [.record r] [.record r'] :=
  .of_alike rfl rfl (Alike.nil _)

theorem SameSkeleton.cite (identifier : String) :
    SameSkeleton [.cite identifier] [.cite identifier] :=
  .of_alike rfl rfl (Alike.nil _)

theorem SameSkeleton.pieces {t₁ t₂ t₃ u₁ u₂ u₃ : String}
    (h : Alike .outside .outside [t₁, t₂, t₃] [u₁, u₂, u₃]) :
    SameSkeleton [.source t₁, .source t₂, .source t₃] [.source u₁, .source u₂, .source u₃] :=
  .of_alike rfl rfl h

theorem SameSkeleton.literal {a b : String} (ha : Place.outside.after a.toList = .inside)
    (hb : Place.inside.after b.toList = .outside) (s s' : String) :
    SameSkeleton [.source a, .source (Typst.escape s), .source b]
      [.source a, .source (Typst.escape s'), .source b] :=
  .pieces (Alike.literal ha hb s s')

/-! ## Leaves -/

theorem textLiteral_sameSkeleton (s s' : String) :
    SameSkeleton (textLiteral s) (textLiteral s') :=
  SameSkeleton.literal (by decide) (by decide) s s'

theorem formula_sameSkeleton (block : Bool) (s s' : String) :
    SameSkeleton (formula block s) (formula block s') := by
  refine SameSkeleton.literal ?_ ?_ s s'
  · cases block <;> decide
  · cases block <;> decide

theorem rawText_sameSkeleton (block : Bool) (language language' s s' : String) :
    SameSkeleton (rawText block language s) (rawText block language' s') := by
  refine .pieces (Alike.glue (Alike.glue (q := .outside) ?_))
  refine (Alike.same (q := .inside) ?_).cons ((Alike.escape language language').cons
    ((Alike.same (q := .inside) ?_).cons ((Alike.escape s s').cons (Alike.same ?_))))
  · cases block <;> decide
  · decide
  · cases block <;> decide

theorem imageArguments_sameSkeleton (url url' : String) (attributes : Attributes)
    {names : List String} (h : ∀ name ∈ names, Plain name) :
    SameSkeleton (imageArguments url attributes names)
      (imageArguments url' attributes names) := by
  induction names with
  | nil => exact SameSkeleton.nil
  | cons name names ih =>
      rw [List.forall_mem_cons] at h
      have hrest := ih h.2
      rw [imageArguments, imageArguments]
      split
      · exact hrest
      · next value _ =>
          by_cases hvalue : isRelativeLength value = true
          · rw [if_pos hvalue, if_pos hvalue]
            exact (SameSkeleton.plain (plain_imageArgument h.1 hvalue)).append hrest
          · rw [if_neg hvalue, if_neg hvalue]
            exact (SameSkeleton.record _ _).append hrest

theorem encodedImage_sameSkeleton {s s' : Setting} (hoptions : s.options = s'.options)
    (hnames : ∀ name ∈ s.options.imageAttributes, Plain name) (url url' : String)
    {altText altText' : String} (halt : altText.isEmpty = altText'.isEmpty)
    (attributes : Attributes) :
    SameSkeleton (encodedImage s url altText attributes)
      (encodedImage s' url' altText' attributes) := by
  have hopen : SameSkeleton
      [.source "#box(image(\"", .source (assetId url), .source "\""]
      [.source "#box(image(\"", .source (assetId url'), .source "\""] := by
    rw [← escape_assetId url, ← escape_assetId url']
    exact SameSkeleton.literal (by decide) (by decide) _ _
  have hend : ∀ url url' r r',
      SameSkeleton [.source "))", .asset url, .record r]
        [.source "))", .asset url', .record r'] :=
    fun _ _ _ _ => .of_alike rfl rfl (Alike.plain (by decide))
  rw [encodedImage, encodedImage, ← hoptions, halt]
  refine ((hopen.append (imageArguments_sameSkeleton url url' attributes hnames)).append
    ?_).append (hend url url' _ _)
  split
  · exact SameSkeleton.nil
  · exact SameSkeleton.literal (by decide) (by decide) _ _

/-- The urls of two images make no difference to the markup, unless one of them
cannot be encoded. -/
theorem image_sameSkeleton {s s' : Setting} (hoptions : s.options = s'.options)
    (hnames : ∀ name ∈ s.options.imageAttributes, Plain name) (url url' : Url)
    {altText altText' : String} (halt : altText.isEmpty = altText'.isEmpty)
    (attributes : Attributes) :
    SameSkeleton (image s url altText attributes) (image s' url' altText' attributes) := by
  cases url with
  | illFormed t => exact .of_illFormed (Or.inl rfl)
  | text url =>
      cases url' with
      | illFormed t => exact .of_illFormed (Or.inr rfl)
      | text url' => exact encodedImage_sameSkeleton hoptions hnames url url' halt attributes

theorem referenceEnd_alike (form : ReferenceForm) (label label' : Option String)
    (identifier : String) :
    Alike .outside .outside [referenceEnd form label identifier]
      [referenceEnd form label' identifier] := by
  cases form with
  | shortcut =>
      show Alike _ _ ["#\"]" ++ "" ++ "\""] ["#\"]" ++ "" ++ "\""]
      exact Alike.same (by decide)
  | collapsed =>
      show Alike _ _ ["#\"]" ++ "[]" ++ "\""] ["#\"]" ++ "[]" ++ "\""]
      exact Alike.same (by decide)
  | full =>
      -- one literal from before the brackets to behind them, the label inside
      refine Alike.glue (Alike.glue ?_)
      refine (Alike.same (q := .inside) (by decide)).cons (Alike.glue (Alike.glue ?_))
      exact (Alike.same (q := .inside) (by decide)).cons ((Alike.escape _ _).cons
        ((Alike.same (q := .inside) (by decide)).cons (Alike.same (by decide))))

/-! ## Branches -/

theorem listOpening_sameSkeleton (ordered : Bool) (start : Option Int) :
    SameSkeleton (listOpening ordered start) (listOpening ordered start) := by
  have hend : SameSkeleton [.source "\n"] [.source "\n"] := SameSkeleton.plain (by decide)
  cases ordered with
  | false => exact (SameSkeleton.plain (t := "#list(") (by decide)).append hend
  | true =>
      refine (SameSkeleton.plain (t := "#enum(") (by decide)).append (.append ?_ hend)
      cases start with
      | none => exact SameSkeleton.nil
      | some n =>
          exact SameSkeleton.plain (plain_integer (by decide) (by decide) n)

/-- A figure opens with its caption, or without one when that is blank. -/
theorem figureOpening_eq (attributes : Attributes) :
    (attributes.isCaptioned = false ∧
        figureOpening attributes = [.source "#figure("] ++ [.source ")[\n"]) ∨
      (attributes.isCaptioned = true ∧
        ∃ caption, figureOpening attributes =
          [.source "#figure("] ++
            [.source "caption: \"", .source (escape caption), .source "\", "] ++
            [.source ")[\n"]) := by
  unfold Attributes.isCaptioned figureOpening
  cases attributes.value? "caption" with
  | none => exact Or.inl ⟨rfl, rfl⟩
  | some caption =>
      by_cases hblank : caption = ""
      · rw [hblank]
        exact Or.inl ⟨rfl, rfl⟩
      · exact Or.inr ⟨by simp, caption, by simp⟩

theorem figureOpening_sameSkeleton {attributes attributes' : Attributes}
    (h : attributes.isCaptioned = attributes'.isCaptioned) :
    SameSkeleton (figureOpening attributes) (figureOpening attributes') := by
  have hopen : SameSkeleton [.source "#figure("] [.source "#figure("] :=
    SameSkeleton.plain (by decide)
  have hend : SameSkeleton [.source ")[\n"] [.source ")[\n"] := SameSkeleton.plain (by decide)
  rcases figureOpening_eq attributes with ⟨hc, heq⟩ | ⟨hc, caption, heq⟩
  · rcases figureOpening_eq attributes' with ⟨hc', heq'⟩ | ⟨hc', -⟩
    · rw [heq, heq']
      exact hopen.append hend
    · rw [hc, hc'] at h
      cases h
  · rcases figureOpening_eq attributes' with ⟨hc', -⟩ | ⟨hc', caption', heq'⟩
    · rw [hc, hc'] at h
      cases h
    · rw [heq, heq']
      exact (hopen.append (.literal (by decide) (by decide) caption caption')).append hend

theorem cellOpening_sameSkeleton (colspan rowspan : Nat) :
    SameSkeleton (cellOpening colspan rowspan) (cellOpening colspan rowspan) := by
  have hspan : ∀ (condition : Prop) [Decidable condition] (s : String), Plain s →
      SameSkeleton (if condition then [.source s] else [])
        (if condition then [.source s] else []) := by
    intro condition _ s hs
    split
    · exact SameSkeleton.plain hs
    · exact SameSkeleton.nil
  refine .append (.append (.append (.plain (by decide)) (hspan _ _ ?_)) (hspan _ _ ?_))
    (.plain (by decide))
  · exact plain_number (by decide) (by decide) colspan
  · exact plain_number (by decide) (by decide) rowspan

theorem tableOpening_sameSkeleton {columns : List (Option String)} {words : List String}
    (h : columnAlignments columns = .ok words) :
    SameSkeleton (tableOpening words) (tableOpening words) := by
  have hopen : Plain s!"#figure(table(columns: {words.length}, align: (" :=
    plain_number (by decide) (by decide) words.length
  have hcolumns : SameSkeleton
      (words.flatMap fun alignment => [.source alignment, .source ", "])
      (words.flatMap fun alignment => [.source alignment, .source ", "]) := by
    refine SameSkeleton.of_forall_plain fun f hf => ?_
    obtain ⟨piece, hpiece, rfl⟩ := eq_of_mem_alignments hf
    exact ⟨piece, plain_of_mem_alignments h piece hpiece, rfl⟩
  exact ((SameSkeleton.plain hopen).append hcolumns).append (SameSkeleton.plain (by decide))

theorem linkOpening_sameSkeleton (url url' : Url) :
    SameSkeleton (linkOpening url) (linkOpening url') :=
  SameSkeleton.literal (by decide) (by decide) url.shown url'.shown

/-- Two settings for two documents of one shape. -/
structure Setting.SameMarkup (s s' : Setting) : Prop where
  options : s.options = s'.options
  names : ∀ name ∈ s.options.imageAttributes, Plain name
  definitions : s.definitions.SameMarkup s'.definitions

section

variable {s s' : Setting} (hs : s.SameMarkup s')

include hs

theorem leaf_sameSkeleton {l l' : Leaf} (h : l.SameMarkup l') :
    SameSkeleton (leafFragments s l) (leafFragments s' l') := by
  cases h with
  | codeBlock => exact rawText_sameSkeleton true _ _ _ _
  | thematicBreak => exact SameSkeleton.plain (by decide)
  | htmlBlock | code | htmlInline => exact rawText_sameSkeleton false _ _ _ _
  | mathBlock => exact formula_sameSkeleton true _ _
  | mathInline => exact formula_sameSkeleton false _ _
  | definition => exact SameSkeleton.nil
  | text => exact textLiteral_sameSkeleton _ _
  | image hempty => exact image_sameSkeleton hs.options hs.names _ _ hempty _
  | @imageReference identifier label label' form altText altText' attributes hempty =>
      rw [leafFragments, leafFragments]
      rcases hs.definitions.url?_cases identifier with ⟨url, url', hu, hu'⟩ | ⟨hu, hu'⟩
      · rw [hu, hu']
        exact image_sameSkeleton hs.options hs.names _ _ hempty _
      · have hend := SameSkeleton.piece (referenceEnd_alike form label label' identifier)
        rw [hu, hu']
        exact .append (.append (.record _ _) (.literal (by decide) (by decide) altText altText'))
          hend
  | lineBreak => exact SameSkeleton.piece (Alike.same (by decide))
  | @footnoteReference identifier =>
      have hlabel : noteLabel s identifier = noteLabel s' identifier := by
        rw [noteLabel, noteLabel, hs.options]
      rw [leafFragments, leafFragments, hs.definitions.hasNote identifier, hlabel]
      split
      · exact .append (.cite identifier) (.literal (by decide) (by decide) _ _)
      · exact .append (.record _ _) (.literal (by decide) (by decide) _ _)

theorem opening_sameSkeleton {k k' : Branch} (h : k.SameMarkup k') :
    SameSkeleton (opening s k) (opening s' k') := by
  cases h with
  | @heading level =>
      exact SameSkeleton.plain (plain_number (by decide) (by decide) level)
  | paragraph | blockQuote | emphasis | strong | strikethrough =>
      exact SameSkeleton.plain (by decide)
  | @list ordered start => exact listOpening_sameSkeleton ordered start
  | containerDirective hcaption =>
      rw [opening, opening]
      split
      · next hname => exact figureOpening_sameSkeleton (hcaption (eq_of_beq hname))
      · exact SameSkeleton.nil
  | link => exact linkOpening_sameSkeleton _ _
  | @linkReference identifier =>
      rw [opening, opening]
      rcases hs.definitions.url?_cases identifier with ⟨url, url', hu, hu'⟩ | ⟨hu, hu'⟩
      · rw [hu, hu']
        exact linkOpening_sameSkeleton url url'
      · rw [hu, hu']
        exact .append (.record _ _) (.piece (Alike.same (by decide)))
  | _ => exact SameSkeleton.nil

theorem closing_sameSkeleton {k k' : Branch} (h : k.SameMarkup k') :
    SameSkeleton (closing s k) (closing s' k') := by
  cases h with
  | heading | paragraph | blockQuote | list | emphasis | strong | strikethrough | link =>
      exact SameSkeleton.plain (by decide)
  | containerDirective =>
      rw [closing, closing]
      split
      · exact SameSkeleton.plain (by decide)
      · exact SameSkeleton.nil
  | @linkReference identifier label label' form =>
      rw [closing, closing]
      rcases hs.definitions.url?_cases identifier with ⟨url, url', hu, hu'⟩ | ⟨hu, hu'⟩
      · rw [hu, hu']
        exact SameSkeleton.plain (by decide)
      · rw [hu, hu']
        exact SameSkeleton.piece (referenceEnd_alike form label label' identifier)
  | _ => exact SameSkeleton.nil

theorem skeleton_correspondence :
    Correspondence s s' Kind.SameMarkup SameSkeleton where
  layout h := layout_of_sameMarkup h
  noDocument h hk := by
    obtain rfl := layout_eq_document hk
    cases h
  nil := SameSkeleton.nil
  append := SameSkeleton.append
  leaf h := leaf_sameSkeleton hs h
  frame h _ hfs := ((opening_sameSkeleton hs h).append hfs).append (closing_sameSkeleton hs h)
  item hfs :=
    (SameSkeleton.append (.plain (by decide)) hfs).append (.plain (by decide))
  table hwords hrows :=
    ((tableOpening_sameSkeleton hwords).append hrows).append (.plain (by decide))
  rowEnd := .plain (by decide)
  cell {colspan rowspan} _ _ hfs :=
    ((cellOpening_sameSkeleton colspan rowspan).append hfs).append (.plain (by decide))
  padding := .plain (by decide)
  strayRow := .defect_self _
  unknownAlignment _ := .defect_self _
  notTabular part h := by
    rw [kindName_of_sameMarkup h]
    exact .defect_self _

theorem noteFragments_sameSkeleton {notes notes' : List (String × List Node)}
    (h : List.Forall₂
      (fun note note' => note.1 = note'.1 ∧ MatchesAll Kind.SameMarkup note.2 note'.2)
      notes notes') (cited : List String) :
    SameSkeleton (noteFragments s cited notes) (noteFragments s' cited notes') := by
  induction h generalizing cited with
  | nil => exact SameSkeleton.nil
  | @cons note note' notes notes' hnote hnotes ih =>
      have hlabel : noteLabel s note.1 = noteLabel s' note.1 := by
        rw [noteLabel, noteLabel, hs.options]
      have hbody : SameSkeleton (bodyFragments s note.1 note.2)
          (bodyFragments s' note.1 note'.2) := by
        rw [bodyFragments, bodyFragments, hlabel]
        exact (SameSkeleton.append (.plain (by decide))
          (allCorrespond (skeleton_correspondence hs) hnote.2)).append
            (.literal (by decide) (by decide) _ _)
      rw [noteFragments, noteFragments, settledNotes, settledNotes, ← hnote.1]
      split
      · rw [List.flatMap_cons, List.flatMap_cons, ← hnote.1]
        refine hbody.andThen fun hd hd' => ?_
        rw [hbody.cited hd hd']
        exact ih _
      · exact ih _

end

theorem settingOf_sameMarkup (options : TypstOptions)
    (hnames : ∀ name ∈ options.imageAttributes, Plain name) {document document' : Node}
    (hroot : document.isDocument = true) (hroot' : document'.isDocument = true)
    (hsame : MatchesAll Kind.SameMarkup document.children document'.children) :
    (settingOf options document).SameMarkup (settingOf options document') where
  options := rfl
  names := hnames
  definitions := by
    obtain ⟨cs, m, rfl⟩ := eq_document hroot
    obtain ⟨cs', m', rfl⟩ := eq_document hroot'
    have hempty : Definitions.SameMarkup {} {} := ⟨rfl, .nil⟩
    rw [settingOf, settingOf, Definitions.collect_eq, Definitions.collect_eq, Node.preorder,
      Node.preorder, List.foldl_cons, List.foldl_cons]
    exact hempty.foldl hsame.preorderAll

theorem compiledFragments_sameSkeleton {options : TypstOptions} {document document' : Node}
    (hs : (settingOf options document).SameMarkup (settingOf options document'))
    (hsame : MatchesAll Kind.SameMarkup document.children document'.children) :
    SameSkeleton (compiledFragments options document)
      (compiledFragments options document') := by
  have hbody := allCorrespond (skeleton_correspondence hs) hsame
  have htext : SameSkeleton (textFragments (settingOf options document) document.children)
      (textFragments (settingOf options document') document'.children) :=
    hbody.append (.append (.plain (t := "\n") (by decide)) (.plain (by decide)))
  rw [compiledFragments, compiledFragments, documentFragments, documentFragments]
  refine (htext.andThen fun hd hd' => ?_).append (.plain (by decide))
  rw [textFragments, firstDefect_append_eq_none] at hd hd'
  rw [hbody.cited hd.1 hd'.1]
  exact noteFragments_sameSkeleton hs hs.definitions.notes _

/-- Two results that are one failure, or two sources with one skeleton. -/
def SameEnd (result result' : Except Failure Compiled) : Prop :=
  (∃ failure, result = .error failure ∧ result' = .error failure) ∨
    (∃ compiled compiled', result = .ok compiled ∧ result' = .ok compiled' ∧
      skeleton compiled.source = skeleton compiled'.source)

theorem encodingFault?_of_sameEnd {result result' : Except Failure Compiled}
    (h : SameEnd result result') : encodingFault? result = encodingFault? result' := by
  rcases h with ⟨failure, rfl, rfl⟩ | ⟨compiled, compiled', rfl, rfl, -⟩
  · rfl
  · rfl

/-- Two defects at which documents of one shape stop are one failure, if they are
one as far as they are about urls. -/
theorem failure_eq_of_illFormed {d d' : Defect}
    (hfault : d.illFormed?.map IllFormedText.fault = d'.illFormed?.map IllFormedText.fault)
    (hother : d.illFormed? = none → d'.illFormed? = none → d = d') : d.failure = d'.failure := by
  cases ht : d.illFormed? with
  | none =>
      rw [ht, Option.map_none, eq_comm, Option.map_eq_none_iff] at hfault
      rw [hother ht hfault]
  | some t =>
      rw [ht, Option.map_some, eq_comm, Option.map_eq_some_iff] at hfault
      obtain ⟨t', ht', hfault⟩ := hfault
      cases d with
      | unencodableUrl =>
          cases d' with
          | unencodableUrl =>
              cases ht
              cases ht'
              exact congrArg Failure.fault hfault.symm
          | _ => cases ht'
      | _ => cases ht

/-- Two documents whose fragments have one skeleton end alike if they report one
fault of encoding a url, or none. -/
theorem sameEnd_of_encodingFault? {options : TypstOptions} {document document' : Node}
    (hwhole : document.isWholeDocument = true) (hwhole' : document'.isWholeDocument = true)
    (h : SameSkeleton (compiledFragments options document) (compiledFragments options document'))
    (hfault : encodingFault? (compile options document).result =
      encodingFault? (compile options document').result) :
    SameEnd (compile options document).result (compile options document').result := by
  rw [encodingFault?_compile options hwhole, encodingFault?_compile options hwhole'] at hfault
  rw [compile_result options hwhole, compile_result options hwhole']
  have hdefect := h.defect
  unfold firstIllFormed at hfault hdefect
  cases hd : firstDefect (compiledFragments options document) with
  | some d =>
      cases hd' : firstDefect (compiledFragments options document') with
      | some d' =>
          rw [hd, hd'] at hfault hdefect
          have hfailure : d.failure = d'.failure :=
            failure_eq_of_illFormed hfault fun h h' => Option.some.inj (hdefect h h')
          exact Or.inl ⟨d.failure, rfl, congrArg Except.error hfailure.symm⟩
      | none =>
          rw [hd, hd'] at hfault hdefect
          cases hdefect (Option.map_eq_none_iff.1 hfault) rfl
  | none =>
      cases hd' : firstDefect (compiledFragments options document') with
      | some d' =>
          rw [hd, hd'] at hfault hdefect
          cases hdefect rfl (Option.map_eq_none_iff.1 hfault.symm)
      | none =>
          refine Or.inr ⟨_, _, rfl, rfl, ?_⟩
          rw [skeleton, skeleton, String.toList_join, String.toList_join]
          exact congrArg String.ofList (h.alike hd hd').shown

/-- Compiling two documents of one shape fails for both with one failure, or
gives sources with one skeleton, just when the two runs report the same fault of
encoding a url or none. None is reported for a document whose urls can all be
encoded, and for a tabular document the one of the first node that is set at
which it stops, if that is an image. -/
theorem compile_skeleton (options : TypstOptions)
    (hnames : ∀ name ∈ options.imageAttributes, Plain name) {document document' : Node}
    (hroot : document.isDocument = true) (hroot' : document'.isDocument = true)
    (hsame : MatchesAll Kind.SameMarkup document.children document'.children) :
    (SameEnd (compile options document).result (compile options document').result ↔
        encodingFault? (compile options document).result =
          encodingFault? (compile options document').result) ∧
      ∀ tree ∈ [document, document'],
        (tree.all Kind.isEncodable = true →
          encodingFault? (compile options tree).result = none) ∧
        (tree.isTabular = true →
          encodingFault? (compile options tree).result =
            ((firstStop tree.firstUrl? (setNodes tree)).bind Defect.illFormed?).map
              IllFormedText.fault) := by
  have hinner := allOf_of_matchesAll (fun _ _ h => isDocument_of_sameMarkup h) hsame
  have hwhole : document.isWholeDocument = true := by rw [isWholeDocument, hroot, hinner.1]; rfl
  have hwhole' : document'.isWholeDocument = true := by rw [isWholeDocument, hroot', hinner.2]; rfl
  have hfragments := compiledFragments_sameSkeleton
    (settingOf_sameMarkup options hnames hroot hroot' hsame) hsame
  have htrees : ∀ tree ∈ [document, document'], tree.isWholeDocument = true := by
    rw [List.forall_mem_cons, List.forall_mem_singleton]
    exact ⟨hwhole, hwhole'⟩
  refine ⟨⟨encodingFault?_of_sameEnd, sameEnd_of_encodingFault? hwhole hwhole' hfragments⟩,
    fun tree htree => ⟨fun hall => ?_, fun htabular => ?_⟩⟩
  · rw [encodingFault?_compile options (htrees tree htree),
      firstIllFormed_compiledFragments options (htrees tree htree) hall, Option.map_none]
  · rw [encodingFault?_compile options (htrees tree htree), firstIllFormed,
      firstDefect_compiledFragments (htrees tree htree) htabular]

/-- A document with a text, a link and a note. -/
def letter (text url linked note : String) : Node :=
  .ofBranch .document
    [.ofBranch .paragraph
      [.ofText text, .ofBranch (.link url none) [.ofText linked],
        .ofLeaf (.footnoteReference "n")],
      .ofBranch (.footnoteDefinition "n") [.ofText note]]

/-- Texts that try to close their literals leave the markup as it is. -/
theorem compile_skeleton_of_quotes :
    SameEnd (compile {} (letter "a" "b" "c" "d")).result
      (compile {} (letter "\"]#e[" "\\" "\\\"" "\n")).result := by
  have hroot : ∀ text url linked note, (letter text url linked note).isDocument = true :=
    fun _ _ _ _ => rfl
  have hencodable : ∀ text url linked note,
      (letter text url linked note).all Kind.isEncodable = true := fun _ _ _ _ => rfl
  have hsame : MatchesAll Kind.SameMarkup (letter "a" "b" "c" "d").children
      (letter "\"]#e[" "\\" "\\\"" "\n").children :=
    ⟨⟨.paragraph, .text, ⟨.link, .text, trivial⟩, .footnoteReference, trivial⟩,
      ⟨.footnoteDefinition, .text, trivial⟩, trivial⟩
  obtain ⟨hend, hfaults⟩ :=
    compile_skeleton {} (by decide) (hroot _ _ _ _) (hroot _ _ _ _) hsame
  rw [List.forall_mem_cons, List.forall_mem_singleton] at hfaults
  exact hend.2
    ((hfaults.1.1 (hencodable _ _ _ _)).trans (hfaults.2.1 (hencodable _ _ _ _)).symm)

/-- Two images that differ in their urls, one of which cannot be encoded. -/
theorem not_sameEnd_pictureDocument :
    (∀ name ∈ ({} : TypstOptions).imageAttributes, Plain name) ∧
      MatchesAll Kind.SameMarkup (pictureDocument loneSurrogate).children
        (pictureDocument "x").children ∧
      ¬SameEnd (compile {} (pictureDocument loneSurrogate)).result
        (compile {} (pictureDocument "x")).result := by
  refine ⟨by decide, ⟨⟨.paragraph, .image rfl, trivial⟩, trivial⟩, fun hend => ?_⟩
  have hdefect : firstDefect (compiledFragments {} (pictureDocument "x")) = none := by
    rw [compiledFragments, settingOf, Definitions.collect_eq]
    decide
  have hfault := encodingFault?_of_sameEnd hend
  rw [compile_loneSurrogate, compile_result {} (by decide), hdefect] at hfault
  cases hfault

end Typst

end TypstPress
