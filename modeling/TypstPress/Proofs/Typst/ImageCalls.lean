import TypstPress.Proofs.Typst.Balance
import TypstPress.Proofs.Typst.Labels
import TypstPress.Proofs.Typst.Payload

/-!
# The image calls in a source

Images are set by calls of `image`, and a reader of the source finds them by
that word in front of a bracket. It must not be fooled by texts: what stands in
a literal is no call, whatever it looks like. `CallScan` reads a source from the
left and remembers the code behind it as far as no literal or call interrupts it,
so that a call is found even where it is put together from several pieces.

Nothing but `image` sets such a call. Brackets outside of literals belong to the
few words of the compiler, since numbers, alignments and lengths have none
(`quiet_of_bare`), and an escaped text stays in its literal (`readsLiteral`). So
the calls of a source are the images that its fragments use, one for one and with
the asset id as the argument (`draws_compiledFragments`). Raw source may well
call `image` itself, and is excluded.
-/

namespace TypstPress.Typst

open Node

/-! ## Reading calls -/

/-- How far a source has been read: the first arguments of the calls up to here,
as far as they are literals, and the place of the reading. -/
inductive CallScan where
  /-- Behind some code, which is listed from its end. -/
  | outside (calls : List (Option String)) (back : List Char)
  /-- Directly behind the bracket of a call. -/
  | called (calls : List (Option String))
  /-- In a literal, which may be the first argument of a call. -/
  | inside (calls : List (Option String)) (isArgument : Bool) (current : List Char)
  | escaped (calls : List (Option String)) (isArgument : Bool) (current : List Char)
deriving DecidableEq

/-- Whether code, listed from its end, ends in the beginning of a call. -/
def endsInCall (back : List Char) : Bool := "image(".toList.reverse.isPrefixOf back

namespace CallScan

/-- The scan behind one more character. -/
def step : CallScan → Char → CallScan
  | outside calls back, c =>
    if c = '"' then inside calls false []
    else if endsInCall (c :: back) then called calls
    else outside calls (c :: back)
  | called calls, c =>
    if c = '"' then inside calls true [] else outside (calls ++ [none]) [c]
  | inside calls isArgument current, c =>
    if c = '"' then
      outside (if isArgument then calls ++ [some (String.ofList current)] else calls) []
    else if c = '\\' then escaped calls isArgument current
    else inside calls isArgument (current ++ [c])
  | escaped calls isArgument current, c => inside calls isArgument (current ++ [unescapeChar c])

end CallScan

/-- The first arguments of the image calls of a source, in order, as far as they
are literals; nothing if a literal is not closed. -/
def imageCalls (source : String) : Option (List (Option String)) :=
  match advance CallScan.step (.outside [] []) source with
  | .outside calls _ => some calls
  | .called calls => some (calls ++ [none])
  | _ => none

example : imageCalls "#box(image(\"a\"))#\"image(\\\"b\\\")\"#image(x)" =
    some [some "a", none] := by decide

theorem CallScan.readsLiteral (calls : List (Option String)) (isArgument : Bool) :
    ReadsLiteral step (inside calls isArgument) (escaped calls isArgument) where
  text _ _ hquote hslash := by rw [step, if_neg hquote, if_neg hslash]
  backslash _ := rfl
  behind _ _ := rfl

/-! ## Pieces without calls -/

/-- Whether a piece outside of literals leads out of literals and adds no call,
whatever code it stands behind. -/
def Quiet (piece : String) : Prop :=
  ∀ calls back, ∃ back', advance CallScan.step (.outside calls back) piece = .outside calls back'

theorem quiet_append {s t : String} (hs : Quiet s) (ht : Quiet t) : Quiet (s ++ t) := by
  intro calls back
  obtain ⟨between, hbetween⟩ := hs calls back
  rw [advance_append, hbetween]
  exact ht calls between

/-- Without a bracket there is no call. -/
theorem quiet_of_bare {s : String} (h : Bare s) : Quiet s := by
  intro calls back
  unfold Bare at h
  rw [advance]
  generalize s.toList = cs at h
  induction cs generalizing back with
  | nil => exact ⟨back, rfl⟩
  | cons c cs ih =>
      rw [List.forall_mem_cons] at h
      have hstep : (CallScan.outside calls back).step c = .outside calls (c :: back) := by
        have hmarks := h.1
        simp only [marks, List.mem_cons, List.not_mem_nil, or_false, not_or] at hmarks
        have hcall : endsInCall (c :: back) = false := by
          show (('(' == c) && _) = false
          rw [beq_false_of_ne (Ne.symm hmarks.1), Bool.false_and]
        simp [CallScan.step, hmarks, hcall]
      rw [List.foldl_cons, hstep]
      exact ih (c :: back) h.2

theorem quiet_number {s t : String} (hs : Quiet s) (ht : Quiet t) (n : Nat) :
    Quiet (s ++ toString n ++ t) :=
  quiet_append (quiet_append hs (quiet_of_bare (bare_toString n))) ht

/-- Whether a piece leads into a literal that is not the argument of a call. -/
def OpensText (piece : String) : Prop :=
  ∀ calls back, advance CallScan.step (.outside calls back) piece = .inside calls false []

/-- Whether a piece ends a literal and adds no call. -/
def EndsText (piece : String) : Prop :=
  ∀ calls current, ∃ back,
    advance CallScan.step (.inside calls false current) piece = .outside calls back

/-! ## Fragments that draw images -/

/-- The calls for images. -/
def callsOf (urls : List String) : List (Option String) := urls.map fun url => some (assetId url)

theorem callsOf_append (urls urls' : List String) :
    callsOf (urls ++ urls') = callsOf urls ++ callsOf urls' :=
  List.map_append

/-- Whether the image calls in the source of fragments are those for the images,
whatever the fragments stand behind. -/
def Calls (fs : List Fragment) (urls : List String) : Prop :=
  ∀ calls back, ∃ back', advanceAll CallScan.step (.outside calls back) (sources fs) =
    .outside (calls ++ callsOf urls) back'

namespace Calls

variable {fs gs : List Fragment} {urls urls' : List String}

theorem append (h : Calls fs urls) (h' : Calls gs urls') : Calls (fs ++ gs) (urls ++ urls') := by
  intro calls back
  obtain ⟨between, hbetween⟩ := h calls back
  rw [sources_append, advanceAll_append, hbetween, callsOf_append, ← List.append_assoc]
  exact h' _ between

theorem of_quiet (h : ∀ calls back, ∃ back',
    advanceAll CallScan.step (.outside calls back) (sources fs) = .outside calls back') :
    Calls fs [] := by
  intro calls back
  rw [callsOf, List.map_nil, List.append_nil]
  exact h calls back

theorem nil : Calls [] [] := of_quiet fun _ back => ⟨back, rfl⟩

theorem piece {s : String} (h : Quiet s) : Calls [.source s] [] := of_quiet h

theorem bare {s : String} (h : Bare s) : Calls [.source s] [] := piece (quiet_of_bare h)

theorem record (r : Record) : Calls [.record r] [] := of_quiet fun _ back => ⟨back, rfl⟩

/-- A text in a literal of its own is no call. -/
theorem literal {s t : String} (hs : OpensText s) (ht : EndsText t) (content : String) :
    Calls [.source s, .source (escape content), .source t] [] := by
  refine of_quiet fun calls back => ?_
  obtain ⟨back', hback⟩ := ht calls _
  exact ⟨back', (CallScan.readsLiteral calls false).advanceAll_literal _ (hs calls back) hback⟩

end Calls

/-- Whether the image calls in the source of fragments are those for the images
that the fragments use. -/
def Draws (fs : List Fragment) : Prop := Calls fs (assetUrls fs)

theorem assetUrls_append (fs gs : List Fragment) :
    assetUrls (fs ++ gs) = assetUrls fs ++ assetUrls gs :=
  List.filterMap_append

namespace Draws

variable {fs gs hs : List Fragment}

theorem nil : Draws [] := Calls.nil

theorem append (h : Draws fs) (h' : Draws gs) : Draws (fs ++ gs) := by
  rw [Draws, assetUrls_append]
  exact Calls.append h h'

theorem all (h : ∀ f ∈ fs, Draws [f]) : Draws fs := by
  induction fs with
  | nil => exact nil
  | cons f fs ih =>
      rw [List.forall_mem_cons] at h
      exact append h.1 (ih h.2)

theorem frame (hopening : Draws fs) (h : Draws gs) (hclosing : Draws hs) :
    Draws (fs ++ gs ++ hs) :=
  (hopening.append h).append hclosing

end Draws

/-! ## Leaves -/

theorem draws_rawText (block : Bool) (language content : String) :
    Draws (rawText block language content) := by
  have hopening : OpensText
      ("#raw(block: " ++ (if block then "true" else "false") ++ ", lang: \"") := by
    cases block <;> exact fun _ _ => rfl
  have hclosing : EndsText (if block then "\")\n" else "\")") := by
    cases block <;> exact fun _ _ => ⟨_, rfl⟩
  refine Calls.literal (fun calls back => ?_) hclosing content
  have hbetween : ∀ current, advance CallScan.step (.inside calls false current) "\", \"" =
      .inside calls false [] := fun _ => rfl
  rw [advance_append, advance_append, hopening, (CallScan.readsLiteral calls false).advance_escape,
    hbetween]

theorem draws_formula (block : Bool) (content : String) : Draws (formula block content) := by
  cases block with
  | false => exact Calls.literal (fun _ _ => rfl) (fun _ _ => ⟨_, rfl⟩) content
  | true => exact Calls.literal (fun _ _ => rfl) (fun _ _ => ⟨_, rfl⟩) content

theorem assetUrls_imageArguments (url : String) (attributes : Attributes) (names : List String) :
    assetUrls (imageArguments url attributes names) = [] := by
  refine List.filterMap_eq_nil_iff.2 fun f hf => ?_
  rcases eq_of_mem_imageArguments hf with ⟨name, -, value, -, rfl⟩ | ⟨r, rfl⟩
  · rfl
  · rfl

/-- An image with an asset id uses one image. -/
theorem assetUrls_encodedImage (s : Setting) (url altText : String) (attributes : Attributes) :
    assetUrls (encodedImage s url altText attributes) = [url] := by
  rw [encodedImage, assetUrls_append, assetUrls_append, assetUrls_append,
    assetUrls_imageArguments]
  split
  · rfl
  · rfl

theorem calls_imageArguments (url : String) (attributes : Attributes) {names : List String}
    (hnames : ∀ name ∈ names, Bare name) : Calls (imageArguments url attributes names) [] := by
  rw [← assetUrls_imageArguments url attributes names]
  refine Draws.all fun f hf => ?_
  rcases eq_of_mem_imageArguments hf with ⟨name, hname, value, hvalue, rfl⟩ | ⟨r, rfl⟩
  · exact Calls.bare (bare_imageArgument (hnames name hname) hvalue)
  · exact Calls.record r

/-- An image is one call, with the asset id as its first argument. -/
theorem draws_encodedImage {s : Setting}
    (hnames : ∀ name ∈ s.options.imageAttributes, Bare name) (url altText : String)
    (attributes : Attributes) : Draws (encodedImage s url altText attributes) := by
  have harguments := calls_imageArguments url attributes hnames
  have hopening : Calls [.source "#box(image(\"", .source (assetId url), .source "\""] [url] := by
    intro calls back
    refine ⟨[], ?_⟩
    have hcall : advance CallScan.step (.outside calls back) "#box(image(\"" =
        .inside calls true [] := rfl
    have hquote : ∀ current, advance CallScan.step (.inside calls true current) "\"" =
        .outside (calls ++ [some (String.ofList current)]) [] := fun _ => rfl
    rw [← escape_assetId]
    refine (CallScan.readsLiteral calls true).advanceAll_literal _ hcall ?_
    rw [hquote, List.nil_append, String.ofList_toList]
    rfl
  have halt : Calls (if altText.isEmpty then []
      else [.source ", alt: \"", .source (escape altText), .source "\""]) [] := by
    split
    · exact .nil
    · exact .literal (fun _ _ => rfl) (fun _ _ => ⟨_, rfl⟩) altText
  have hclosing : ∀ r, Calls [.source "))", .asset url, .record r] [] := fun _ =>
    .of_quiet fun _ _ => ⟨_, rfl⟩
  rw [Draws, assetUrls_encodedImage]
  exact ((hopening.append harguments).append halt).append (hclosing _)

theorem draws_image {s : Setting} (hnames : ∀ name ∈ s.options.imageAttributes, Bare name)
    (url : Url) (altText : String) (attributes : Attributes) :
    Draws (image s url altText attributes) := by
  cases url with
  | text url => exact draws_encodedImage hnames url altText attributes
  | illFormed t => exact Calls.of_quiet fun _ back => ⟨back, rfl⟩

/-- The end of a reference without a definition is a literal behind a sign. -/
theorem draws_referenceEnd (form : ReferenceForm) (label : Option String) (identifier : String) :
    Draws [.source (referenceEnd form label identifier)] := by
  refine Calls.piece fun calls back => ?_
  cases form with
  | shortcut =>
      show ∃ back', advance CallScan.step _ ("#\"]" ++ "" ++ "\"") = _
      exact ⟨_, rfl⟩
  | collapsed =>
      show ∃ back', advance CallScan.step _ ("#\"]" ++ "[]" ++ "\"") = _
      exact ⟨_, rfl⟩
  | full =>
      have hopening : advance CallScan.step (.outside calls back) "#\"][" =
          .inside calls false [']', '['] := rfl
      have hclosing : EndsText "]\"" := fun _ _ => ⟨_, rfl⟩
      rw [referenceEnd_full, advance_append, advance_append, hopening,
        (CallScan.readsLiteral calls false).advance_escape]
      exact hclosing calls _

theorem draws_leafFragments {s : Setting} (hnames : ∀ name ∈ s.options.imageAttributes, Bare name)
    {l : Leaf} (h : (Kind.leaf l).isRawSource = false) : Draws (leafFragments s l) := by
  cases l with
  | codeBlock | htmlBlock | code | htmlInline => exact draws_rawText _ _ _
  | mathBlock | mathInline => exact draws_formula _ _
  | thematicBreak | lineBreak => exact Calls.piece fun _ _ => ⟨_, rfl⟩
  | definition => exact .nil
  | text content => exact Calls.literal (fun _ _ => rfl) (fun _ _ => ⟨_, rfl⟩) content
  | image url altText title attributes => exact draws_image hnames url altText attributes
  | imageReference identifier label form altText attributes =>
      rw [leafFragments]
      split
      · exact draws_image hnames _ altText attributes
      · have hmissing : Draws [missingDefinition "Image reference" identifier] := Calls.record _
        have hbang : Draws [.source "#\"![\"#\"", .source (escape altText), .source "\""] :=
          Calls.literal (fun _ _ => rfl) (fun _ _ => ⟨_, rfl⟩) altText
        exact (hmissing.append hbang).append (draws_referenceEnd form label identifier)
  | footnoteReference identifier =>
      rw [leafFragments]
      split
      · exact Calls.literal (fun _ _ => rfl) (fun _ _ => ⟨_, rfl⟩)
          (s.options.footnoteLabelPrefix ++ identifier)
      · have hmissing : Draws [missingDefinition "Footnote" identifier] := Calls.record _
        have htext : Draws [.source "#\"[^", .source (escape identifier), .source "]\""] := by
          refine Calls.of_quiet fun calls back => ?_
          have hopening : advance CallScan.step (.outside calls back) "#\"[^" =
              .inside calls false ['[', '^'] := rfl
          have hclosing : EndsText "]\"" := fun _ _ => ⟨_, rfl⟩
          obtain ⟨back', hback⟩ := hclosing calls _
          exact ⟨back', (CallScan.readsLiteral calls false).advanceAll_literal _ hopening hback⟩
        exact hmissing.append htext
  | typstContent content => cases h

/-! ## Branches -/

theorem draws_listOpening (ordered : Bool) (start : Option Int) :
    Draws (listOpening ordered start) := by
  have hend : Draws [.source "\n"] := Calls.bare (by decide)
  cases ordered with
  | false => exact Draws.append (Calls.piece fun _ _ => ⟨_, rfl⟩) hend
  | true =>
      have henum : Draws [.source "#enum("] := Calls.piece fun _ _ => ⟨_, rfl⟩
      refine (henum.append ?_).append hend
      cases start with
      | none => exact .nil
      | some n =>
          have hstart : Bare ("start: " ++ toString n ++ ",") :=
            bare_append (bare_append (by decide) (bare_toString_int n)) (by decide)
          exact Calls.bare hstart

theorem draws_figureOpening (attributes : Attributes) : Draws (figureOpening attributes) := by
  refine Draws.frame (Calls.piece fun _ _ => ⟨_, rfl⟩) ?_ (Calls.piece fun _ _ => ⟨_, rfl⟩)
  split
  · exact .nil
  · exact .nil
  · exact Calls.literal (fun _ _ => rfl) (fun _ _ => ⟨_, rfl⟩) _

theorem draws_linkOpening (url : Url) : Draws (linkOpening url) :=
  Calls.literal (fun _ _ => rfl) (fun _ _ => ⟨_, rfl⟩) url.shown

theorem draws_opening (s : Setting) (k : Branch) : Draws (opening s k) := by
  cases k with
  | heading level =>
      have hopening : Quiet ("#heading(level: " ++ toString level ++ ", [") :=
        quiet_number (fun _ _ => ⟨_, rfl⟩) (fun _ _ => ⟨_, rfl⟩) level
      exact Calls.piece hopening
  | paragraph | blockQuote | emphasis | strong | strikethrough =>
      exact Calls.piece fun _ _ => ⟨_, rfl⟩
  | list ordered start tight => exact draws_listOpening ordered start
  | containerDirective name attributes =>
      rw [opening]
      split
      · exact draws_figureOpening attributes
      · exact .nil
  | link url title => exact draws_linkOpening url
  | linkReference identifier label form =>
      rw [opening]
      split
      · exact draws_linkOpening _
      · exact Draws.append (Calls.record _) (Calls.piece fun _ _ => ⟨_, rfl⟩)
  | document | listItem | table | tableRow | tableCell | footnoteDefinition | leafDirective
  | textDirective | typstMarkup => exact .nil

theorem draws_closing (s : Setting) (k : Branch) : Draws (closing s k) := by
  cases k with
  | containerDirective name attributes =>
      rw [closing]
      split
      · exact Calls.piece fun _ _ => ⟨_, rfl⟩
      · exact .nil
  | linkReference identifier label form =>
      rw [closing]
      split
      · exact Calls.piece fun _ _ => ⟨_, rfl⟩
      · exact draws_referenceEnd form label identifier
  | heading | paragraph | blockQuote | list | emphasis | strong | strikethrough | link =>
      exact Calls.piece fun _ _ => ⟨_, rfl⟩
  | document | listItem | table | tableRow | tableCell | footnoteDefinition | leafDirective
  | textDirective | typstMarkup => exact .nil

theorem draws_tableOpening {columns : List (Option String)} {words : List String}
    (h : columnAlignments columns = .ok words) : Draws (tableOpening words) := by
  have hopening : Quiet ("#figure(table(columns: " ++ toString words.length ++ ", align: (") :=
    quiet_number (fun _ _ => ⟨_, rfl⟩) (fun _ _ => ⟨_, rfl⟩) words.length
  have hcolumns : Draws (words.flatMap fun alignment => [.source alignment, .source ", "]) := by
    refine .all fun f hf => ?_
    obtain ⟨piece, hpiece, rfl⟩ := eq_of_mem_alignments hf
    exact Calls.bare (bare_of_mem_alignments h piece hpiece)
  exact Draws.frame (Calls.piece hopening) hcolumns (Calls.piece fun _ _ => ⟨_, rfl⟩)

theorem draws_cellOpening (colspan rowspan : Nat) : Draws (cellOpening colspan rowspan) := by
  have hspan : ∀ (condition : Prop) [Decidable condition] (s : String), Bare s →
      Draws (if condition then [.source s] else []) := by
    intro condition _ s hs
    split
    · exact Calls.bare hs
    · exact .nil
  have hopening : Draws [.source "table.cell("] := Calls.piece fun _ _ => ⟨_, rfl⟩
  have hclosing : Draws [.source ")["] := Calls.piece fun _ _ => ⟨_, rfl⟩
  refine ((hopening.append (hspan _ _ ?_)).append (hspan _ _ ?_)).append hclosing
  · exact bare_number (s := "colspan: ") (t := ", ") (by decide) (by decide) colspan
  · exact bare_number (s := "rowspan: ") (t := ", ") (by decide) (by decide) rowspan

/-! ## Trees and documents -/

theorem draws_correspondence {s : Setting}
    (hnames : ∀ name ∈ s.options.imageAttributes, Bare name) :
    Correspondence s s (Alone Kind.isLabelSafe) fun fs _ => Draws fs where
  layout h := by
    cases h.1
    rfl
  noDocument h hk := by
    obtain rfl := layout_eq_document hk
    cases h.2
  nil := .nil
  append := .append
  leaf h := draws_leafFragments hnames (by simpa [Kind.isLabelSafe, Kind.isDocument] using h.2)
  frame _ _ h := (draws_opening s _).frame h (draws_closing s _)
  item h := Draws.frame (Calls.piece fun _ _ => ⟨_, rfl⟩) h (Calls.piece fun _ _ => ⟨_, rfl⟩)
  table hwords h := (draws_tableOpening hwords).frame h (Calls.piece fun _ _ => ⟨_, rfl⟩)
  rowEnd := Calls.bare (by decide)
  cell h := (draws_cellOpening _ _).frame h (Calls.piece fun _ _ => ⟨_, rfl⟩)
  padding := Calls.piece fun _ _ => ⟨_, rfl⟩
  strayRow := Calls.nil
  unknownAlignment _ := Calls.nil
  notTabular _ _ := Calls.nil

theorem draws_fragmentsAll {s : Setting} (hnames : ∀ name ∈ s.options.imageAttributes, Bare name)
    {ns : List Node} (h : allOf Kind.isLabelSafe ns = true) : Draws (fragmentsAll s ns) :=
  allCorrespond (draws_correspondence hnames) (matchesAll_self alone_self h)

theorem draws_bodyFragments {s : Setting} (hnames : ∀ name ∈ s.options.imageAttributes, Bare name)
    (identifier : String) {content : List Node} (h : allOf Kind.isLabelSafe content = true) :
    Draws (bodyFragments s identifier content) := by
  have hopening : Draws [.source "#footnote[\n"] := Calls.piece fun _ _ => ⟨_, rfl⟩
  have hlabel : Draws [.source "]#label(\"", .source (noteLabel s identifier), .source "\")\n"] :=
    Calls.literal (fun _ _ => rfl) (fun _ _ => ⟨_, rfl⟩) _
  exact hopening.frame (draws_fragmentsAll hnames h) hlabel

theorem draws_bodies {s : Setting} (hnames : ∀ name ∈ s.options.imageAttributes, Bare name)
    {notes : List (String × List Node)}
    (h : ∀ note ∈ notes, allOf Kind.isLabelSafe note.2 = true) :
    Draws (notes.flatMap fun note => bodyFragments s note.1 note.2) := by
  induction notes with
  | nil => exact .nil
  | cons note notes ih =>
      rw [List.forall_mem_cons] at h
      rw [List.flatMap_cons]
      exact (draws_bodyFragments hnames note.1 h.1).append (ih h.2)

theorem draws_compiledFragments {options : TypstOptions}
    (hnames : ∀ name ∈ options.imageAttributes, Bare name) {document : Node}
    (hroot : document.isDocument = true)
    (hsafe : allOf Kind.isLabelSafe document.children = true) :
    Draws (compiledFragments options document) := by
  have hbody : Draws (fragmentsAll (settingOf options document) document.children) :=
    draws_fragmentsAll hnames hsafe
  have hend : Draws [.source "\n"] := Calls.bare (by decide)
  have hhidden : Draws [.source "#hide(place(top+left, [\n"] := Calls.piece fun _ _ => ⟨_, rfl⟩
  have hnotes : Draws ((setNotes options document).flatMap fun note =>
      bodyFragments (settingOf options document) note.1 note.2) := by
    refine draws_bodies hnames fun note hnote => ?_
    exact Definitions.allOf_notes_collect hroot hsafe ((settledNotes_sublist _ _ _).subset hnote)
  exact (hbody.append (hend.append hhidden)).frame hnotes (Calls.piece fun _ _ => ⟨_, rfl⟩)

/-- The image calls in the source of fragments, read from the start, are those
for the images that the fragments use. -/
theorem imageCalls_join {fs : List Fragment} (h : Draws fs) :
    imageCalls (String.join (sources fs)) = some (callsOf (assetUrls fs)) := by
  obtain ⟨back, hback⟩ := h [] []
  rw [imageCalls, advance_join, hback]
  rfl

end TypstPress.Typst
