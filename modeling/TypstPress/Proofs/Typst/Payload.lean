import TypstPress.Proofs.Typst.Correspondence
import TypstPress.Proofs.Typst.Scan
import TypstPress.Proofs.Typst.WholeDocument

/-!
# What a document says

A document says its texts, but also urls, languages, captions and labels, and
what stands for a reference without a definition. `documentPayload` lists all of
this by recursion on the tree, without a word about markup: what a node says
before its children, what they say, what it says after them. Tables say what is
in their columns and not suppressed. The footnotes follow, as far as they are
referred to when their turn comes, so the payloads tell which of them are labels
of a footnote referred to.

The second half of the file is about the pieces that a source is made of.
`Says` relates fragments to what they say, and joins along concatenation; leaves
and the frames of branches are gone through one by one. What is not a literal is
plain, and `Scan.readsLiteral` accounts for what is.
-/

namespace TypstPress.Typst

open Node

/-! ## What a document says -/

/-- What one literal of a source says. -/
inductive Payload where
  | text (content : String)
  /-- The label of a footnote that is referred to. -/
  | note (identifier : String)
deriving DecidableEq

/-- The text of the literal. -/
def Payload.literal (s : Setting) : Payload → String
  | text content => content
  | note identifier => s.options.footnoteLabelPrefix ++ identifier

/-- The footnote that is referred to. -/
def Payload.note? : Payload → Option String
  | text _ => none
  | note identifier => some identifier

/-- The footnotes that are referred to, in order and with repetition. -/
def mentioned (ps : List Payload) : List String := ps.filterMap Payload.note?

/-- What an image says, unless it has no asset id and is not set. -/
def imagePayload (url : Url) (altText : String) : List Payload :=
  match assetIdFor url with
  | .ok id => .text id :: if altText.isEmpty then [] else [.text altText]
  | .error _ => []

/-- The label that a reference shows. -/
def shownLabel (label : Option String) (identifier : String) : String :=
  match label with
  | none | some "" => identifier
  | some label => label

/-- The end of a reference without a definition, as it is read. -/
def referenceSuffix (form : ReferenceForm) (label : Option String) (identifier : String) : String :=
  match form with
  | .shortcut => "]"
  | .collapsed => "][]"
  | .full => "][" ++ shownLabel label identifier ++ "]"

def leafPayload (s : Setting) : Leaf → List Payload
  | .codeBlock content language => [.text (codeLanguage language), .text content]
  | .code content => [.text "txt", .text content]
  | .htmlBlock content | .htmlInline content => [.text "html", .text content]
  | .mathBlock content | .mathInline content => [.text content]
  | .text content => [.text content]
  | .lineBreak _ => [.text "\n"]
  | .image url altText _ _ => imagePayload url altText
  | .imageReference identifier label form altText _ =>
    match s.definitions.url? identifier with
    | some url => imagePayload url altText
    | none => [.text "![", .text altText, .text (referenceSuffix form label identifier)]
  | .footnoteReference identifier =>
    if s.definitions.hasNote identifier then [.note identifier]
    else [.text ("[^" ++ identifier ++ "]")]
  | .thematicBreak | .definition .. | .typstContent _ => []

/-- What the caption of a figure says. -/
def captionPayload (attributes : Attributes) : List Payload :=
  match attributes.value? "caption" with
  | none | some "" => []
  | some caption => [.text caption]

/-- What a branch says before its children. -/
def openingPayload (s : Setting) : Branch → List Payload
  | .link url _ => [.text url.shown]
  | .linkReference identifier _ _ =>
    match s.definitions.url? identifier with
    | some url => [.text url.shown]
    | none => [.text "["]
  | .containerDirective name attributes =>
    if name == "figure" then captionPayload attributes else []
  | _ => []

/-- What a branch says after its children. -/
def closingPayload (s : Setting) : Branch → List Payload
  | .linkReference identifier label form =>
    match s.definitions.url? identifier with
    | some _ => []
    | none => [.text (referenceSuffix form label identifier)]
  | _ => []

/-- The number of columns of a table: that of its alignments, and that of the
cells of its first row if there are none. -/
def columnCount (alignments : List (Option String)) (rows : List Node) : Nat :=
  if alignments.isEmpty then (rows.head?.map fun row => row.children.length).getD 0
  else alignments.length

mutual

/-- What a tree says where it stands. -/
def payload (s : Setting) : Node → List Payload
  | .leaf l _ => leafPayload s l
  | .branch k cs _ =>
    match k with
    | .table _ alignments => rowPayload s (columnCount alignments cs) cs
    | .tableRow _ | .footnoteDefinition _ => []
    | k => openingPayload s k ++ payloadAll s cs ++ closingPayload s k

def payloadAll (s : Setting) : List Node → List Payload
  | [] => []
  | n :: ns => payload s n ++ payloadAll s ns

/-- What the rows of a table say in a number of columns. -/
def rowPayload (s : Setting) (columns : Nat) : List Node → List Payload
  | [] => []
  | .branch (.tableRow _) cells _ :: rows =>
    cellPayload s columns cells ++ rowPayload s columns rows
  | _ :: rows => rowPayload s columns rows

/-- What the cells of a row say in a number of columns: nothing beyond them, and
nothing where a cell is suppressed. -/
def cellPayload (s : Setting) : Nat → List Node → List Payload
  | 0, _ | _, [] => []
  | columns + 1, .branch (.tableCell _ _ suppressed _) cs _ :: cells =>
    (if suppressed then [] else payloadAll s cs) ++ cellPayload s columns cells
  | columns + 1, _ :: cells => cellPayload s columns cells

end

/-- What the footnote bodies say, each with its label behind it, as far as they
are referred to when their turn comes. -/
def notesPayload (s : Setting) : List String → List (String × List Node) → List Payload
  | _, [] => []
  | cited, note :: notes =>
    if cited.contains note.1 then
      payloadAll s note.2 ++ .text (s.options.footnoteLabelPrefix ++ note.1) ::
        notesPayload s (cited ++ mentioned (payloadAll s note.2)) notes
    else notesPayload s cited notes

/-- What a document says: its text, then the footnotes it brings in. -/
def documentPayload (options : TypstOptions) (document : Node) : List String :=
  let s := settingOf options document
  let body := payloadAll s document.children
  (body ++ notesPayload s (mentioned body) s.definitions.notes).map (Payload.literal s)

/-! ## Fragments that say something -/

/-- Whether the literals of fragments say the payloads, and the fragments refer
to the footnotes that these mention. -/
structure Says (s : Setting) (fs : List Fragment) (ps : List Payload) : Prop where
  scan : ∀ said, advanceAll Scan.step (.outside said) (sources fs) =
    .outside (said ++ ps.map (Payload.literal s))
  cites : citations fs = mentioned ps

variable {s : Setting}

namespace Says

theorem nil : Says s [] [] :=
  ⟨fun said => by rw [List.map_nil, List.append_nil]; rfl, rfl⟩

theorem append {fs gs : List Fragment} {ps qs : List Payload} (h : Says s fs ps)
    (h' : Says s gs qs) : Says s (fs ++ gs) (ps ++ qs) where
  scan said := by
    rw [sources_append, advanceAll_append, h.scan, h'.scan, List.map_append, List.append_assoc]
  cites := by
    rw [citations_append, h.cites, h'.cites, mentioned, mentioned, mentioned,
      List.filterMap_append]

theorem followedBy {fs after : List Fragment} {ps : List Payload} (h : Says s fs ps)
    (hafter : Says s after []) : Says s (fs ++ after) ps := by
  simpa only [List.append_nil] using h.append hafter

theorem frame {before fs after : List Fragment} {ps : List Payload} (hbefore : Says s before [])
    (h : Says s fs ps) (hafter : Says s after []) : Says s (before ++ fs ++ after) ps :=
  (hbefore.append h).followedBy hafter

end Says

/-- Whether a piece leads from outside into a literal. -/
def Opens (piece : String) : Prop :=
  ∀ said, advance Scan.step (.outside said) piece = .inside said []

/-- Whether a piece ends a literal. -/
def Closes (piece : String) : Prop :=
  ∀ said current,
    advance Scan.step (.inside said current) piece = .outside (said ++ [String.ofList current])

theorem says_literal {before after : String} (hbefore : Opens before) (hafter : Closes after)
    (content : String) :
    Says s [.source before, .source (escape content), .source after] [.text content] where
  scan said := by
    refine (Scan.readsLiteral said).advanceAll_literal _ (hbefore said) ?_
    rw [hafter, List.nil_append, String.ofList_toList]
    rfl
  cites := rfl

/-- Whether a fragment stands outside of literals or is no source. -/
def Fragment.IsSilent : Fragment → Prop
  | .source piece => Plain piece
  | .asset _ | .record _ | .defect _ => True
  | .cite _ | .noteBodies => False

instance : (f : Fragment) → Decidable f.IsSilent
  | .source piece => inferInstanceAs (Decidable (Plain piece))
  | .asset _ | .record _ | .defect _ => isTrue trivial
  | .cite _ | .noteBodies => isFalse id

theorem says_silent {fs : List Fragment} (h : ∀ f ∈ fs, f.IsSilent) : Says s fs [] := by
  induction fs with
  | nil => exact .nil
  | cons f fs ih =>
      rw [List.forall_mem_cons] at h
      have hrest := ih h.2
      cases f with
      | source piece =>
          refine ⟨fun said => ?_, hrest.cites⟩
          rw [← hrest.scan, sources, List.filterMap_cons]
          exact congrArg (advanceAll Scan.step · _) (Scan.advance_plain h.1 said)
      | asset url => exact ⟨hrest.scan, hrest.cites⟩
      | record r => exact ⟨hrest.scan, hrest.cites⟩
      | defect d => exact ⟨hrest.scan, hrest.cites⟩
      | cite | noteBodies => exact h.1.elim

theorem silent_piece {piece : String} (h : Plain piece) : Says s [.source piece] [] :=
  says_silent (List.forall_mem_singleton.2 h)

/-! ## Leaves -/

theorem says_rawText (block : Bool) (language content : String) :
    Says s (rawText block language content) [.text language, .text content] where
  scan said := by
    have hopening : advance Scan.step (.outside said)
        ("#raw(block: " ++ (if block then "true" else "false") ++ ", lang: \"") =
          .inside said [] := by
      cases block <;> rfl
    have hbetween : advance Scan.step (.inside said language.toList) "\", \"" =
        .inside (said ++ [String.ofList language.toList]) [] := rfl
    have hlanguage : advance Scan.step (.outside said)
        ("#raw(block: " ++ (if block then "true" else "false") ++ ", lang: \"" ++
          escape language ++ "\", \"") = .inside (said ++ [String.ofList language.toList]) [] := by
      rw [advance_append, advance_append, hopening, (Scan.readsLiteral said).advance_escape,
        List.nil_append, hbetween]
    have hclosing : Closes (if block then "\")\n" else "\")") := by
      cases block <;> exact fun _ _ => rfl
    refine ((Scan.readsLiteral _).advanceAll_literal _ hlanguage (hclosing _ _)).trans ?_
    simp [Payload.literal]
  cites := rfl

theorem says_formula (block : Bool) (content : String) :
    Says s (formula block content) [.text content] := by
  cases block with
  | false => exact says_literal (fun _ => rfl) (fun _ _ => rfl) content
  | true => exact says_literal (fun _ => rfl) (fun _ _ => rfl) content

theorem silent_imageArguments {names : List String} (h : ∀ name ∈ names, Plain name)
    (url : String) (attributes : Attributes) :
    ∀ f ∈ imageArguments url attributes names, f.IsSilent := by
  intro f hf
  rcases eq_of_mem_imageArguments hf with ⟨name, hname, value, hvalue, rfl⟩ | ⟨r, rfl⟩
  · exact plain_imageArgument (h name hname) hvalue
  · trivial

theorem says_encodedImage (hnames : ∀ name ∈ s.options.imageAttributes, Plain name)
    (url altText : String) (attributes : Attributes) :
    Says s (encodedImage s url altText attributes)
      (.text (assetId url) :: if altText.isEmpty then [] else [.text altText]) := by
  have hid : Says s [.source "#box(image(\"", .source (escape (assetId url)), .source "\""]
      [.text (assetId url)] := says_literal (fun _ => rfl) (fun _ _ => rfl) _
  rw [escape_assetId] at hid
  have halt : Says s
      (if altText.isEmpty then []
        else [.source ", alt: \"", .source (escape altText), .source "\""])
      (if altText.isEmpty then [] else [.text altText]) := by
    split
    · exact .nil
    · exact says_literal (fun _ => rfl) (fun _ _ => rfl) altText
  have hend : ∀ r, Says s [.source "))", .asset url, .record r] [] := fun r =>
    says_silent (List.forall_mem_cons.2 ⟨by decide,
      List.forall_mem_cons.2 ⟨trivial, List.forall_mem_singleton.2 trivial⟩⟩)
  have harguments := says_silent (s := s) (silent_imageArguments hnames url attributes)
  exact ((hid.followedBy harguments).append halt).followedBy (hend _)

theorem says_image (hnames : ∀ name ∈ s.options.imageAttributes, Plain name) (url : Url)
    (altText : String) (attributes : Attributes) :
    Says s (image s url altText attributes) (imagePayload url altText) := by
  cases url with
  | text url => exact says_encodedImage hnames url altText attributes
  | illFormed t => exact says_silent (List.forall_mem_singleton.2 trivial)

theorem referenceEnd_full (label : Option String) (identifier : String) :
    referenceEnd .full label identifier =
      "#\"][" ++ escape (shownLabel label identifier) ++ "]\"" := by
  have hsplit : ∀ shown : String,
      "#\"]" ++ ("[" ++ shown ++ "]") ++ "\"" = "#\"][" ++ shown ++ "]\"" := by
    intro shown
    rw [← String.append_assoc, ← String.append_assoc, String.append_assoc]
    rfl
  exact hsplit (escape (shownLabel label identifier))

/-- The end of a reference without a definition is a literal behind a sign. -/
theorem read_referenceEnd (form : ReferenceForm) (label : Option String) (identifier : String)
    (said : List String) :
    advance Scan.step (.outside said) (referenceEnd form label identifier) =
      .outside (said ++ [referenceSuffix form label identifier]) := by
  cases form with
  | shortcut =>
      show advance Scan.step (.outside said) ("#\"]" ++ "" ++ "\"") = _
      rfl
  | collapsed =>
      show advance Scan.step (.outside said) ("#\"]" ++ "[]" ++ "\"") = _
      rfl
  | full =>
      rw [referenceEnd_full, advance_append, advance_append]
      exact Scan.advance_escape_between (fun _ => rfl) "][" _

theorem says_referenceEnd (form : ReferenceForm) (label : Option String) (identifier : String) :
    Says s [.source (referenceEnd form label identifier)]
      [.text (referenceSuffix form label identifier)] :=
  ⟨read_referenceEnd form label identifier, rfl⟩

theorem says_leaf (hnames : ∀ name ∈ s.options.imageAttributes, Plain name) {l : Leaf}
    (hl : (Kind.leaf l).isRawSource = false) : Says s (leafFragments s l) (leafPayload s l) := by
  cases l with
  | codeBlock content language => exact says_rawText true _ content
  | code content => exact says_rawText false _ content
  | htmlBlock content | htmlInline content => exact says_rawText false _ content
  | mathBlock content | mathInline content => exact says_formula _ content
  | text content => exact says_literal (fun _ => rfl) (fun _ _ => rfl) content
  | lineBreak soft => exact ⟨fun _ => rfl, rfl⟩
  | image url altText title attributes => exact says_image hnames url altText attributes
  | imageReference identifier label form altText attributes =>
      rw [leafFragments, leafPayload]
      cases s.definitions.url? identifier with
      | some url => exact says_image hnames url altText attributes
      | none =>
          have hmissing : Says s [missingDefinition "Image reference" identifier] [] :=
            says_silent (List.forall_mem_singleton.2 trivial)
          have hbang : Says s [.source "#\"![\"#\"", .source (escape altText), .source "\""]
              [.text "![", .text altText] := by
            refine ⟨fun said => ?_, rfl⟩
            have hopening : advance Scan.step (.outside said) "#\"![\"#\"" =
                .inside (said ++ ["!["]) [] := rfl
            have hclosing : Closes "\"" := fun _ _ => rfl
            refine ((Scan.readsLiteral _).advanceAll_literal _ hopening (hclosing _ _)).trans ?_
            simp [Payload.literal]
          exact (hmissing.append hbang).append (says_referenceEnd form label identifier)
  | footnoteReference identifier =>
      rw [leafFragments, leafPayload]
      split
      · have hlabel : Says s [.source "#footnote(label(\"", .source (noteLabel s identifier),
            .source "\"))"] [.text (s.options.footnoteLabelPrefix ++ identifier)] :=
          says_literal (fun _ => rfl) (fun _ _ => rfl) _
        exact ⟨hlabel.scan, rfl⟩
      · have hmissing : Says s [missingDefinition "Footnote" identifier] [] :=
          says_silent (List.forall_mem_singleton.2 trivial)
        refine hmissing.append ⟨fun said => ?_, rfl⟩
        have hopening : advance Scan.step (.outside said) "#\"[^" = .inside said "[^".toList := rfl
        refine (Scan.readsLiteral _).advanceAll_literal _ hopening ?_
        rw [← (Scan.readsLiteral said).advance_escape]
        exact Scan.advance_escape_between (fun _ => rfl) "[^" identifier
  | thematicBreak => exact says_silent (List.forall_mem_singleton.2 (by decide))
  | definition => exact .nil
  | typstContent => cases hl

/-! ## Branches -/

theorem says_figureOpening (attributes : Attributes) :
    Says s (figureOpening attributes) (captionPayload attributes) := by
  have hopening : Says s [.source "#figure("] [] := silent_piece (by decide)
  have hend : Says s [.source ")[\n"] [] := silent_piece (by decide)
  unfold figureOpening captionPayload
  cases attributes.value? "caption" with
  | none => exact hopening.frame .nil hend
  | some caption =>
      by_cases hblank : caption = ""
      · rw [hblank]
        exact hopening.frame .nil hend
      · have hcaption : Says s
            [.source "caption: \"", .source (escape caption), .source "\", "]
            [.text caption] := says_literal (fun _ => rfl) (fun _ _ => rfl) caption
        simpa [hblank] using hopening.frame hcaption hend

theorem says_linkOpening (url : Url) : Says s (linkOpening url) [.text url.shown] :=
  says_literal (fun _ => rfl) (fun _ _ => rfl) url.shown

theorem says_listOpening (ordered : Bool) (start : Option Int) :
    Says s (listOpening ordered start) [] := by
  have hend : Says s [.source "\n"] [] := silent_piece (by decide)
  cases ordered with
  | false => exact (silent_piece (by decide) : Says s [.source "#list("] []).append hend
  | true =>
      have hopening : Says s [.source "#enum("] [] := silent_piece (by decide)
      refine hopening.frame ?_ hend
      cases start with
      | none => exact .nil
      | some n => exact silent_piece (plain_integer (by decide) (by decide) n)

theorem says_opening (k : Branch) : Says s (opening s k) (openingPayload s k) := by
  cases k with
  | heading level => exact silent_piece (plain_number (by decide) (by decide) level)
  | list ordered start tight => exact says_listOpening ordered start
  | containerDirective name attributes =>
      rw [opening, openingPayload]
      split
      · exact says_figureOpening attributes
      · exact .nil
  | link url title => exact says_linkOpening url
  | linkReference identifier label form =>
      rw [opening, openingPayload]
      cases s.definitions.url? identifier with
      | some url => exact says_linkOpening url
      | none => exact ⟨fun _ => rfl, rfl⟩
  | paragraph | blockQuote | emphasis | strong | strikethrough => exact silent_piece (by decide)
  | _ => exact .nil

theorem says_closing (k : Branch) : Says s (closing s k) (closingPayload s k) := by
  cases k with
  | containerDirective name attributes =>
      show Says s (if name == "figure" then [.source "]\n"] else []) []
      split
      · exact silent_piece (by decide)
      · exact .nil
  | linkReference identifier label form =>
      rw [closing, closingPayload]
      cases s.definitions.url? identifier with
      | some url => exact silent_piece (by decide)
      | none => exact says_referenceEnd form label identifier
  | heading | paragraph | blockQuote | list | emphasis | strong | strikethrough | link =>
      exact silent_piece (by decide)
  | _ => exact .nil

theorem payload_framed {k : Branch} (h : k.layout.isFramed = true) (cs : List Node)
    (m : Metadata) : payload s (.branch k cs m) =
      openingPayload s k ++ payloadAll s cs ++ closingPayload s k := by
  cases k with
  | document | table | tableRow | footnoteDefinition => cases h
  | _ => rw [payload] <;> nofun

theorem says_tableOpening {columns : List (Option String)} {words : List String}
    (h : columnAlignments columns = .ok words) : Says s (tableOpening words) [] := by
  have hwords : ∀ f ∈ words.flatMap fun word => [Fragment.source word, .source ", "],
      f.IsSilent := by
    intro f hf
    obtain ⟨piece, hpiece, rfl⟩ := eq_of_mem_alignments hf
    exact plain_of_mem_alignments h piece hpiece
  have hcolumns : Says s
      [.source ("#figure(table(columns: " ++ toString words.length ++ ", align: (")] [] :=
    silent_piece (plain_number (by decide) (by decide) _)
  exact hcolumns.frame (says_silent hwords) (silent_piece (by decide))

theorem says_cellOpening (colspan rowspan : Nat) : Says s (cellOpening colspan rowspan) [] := by
  have hspan : ∀ (condition : Prop) [Decidable condition] (piece : String), Plain piece →
      Says s (if condition then [.source piece] else []) [] := by
    intro condition _ piece hpiece
    split
    · exact silent_piece hpiece
    · exact .nil
  exact (((silent_piece (by decide) : Says s [.source "table.cell("] []).followedBy
    (hspan _ _ (plain_number (by decide) (by decide) colspan))).followedBy
    (hspan _ _ (plain_number (by decide) (by decide) rowspan))).followedBy
    (silent_piece (by decide))

end TypstPress.Typst
