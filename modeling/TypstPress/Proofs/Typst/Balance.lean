import TypstPress.Proofs.Typst.Length
import TypstPress.Proofs.Typst.WholeDocument

/-!
# The brackets of a source match

What a node opens it also closes, although the two ends are set by different
pieces with whole trees in between. A reading of brackets (`Nesting`) remembers
which closing brackets are awaited and where it stands in a literal, since a
bracket in a literal is text. It stops at a bracket that closes another one
than was opened last.

Two facts make it work piece by piece. Reading does not look below the brackets
it has opened itself, so what can be read can be read inside further brackets
(`advance_above`); and an escaped text is read inside its literal, whatever
brackets it holds (`advance_escape`). `Turns` says of fragments that they lead
from one row of awaited brackets to another, and a tree turns every such row
into itself.

What is set outside of literals has to be without brackets: numbers, words for
alignments, and the values of image attributes because they are lengths. The
names of these attributes are the caller's, and raw source is the author's;
`source_isBalanced` asks both to do their part.
-/

namespace TypstPress.Typst

open Node

/-! ## Reading brackets -/

/-- How far the brackets of a source have been read: the closing brackets that
are awaited, the next one first, and the place of the reading. -/
structure Nesting where
  awaited : List Char
  place : Place
deriving DecidableEq

namespace Nesting

/-- The nesting outside of literals. -/
def outside (awaited : List Char) : Nesting := ⟨awaited, .outside⟩

/-- The nesting inside a literal. -/
def inside (awaited : List Char) : Nesting := ⟨awaited, .inside⟩

/-- The nesting behind one more character outside of literals; nothing if it
closes a bracket that is not the last one opened. -/
def stepOutside (awaited : List Char) (c : Char) : Option Nesting :=
  if c = '(' then some (outside (')' :: awaited))
  else if c = '[' then some (outside (']' :: awaited))
  else if c = ')' ∨ c = ']' then
    match awaited with
    | [] => none
    | next :: rest => if c = next then some (outside rest) else none
  else some ⟨awaited, Place.outside.step c⟩

/-- The nesting behind one more character, if the brackets match. -/
def step (x : Nesting) (c : Char) : Option Nesting :=
  match x.place with
  | .outside => stepOutside x.awaited c
  | place => some ⟨x.awaited, place.step c⟩

/-- The nesting behind one more character, if the brackets match up to there. -/
def next (x : Option Nesting) (c : Char) : Option Nesting := x.bind (·.step c)

end Nesting

/-- Whether the brackets of a source match, none is left open, and no literal
is. -/
def IsBalanced (source : String) : Prop :=
  advance Nesting.next (some (.outside [])) source = some (.outside [])

instance (source : String) : Decidable (IsBalanced source) :=
  inferInstanceAs (Decidable (_ = _))

example : IsBalanced "#emph[(#\"a\\\"] )\")]" ∧ ¬ IsBalanced "([)]" := by decide

namespace Nesting

/-! ### Inside further brackets -/

/-- The nesting inside further brackets. -/
def above (x : Nesting) (base : List Char) : Nesting := { x with awaited := x.awaited ++ base }

theorem stepOutside_above {awaited : List Char} {c : Char} {y : Nesting}
    (h : stepOutside awaited c = some y) (base : List Char) :
    stepOutside (awaited ++ base) c = some (y.above base) := by
  unfold stepOutside at h ⊢
  split at h
  · next hround =>
      cases h
      rw [if_pos hround]
      rfl
  · next hround =>
      rw [if_neg hround]
      split at h
      · next hsquare =>
          cases h
          rw [if_pos hsquare]
          rfl
      · next hsquare =>
          rw [if_neg hsquare]
          split at h
          · next hclosing =>
              rw [if_pos hclosing]
              cases awaited with
              | nil => cases h
              | cons next rest =>
                  simp only [] at h
                  split at h
                  · next hnext =>
                      cases h
                      exact if_pos hnext
                  · cases h
          · next hclosing =>
              cases h
              rw [if_neg hclosing]
              rfl

theorem step_above {x y : Nesting} {c : Char} (h : x.step c = some y) (base : List Char) :
    (x.above base).step c = some (y.above base) := by
  obtain ⟨awaited, place⟩ := x
  cases place with
  | outside => exact stepOutside_above h base
  | inside | escaped =>
      cases h
      rfl

/-- A reading that has stopped does not go on. -/
theorem foldl_next_none (cs : List Char) : cs.foldl next none = none :=
  foldl_of_forall_eq fun _ _ => rfl

/-- What can be read can be read inside further brackets, which stay as they
are. -/
theorem advance_above {x y : Nesting} {s : String} (h : advance next (some x) s = some y)
    (base : List Char) : advance next (some (x.above base)) s = some (y.above base) := by
  unfold advance at h ⊢
  generalize s.toList = cs at h ⊢
  induction cs generalizing x with
  | nil =>
      cases h
      rfl
  | cons c cs ih =>
      rw [List.foldl_cons, next, Option.bind_some] at h ⊢
      cases hstep : x.step c with
      | none =>
          rw [hstep, foldl_next_none] at h
          cases h
      | some z =>
          rw [hstep] at h
          rw [step_above hstep base]
          exact ih h

theorem advanceAll_above {x y : Nesting} {pieces : List String}
    (h : advanceAll next (some x) pieces = some y) (base : List Char) :
    advanceAll next (some (x.above base)) pieces = some (y.above base) := by
  rw [← advance_join] at h ⊢
  exact advance_above h base

/-! ### Literals -/

/-- A bracket in a literal does not count. -/
theorem readsLiteral (awaited : List Char) :
    ReadsLiteral next (fun _ => some (inside awaited)) (fun _ => some ⟨awaited, .escaped⟩) where
  text _ _ hquote hslash := by
    simp only [next, Option.bind_some, step, inside, Place.step, if_neg hquote, if_neg hslash]
  backslash _ := rfl
  behind _ _ := rfl

theorem advance_escape (awaited : List Char) (s : String) :
    advance next (some (inside awaited)) (escape s) = some (inside awaited) :=
  (readsLiteral awaited).advance_escape [] s

end Nesting

/-! ## Pieces without brackets -/

/-- The characters that a reading of brackets takes note of outside of
literals. -/
def marks : List Char := ['(', ')', '[', ']', '"']

/-- A string without brackets and quotes. -/
def Bare (s : String) : Prop := ∀ c ∈ s.toList, c ∉ marks

instance (s : String) : Decidable (Bare s) := List.decidableBAll (· ∉ marks) s.toList

theorem bare_append {s t : String} (hs : Bare s) (ht : Bare t) : Bare (s ++ t) := by
  intro c hc
  rw [String.toList_append, List.mem_append] at hc
  exact hc.elim (hs c) (ht c)

theorem Nesting.advance_bare {s : String} (h : Bare s) (awaited : List Char) :
    advance next (some (outside awaited)) s = some (outside awaited) := by
  refine foldl_of_forall_eq fun c hc => ?_
  have hmarks := h c hc
  simp only [marks, List.mem_cons, List.not_mem_nil, or_false, not_or] at hmarks
  simp [next, step, outside, stepOutside, Place.step, hmarks]

theorem bare_toString (n : Nat) : Bare (toString n) := by
  intro c hc
  rw [Nat.toString_eq_repr, Nat.toList_repr] at hc
  obtain ⟨d, hd, rfl⟩ := mem_toDigits (by omega) hc
  have hdigits : ∀ d < 10, Nat.digitChar d ∉ marks := by decide
  exact hdigits d hd

theorem bare_toString_int (n : Int) : Bare (toString n) := by
  cases n with
  | ofNat n => exact bare_toString n
  | negSucc n => exact bare_append (s := "-") (by decide) (bare_toString (n + 1))

theorem bare_number {s t : String} (hs : Bare s) (ht : Bare t) (n : Nat) :
    Bare (s ++ toString n ++ t) :=
  bare_append (bare_append hs (bare_toString n)) ht

/-- A number between two parts of a piece changes nothing. -/
theorem Nesting.advance_number {a b c : List Char} {s t : String}
    (hs : advance next (some (outside a)) s = some (outside b))
    (ht : advance next (some (outside b)) t = some (outside c)) (n : Nat) :
    advance next (some (outside a)) (s ++ toString n ++ t) = some (outside c) := by
  rw [advance_append, advance_append, hs, advance_bare (bare_toString n), ht]

theorem bare_of_isRelativeLength {s : String} (h : isRelativeLength s = true) : Bare s := by
  intro c hc hmark
  have hlength := isLengthChar_of_isRelativeLength h c hc
  have hmarks : marks.all (!isLengthChar ·) = true := by decide
  have hno := List.all_eq_true.1 hmarks c hmark
  rw [hlength] at hno
  cases hno

theorem bare_imageArgument {name value : String} (hname : Bare name)
    (hvalue : isRelativeLength value = true) : Bare (", " ++ name ++ ": " ++ value) :=
  bare_append (bare_append (bare_append (by decide) hname) (by decide))
    (bare_of_isRelativeLength hvalue)

theorem bare_of_mem_alignments {columns : List (Option String)} {words : List String}
    (h : columnAlignments columns = .ok words) : ∀ piece ∈ ", " :: words, Bare piece := by
  have hbare : ∀ word ∈ alignmentWords, Bare word := by decide
  refine List.forall_mem_cons.2 ⟨by decide, fun word hword => ?_⟩
  exact hbare word (mem_alignmentWords h word hword)

/-! ## Fragments that turn one row of brackets into another -/

/-- Whether the source of fragments leads from one row of awaited brackets to
another. -/
def Turns (a b : List Char) (fs : List Fragment) : Prop :=
  advanceAll Nesting.next (some (.outside a)) (sources fs) = some (.outside b)

namespace Turns

variable {a b c : List Char} {fs gs : List Fragment}

theorem nil (a : List Char) : Turns a a [] := rfl

theorem append (h : Turns a b fs) (h' : Turns b c gs) : Turns a c (fs ++ gs) := by
  rw [Turns, sources_append, advanceAll_append, h]
  exact h'

theorem all (h : ∀ f ∈ fs, Turns a a [f]) : Turns a a fs := by
  induction fs with
  | nil => exact nil a
  | cons f fs ih =>
      rw [List.forall_mem_cons] at h
      exact append h.1 (ih h.2)

/-- What reads no bracket but its own is read inside any others. -/
theorem inside (h : Turns [] [] fs) (a : List Char) : Turns a a fs :=
  Nesting.advanceAll_above h a

theorem piece {s : String} (h : advance Nesting.next (some (.outside a)) s = some (.outside b)) :
    Turns a b [.source s] := h

theorem bare {s : String} (h : Bare s) : Turns a a [.source s] :=
  piece (Nesting.advance_bare h a)

theorem literal {s t : String}
    (hs : advance Nesting.next (some (.outside a)) s = some (.inside b))
    (ht : advance Nesting.next (some (.inside b)) t = some (.outside c)) (content : String) :
    Turns a c [.source s, .source (escape content), .source t] :=
  (Nesting.readsLiteral b).advanceAll_literal [] hs ht

theorem frame (hopening : Turns [] a fs) (hinner : Turns [] [] gs) {hs : List Fragment}
    (hclosing : Turns a [] hs) : Turns [] [] (fs ++ gs ++ hs) :=
  (hopening.append (hinner.inside a)).append hclosing

end Turns

/-! ## Leaves -/

/-- Whether a kind of node sets no source of its own, or source whose brackets
match. -/
def Kind.isBalanced : Kind → Bool
  | .leaf (.typstContent content) => decide (IsBalanced content)
  | _ => true

theorem turns_rawText (block : Bool) (language content : String) :
    Turns [] [] (rawText block language content) := by
  refine Turns.literal (b := [')']) ?_ ?_ content
  · have hopening : advance Nesting.next (some (.outside []))
        ("#raw(block: " ++ (if block then "true" else "false") ++ ", lang: \"") =
          some (.inside [')']) := by
      cases block <;> decide
    rw [advance_append, advance_append, hopening, Nesting.advance_escape]
    decide
  · cases block <;> decide

theorem turns_formula (block : Bool) (content : String) :
    Turns [] [] (formula block content) := by
  refine Turns.literal (b := [')']) ?_ ?_ content
  · cases block <;> decide
  · cases block <;> decide

theorem turns_imageArguments (url : String) (attributes : Attributes) {names : List String}
    (hnames : ∀ name ∈ names, Bare name) : Turns [] [] (imageArguments url attributes names) := by
  refine .all fun f hf => ?_
  rcases eq_of_mem_imageArguments hf with ⟨name, hname, value, hvalue, rfl⟩ | ⟨r, rfl⟩
  · exact .bare (bare_imageArgument (hnames name hname) hvalue)
  · exact .nil []

theorem turns_encodedImage {s : Setting}
    (hnames : ∀ name ∈ s.options.imageAttributes, Bare name) (url altText : String)
    (attributes : Attributes) : Turns [] [] (encodedImage s url altText attributes) := by
  have hopening : Turns [] [')', ')']
      [.source "#box(image(\"", .source (assetId url), .source "\""] := by
    rw [← escape_assetId]
    exact .literal (b := [')', ')']) (by decide) (by decide) _
  have harguments := (turns_imageArguments url attributes hnames).inside [')', ')']
  have halt : Turns [')', ')'] [')', ')'] (if altText.isEmpty then []
      else [.source ", alt: \"", .source (escape altText), .source "\""]) := by
    split
    · exact .nil _
    · exact .literal (b := [')', ')']) (by decide) (by decide) altText
  have hclosing : ∀ r, Turns [')', ')'] [] [.source "))", .asset url, .record r] :=
    fun _ => Turns.piece (by decide)
  exact ((hopening.append harguments).append halt).append (hclosing _)

theorem turns_image {s : Setting} (hnames : ∀ name ∈ s.options.imageAttributes, Bare name)
    (url : Url) (altText : String) (attributes : Attributes) :
    Turns [] [] (image s url altText attributes) := by
  cases url with
  | text url => exact turns_encodedImage hnames url altText attributes
  | illFormed t => exact .nil []

theorem turns_referenceEnd (form : ReferenceForm) (label : Option String)
    (identifier : String) : Turns [] [] [.source (referenceEnd form label identifier)] := by
  refine .piece ?_
  cases form with
  | shortcut =>
      show advance Nesting.next _ ("#\"]" ++ "" ++ "\"") = _
      decide
  | collapsed =>
      show advance Nesting.next _ ("#\"]" ++ "[]" ++ "\"") = _
      decide
  | full =>
      -- the brackets around the label are in the literal, as the label is
      have hopening : advance Nesting.next (some (.outside [])) "#\"]" = some (.inside []) := by
        decide
      have hbracket : advance Nesting.next (some (.inside [])) "[" = some (.inside []) := by decide
      have hclosing : advance Nesting.next (some (.inside [])) "]" = some (.inside []) := by decide
      have hquote : advance Nesting.next (some (.inside [])) "\"" = some (.outside []) := by decide
      unfold referenceEnd
      simp only [advance_append, hopening, hbracket, hclosing, hquote, Nesting.advance_escape]

theorem turns_leafFragments {s : Setting} (hnames : ∀ name ∈ s.options.imageAttributes, Bare name)
    {l : Leaf} (h : Kind.isBalanced (.leaf l) = true) : Turns [] [] (leafFragments s l) := by
  cases l with
  | codeBlock | htmlBlock | code | htmlInline => exact turns_rawText _ _ _
  | mathBlock | mathInline => exact turns_formula _ _
  | thematicBreak | lineBreak => exact .piece (by decide)
  | definition => exact .nil []
  | text content => exact .literal (b := []) (by decide) (by decide) content
  | image url altText title attributes => exact turns_image hnames url altText attributes
  | imageReference identifier label form altText attributes =>
      rw [leafFragments]
      split
      · exact turns_image hnames _ altText attributes
      · have hbracket : Turns [] []
            [.source "#\"![\"#\"", .source (escape altText), .source "\""] :=
          .literal (b := []) (by decide) (by decide) altText
        exact hbracket.append (turns_referenceEnd form label identifier)
  | footnoteReference identifier =>
      rw [leafFragments]
      split
      · have hreference : Turns [] [] [.source "#footnote(label(\"",
            .source (noteLabel s identifier), .source "\"))"] :=
          .literal (b := [')', ')']) (by decide) (by decide) _
        exact hreference
      · have hmissing : Turns [] []
            [.source "#\"[^", .source (escape identifier), .source "]\""] :=
          .literal (b := []) (by decide) (by decide) identifier
        exact hmissing
  | typstContent content => exact .piece (of_decide_eq_true h)

/-! ## Branches -/

theorem turns_listOpening (ordered : Bool) (start : Option Int) :
    Turns [] [')'] (listOpening ordered start) := by
  have hend : Turns [')'] [')'] [.source "\n"] := .bare (by decide)
  cases ordered with
  | false =>
      have hlist : Turns [] [')'] [.source "#list("] := .piece (by decide)
      exact hlist.append hend
  | true =>
      have henum : Turns [] [')'] [.source "#enum("] := .piece (by decide)
      refine henum.append (.append ?_ hend)
      cases start with
      | none => exact .nil _
      | some n =>
          have hstart : Bare ("start: " ++ toString n ++ ",") :=
            bare_append (bare_append (by decide) (bare_toString_int n)) (by decide)
          exact .bare hstart

theorem turns_figureOpening (attributes : Attributes) :
    Turns [] [']'] (figureOpening attributes) := by
  have hopening : Turns [] [')'] [.source "#figure("] := .piece (by decide)
  have hclosing : Turns [')'] [']'] [.source ")[\n"] := .piece (by decide)
  refine (hopening.append ?_).append hclosing
  split
  · exact .nil _
  · exact .nil _
  · exact .literal (b := [')']) (by decide) (by decide) _

theorem turns_linkOpening (url : Url) : Turns [] [']', ')'] (linkOpening url) :=
  .literal (b := [')']) (by decide) (by decide) url.shown

/-- The closing of a branch closes the brackets that its opening has opened. -/
theorem exists_turns_frame (s : Setting) (k : Branch) :
    ∃ a, Turns [] a (opening s k) ∧ Turns a [] (closing s k) := by
  cases k with
  | heading level =>
      have hopening : advance Nesting.next (some (.outside []))
          ("#heading(level: " ++ toString level ++ ", [") = some (.outside [']', ')']) :=
        Nesting.advance_number (b := [')']) (by decide) (by decide) level
      exact ⟨[']', ')'], .piece hopening, .piece (by decide)⟩
  | paragraph | blockQuote | emphasis | strong | strikethrough =>
      exact ⟨[']'], .piece (by decide), .piece (by decide)⟩
  | list ordered start tight =>
      exact ⟨[')'], turns_listOpening ordered start, .piece (by decide)⟩
  | containerDirective name attributes =>
      rw [opening, closing]
      by_cases hname : (name == "figure") = true
      · rw [if_pos hname, if_pos hname]
        exact ⟨[']'], turns_figureOpening attributes, .piece (by decide)⟩
      · rw [if_neg hname, if_neg hname]
        exact ⟨[], .nil [], .nil []⟩
  | link url title => exact ⟨[']', ')'], turns_linkOpening url, .piece (by decide)⟩
  | linkReference identifier label form =>
      rw [opening, closing]
      cases s.definitions.url? identifier with
      | some url => exact ⟨[']', ')'], turns_linkOpening url, .piece (by decide)⟩
      | none =>
          have hbracket : Turns [] [] [.source "#\"[\""] := .piece (by decide)
          exact ⟨[], hbracket, turns_referenceEnd form label identifier⟩
  | document | listItem | table | tableRow | tableCell | footnoteDefinition | leafDirective
  | textDirective | typstMarkup => exact ⟨[], .nil [], .nil []⟩

theorem turns_tableOpening {columns : List (Option String)} {words : List String}
    (h : columnAlignments columns = .ok words) : Turns [] [')', ')'] (tableOpening words) := by
  have hopening : advance Nesting.next (some (.outside []))
      ("#figure(table(columns: " ++ toString words.length ++ ", align: (") =
        some (.outside [')', ')', ')']) :=
    Nesting.advance_number (b := [')', ')']) (by decide) (by decide) words.length
  have hcolumns : Turns [')', ')', ')'] [')', ')', ')']
      (words.flatMap fun alignment => [.source alignment, .source ", "]) := by
    refine .all fun f hf => ?_
    obtain ⟨piece, hpiece, rfl⟩ := eq_of_mem_alignments hf
    exact .bare (bare_of_mem_alignments h piece hpiece)
  have hclosing : Turns [')', ')', ')'] [')', ')'] [.source "),\n"] := .piece (by decide)
  exact ((Turns.piece hopening).append hcolumns).append hclosing

theorem turns_cellOpening (colspan rowspan : Nat) :
    Turns [] [']'] (cellOpening colspan rowspan) := by
  have hspan : ∀ (condition : Prop) [Decidable condition] (s : String), Bare s →
      Turns [')'] [')'] (if condition then [.source s] else []) := by
    intro condition _ s hs
    split
    · exact .bare hs
    · exact .nil _
  have hopening : Turns [] [')'] [.source "table.cell("] := .piece (by decide)
  have hclosing : Turns [')'] [']'] [.source ")["] := .piece (by decide)
  refine ((hopening.append (hspan _ _ ?_)).append (hspan _ _ ?_)).append hclosing
  · exact bare_number (s := "colspan: ") (t := ", ") (by decide) (by decide) colspan
  · exact bare_number (s := "rowspan: ") (t := ", ") (by decide) (by decide) rowspan

/-! ## Trees -/

/-- What brackets can be matched in: no document, and raw source only if its own
brackets match. -/
def Kind.isBracketSafe (k : Kind) : Bool := !k.isDocument && Kind.isBalanced k

theorem balanced_correspondence {s : Setting}
    (hnames : ∀ name ∈ s.options.imageAttributes, Bare name) :
    Correspondence s s (Alone Kind.isBracketSafe) fun fs _ => Turns [] [] fs where
  layout h := by
    cases h.1
    rfl
  noDocument h hk := by
    obtain rfl := layout_eq_document hk
    cases h.2
  nil := .nil []
  append := .append
  leaf h := turns_leafFragments hnames (Bool.and_eq_true_iff.1 h.2).2
  frame {k k' _ _} h _ hfs := by
    obtain ⟨a, hopening, hclosing⟩ := exists_turns_frame s k
    exact hopening.frame hfs hclosing
  item hfs := by
    have hopening : Turns [] [']'] [.source "["] := .piece (by decide)
    exact hopening.frame hfs (.piece (by decide))
  table hwords hrows := (turns_tableOpening hwords).frame hrows (.piece (by decide))
  rowEnd := .bare (by decide)
  cell {colspan rowspan _ _} hfs :=
    (turns_cellOpening colspan rowspan).frame hfs (.piece (by decide))
  padding := .piece (by decide)
  strayRow := .nil []
  unknownAlignment _ := .nil []
  notTabular _ _ := .nil []

theorem turns_fragments {s : Setting} (hnames : ∀ name ∈ s.options.imageAttributes, Bare name)
    {n : Node} (h : n.all Kind.isBracketSafe = true) : Turns [] [] (fragments s n) :=
  corresponds (balanced_correspondence hnames) (matches_self alone_self h)

theorem turns_fragmentsAll {s : Setting}
    (hnames : ∀ name ∈ s.options.imageAttributes, Bare name) {ns : List Node}
    (h : allOf Kind.isBracketSafe ns = true) : Turns [] [] (fragmentsAll s ns) :=
  allCorrespond (balanced_correspondence hnames) (matchesAll_self alone_self h)

/-! ## Documents -/

theorem turns_bodyFragments {s : Setting}
    (hnames : ∀ name ∈ s.options.imageAttributes, Bare name) (identifier : String)
    {content : List Node} (h : allOf Kind.isBracketSafe content = true) :
    Turns [] [] (bodyFragments s identifier content) := by
  have hopening : Turns [] [']'] [.source "#footnote[\n"] := .piece (by decide)
  have hlabel : Turns [']'] []
      [.source "]#label(\"", .source (noteLabel s identifier), .source "\")\n"] :=
    .literal (b := [')']) (by decide) (by decide) _
  exact hopening.frame (turns_fragmentsAll hnames h) hlabel

theorem turns_noteFragments {s : Setting}
    (hnames : ∀ name ∈ s.options.imageAttributes, Bare name) (cited : List String)
    {notes : List (String × List Node)}
    (h : ∀ note ∈ notes, allOf Kind.isBracketSafe note.2 = true) :
    Turns [] [] (noteFragments s cited notes) := by
  have hset : ∀ note ∈ settledNotes s cited notes, allOf Kind.isBracketSafe note.2 = true :=
    fun note hnote => h note ((settledNotes_sublist s cited notes).subset hnote)
  rw [noteFragments]
  generalize settledNotes s cited notes = set at hset
  induction set with
  | nil => exact .nil []
  | cons note set ih =>
      rw [List.forall_mem_cons] at hset
      rw [List.flatMap_cons]
      exact (turns_bodyFragments hnames note.1 hset.1).append (ih hset.2)

theorem turns_compiledFragments {options : TypstOptions}
    (hnames : ∀ name ∈ options.imageAttributes, Bare name) {document : Node}
    (hroot : document.isDocument = true)
    (hsafe : allOf Kind.isBracketSafe document.children = true) :
    Turns [] [] (compiledFragments options document) := by
  have hbody : Turns [] [] (fragmentsAll (settingOf options document) document.children) :=
    turns_fragmentsAll hnames hsafe
  have hhidden : Turns [] [']', ')', ')'] [.source "\n", .source "#hide(place(top+left, [\n"] :=
    (Turns.bare (s := "\n") (by decide)).append (.piece (by decide))
  have hnotes := turns_noteFragments (s := settingOf options document) hnames
    (citeAll [] (citations (fragmentsAll (settingOf options document) document.children)))
    fun note hnote => Definitions.allOf_notes_collect hroot hsafe hnote
  exact (hbody.append hhidden).frame hnotes (.piece (by decide))

theorem isBalanced_join {fs : List Fragment} (h : Turns [] [] fs) :
    IsBalanced (String.join (sources fs)) := by
  rw [IsBalanced, advance_join]
  exact h

/-- The brackets of the source of a document match, and so do those of what each
of its nodes sets where it stands, whatever was referred to before. -/
theorem source_isBalanced {options : TypstOptions}
    (hnames : ∀ name ∈ options.imageAttributes, Bare name) {document : Node}
    {compiled : Compiled} (hwhole : document.isWholeDocument = true)
    (hraw : document.all Kind.isBalanced = true)
    (hok : (compile options document).result = .ok compiled) :
    IsBalanced compiled.source ∧
      ∀ n ∈ preorderAll document.children, ∀ bodies cited,
        (run bodies cited (fragments (settingOf options document) n)).defect = none →
        IsBalanced (String.join
          (run bodies cited (fragments (settingOf options document) n)).source) := by
  obtain ⟨hroot, hinner⟩ := Bool.and_eq_true_iff.1 hwhole
  have hsafe : allOf Kind.isBracketSafe document.children = true :=
    allOf_and.2 ⟨hinner, allOf_children hraw⟩
  constructor
  · rw [compile_result options hwhole] at hok
    split at hok
    · cases hok
    · cases hok
      exact isBalanced_join (turns_compiledFragments hnames hroot hsafe)
  · intro n hn bodies cited hdefect
    have hnode := all_of_mem_preorderAll hsafe hn
    have hdirect : .noteBodies ∉ fragments (settingOf options document) n :=
      noteBodies_not_mem_fragments _ (all_of_mem_preorderAll hinner hn)
    rw [run_defect hdirect] at hdefect
    rw [(run_result hdirect hdefect bodies cited).1]
    exact isBalanced_join (turns_fragments hnames hnode)

/-- A figure whose caption and text are full of brackets, raw source with
brackets of its own, a table with a merged cell, and a note. -/
def bracketDocument : Node :=
  .ofBranch .document
    [.ofBranch (.containerDirective "figure" [("caption", some "]) \\")])
        [.ofBranch .paragraph
          [.ofText "[\"(", .ofLeaf (.typstContent "#f[(\")\")]"),
            .ofLeaf (.footnoteReference "n")]],
      .ofBranch (.table true [])
        [.ofBranch (.tableRow true)
          [.ofBranch (.tableCell 2 1 false none) [.ofText ")"],
            .ofBranch (.tableCell 1 1 true none) [.ofText "<"]]],
      .ofBranch (.footnoteDefinition "n")
        [.ofLeaf (.image "u]" "(" none [("width", some "50%"), ("height", some "1pt)")])]]

theorem source_isBalanced_of_brackets :
    bracketDocument.isWholeDocument = true ∧ bracketDocument.all Kind.isBalanced = true ∧
      ∃ compiled, (compile {} bracketDocument).result = .ok compiled ∧
        IsBalanced compiled.source ∧
        ∀ n ∈ preorderAll bracketDocument.children, ∀ bodies cited,
          (run bodies cited (fragments (settingOf {} bracketDocument) n)).defect = none →
          IsBalanced (String.join
            (run bodies cited (fragments (settingOf {} bracketDocument) n)).source) := by
  have hwhole : bracketDocument.isWholeDocument = true := by decide
  have hraw : bracketDocument.all Kind.isBalanced = true := by decide
  have hdefect : firstDefect (compiledFragments {} bracketDocument) = none := by
    rw [compiledFragments, settingOf, Definitions.collect_eq]
    decide
  obtain ⟨compiled, hok⟩ : ∃ compiled, (compile {} bracketDocument).result = .ok compiled := by
    rw [compile_result {} hwhole, hdefect]
    exact ⟨_, rfl⟩
  exact ⟨hwhole, hraw, compiled, hok, source_isBalanced (by decide) hwhole hraw hok⟩

end TypstPress.Typst
