import TypstPress.Proofs.Typst.NoteBodies
import TypstPress.Proofs.Typst.Visiting

/-!
# Setting only appends

Where a tree is set into a context that already holds something, what was there
stays, and what comes depends on little of it. This file says how little: on
what the identifiers of references resolve to, and on nothing else. An
`Addition` is what setting contributes, without a context. Put into a context
(`Addition.onto`) it stands behind the output and the images that are there,
changes no definition, and marks the footnotes that a reference come to refers
to, besides those that are marked already.

`Adds` says of a part of a visit that one addition describes it in all contexts
that resolve references alike. Since additions leave such contexts alike, parts
in sequence are described by additions in sequence (`Adds.andThen`), and the
induction over the kinds of nodes is left with the pieces around the children.
That holds for a visit that is stopped as well: the addition then ends with the
defect. The nodes come to are the first of those that `reached` lists, which
knows neither contexts nor defects, and all of them if nothing stops the visit.

Documents are the exception. They set the bodies of the footnotes marked so far,
and so depend on marks and contents.
-/

namespace TypstPress.Typst

open Node

/-! ## Additions -/

/-- Whether identifiers resolve to the same in two contexts: they have the same
urls, and the same identifiers have a footnote. -/
structure Context.Alike (c c' : Context) : Prop where
  url : c.definitions.url? = c'.definitions.url?
  note : c.definitions.hasNote = c'.definitions.hasNote

/-- A footnote with a mark if it is among those referred to. -/
def marked (identifiers : List String) (note : NoteState) : NoteState :=
  { note with visited := note.visited || identifiers.contains note.identifier }

theorem map_marked_nil (notes : List NoteState) : notes.map (marked []) = notes := by
  refine (List.map_congr_left fun note _ => ?_).trans (List.map_id notes)
  simp only [marked, List.contains_nil, Bool.or_false, id]

theorem map_marked_append (is js : List String) (notes : List NoteState) :
    notes.map (marked (is ++ js)) = (notes.map (marked is)).map (marked js) := by
  rw [List.map_map]
  refine List.map_congr_left fun note _ => ?_
  simp only [marked, Function.comp_apply, List.contains_append, Bool.or_assoc]

theorem notes_visit (c : Context) (identifier : String) :
    (c.visit identifier).notes = c.notes.map (marked [identifier]) := by
  refine List.map_congr_left fun note _ => ?_
  simp only [marked, List.contains_cons, List.contains_nil, Bool.or_false]

/-- What setting trees contributes to a context. -/
structure Addition where
  /-- The pieces of source in order. -/
  pieces : List String := []
  /-- The images in order of appearance. -/
  assets : List Asset := []
  /-- The nodes that setting came to. -/
  arrivals : List Node := []
  log : Log := []
  /-- Where setting stopped, if it did. -/
  defect : Option Defect := none

namespace Addition

/-- The footnotes referred to by the nodes come to, defined or not. -/
def references (a : Addition) : List String := a.arrivals.filterMap reference?

/-- An addition made to a context. -/
def onto (a : Addition) (c : Context) : Progress where
  context :=
    { output := c.output ++ a.pieces
      assets := c.assets ++ a.assets
      links := c.links
      notes := c.notes.map (marked a.references) }
  log := a.log
  defect := a.defect
  arrivals := a.arrivals

/-- One addition followed by another, unless the first was stopped. -/
def andThen (first second : Addition) : Addition :=
  match first.defect with
  | some _ => first
  | none =>
    { pieces := first.pieces ++ second.pieces
      assets := first.assets ++ second.assets
      arrivals := first.arrivals ++ second.arrivals
      log := first.log ++ second.log
      defect := second.defect }

/-- Whether an addition came to the nodes in order, and to all of them unless it
was stopped. -/
structure Covers (a : Addition) (ns : List Node) : Prop where
  arrivals : a.arrivals <+: ns
  whole : a.defect = none → a.arrivals = ns

theorem onto_andThen (a b : Addition) (c : Context) {next : Context → Progress}
    (h : next (a.onto c).context = b.onto (a.onto c).context) :
    (a.onto c).andThen next = (a.andThen b).onto c := by
  have hdefect : (a.onto c).defect = a.defect := rfl
  rw [Progress.andThen, andThen, h, hdefect]
  cases hd : a.defect with
  | some d => rfl
  | none =>
      simp only [onto, references, List.filterMap_append, List.append_assoc, map_marked_append]

theorem covers_andThen {a b : Addition} {ms ns : List Node} (ha : a.Covers ms)
    (hb : b.Covers ns) : (a.andThen b).Covers (ms ++ ns) := by
  rw [andThen]
  cases hd : a.defect with
  | some d =>
      exact ⟨ha.arrivals.trans (List.prefix_append ms ns), fun h => absurd (hd.symm.trans h) nofun⟩
  | none =>
      have hms := ha.whole hd
      refine ⟨?_, fun h => ?_⟩
      · rw [hms]
        exact (List.prefix_append_right_inj ms).2 hb.arrivals
      · exact congrArg₂ (· ++ ·) hms (hb.whole h)

end Addition

theorem Addition.definitions_onto (a : Addition) (c : Context) :
    (a.onto c).context.definitions = c.definitions := by
  simp only [onto, Context.definitions, List.map_map, Function.comp_def, marked]

/-- An addition leaves identifiers resolved as they were. -/
theorem Context.Alike.onto {c c' : Context} (h : c.Alike c') (a : Addition) :
    (a.onto c).context.Alike c' :=
  ⟨a.definitions_onto c ▸ h.url, a.definitions_onto c ▸ h.note⟩

/-! ## What is looked up -/

theorem leafFragments_of_alike {c c' : Context} (h : c.Alike c') (options : TypstOptions)
    (l : Leaf) :
    leafFragments (c.setting options) l = leafFragments (c'.setting options) l := by
  have hurl : (c.setting options).definitions.url? =
      (c'.setting options).definitions.url? := h.url
  have hnote : (c.setting options).definitions.hasNote =
      (c'.setting options).definitions.hasNote := h.note
  cases l with
  | imageReference => simp only [leafFragments, hurl]; rfl
  | footnoteReference => simp only [leafFragments, hnote]; rfl
  | _ => rfl

/-- What stands around the children of a branch only depends on the url of a link
reference. -/
theorem frame_of_alike {c c' : Context} (h : c.Alike c') (options : TypstOptions) (k : Branch) :
    opening (c.setting options) k = opening (c'.setting options) k ∧
      closing (c.setting options) k = closing (c'.setting options) k := by
  have hurl : (c.setting options).definitions.url? =
      (c'.setting options).definitions.url? := h.url
  cases k with
  | linkReference => simp only [opening, closing, hurl, and_self]
  | _ => exact ⟨rfl, rfl⟩

/-! ## Fragments as additions -/

/-- The record that a fragment is. -/
def Fragment.record? : Fragment → Option Record
  | .record r => some r
  | _ => none

/-- What fragments that are set where they stand add, with the nodes they are of. -/
def Addition.ofFragments (fs : List Fragment) (ns : List Node) : Addition where
  pieces := sources fs
  assets := (assetUrls fs).map Asset.ofUrl
  arrivals := ns
  log := fs.filterMap Fragment.record?

theorem emit_direct {fs : List Fragment} (h : AllDirect fs) (bodies : Context → Emission)
    (c : Context) :
    emit bodies c fs =
      { context :=
          { output := c.output ++ sources fs
            assets := c.assets ++ (assetUrls fs).map Asset.ofUrl
            links := c.links
            notes := c.notes.map (marked (citations fs)) }
        log := fs.filterMap Fragment.record? } := by
  induction fs generalizing c with
  | nil => simp [emit, sources, assetUrls, citations, map_marked_nil]
  | cons f fs ih =>
      obtain ⟨hf, hrest⟩ := List.forall_mem_cons.1 h
      cases f with
      | source s =>
          rw [emit, ih hrest]
          simp only [Context.write, List.append_assoc]
          rfl
      | asset url =>
          rw [emit, ih hrest]
          simp only [Context.use, List.append_assoc]
          rfl
      | cite identifier =>
          rw [emit, ih hrest, notes_visit, ← map_marked_append]
          rfl
      | record r => rw [emit, ih hrest]; rfl
      | noteBodies | defect => cases hf

/-- References to footnotes that are not there mark nothing. -/
theorem map_marked_filter (c : Context) (identifiers : List String) :
    c.notes.map (marked (identifiers.filter c.definitions.hasNote)) =
      c.notes.map (marked identifiers) := by
  refine List.map_congr_left fun note hnote => ?_
  have hhas : c.definitions.hasNote note.identifier = true :=
    Definitions.hasNote_iff.2 (List.mem_map.2
      ⟨(note.identifier, note.content), List.mem_map_of_mem hnote, rfl⟩)
  have hcontains : (identifiers.filter c.definitions.hasNote).contains note.identifier =
      identifiers.contains note.identifier := by
    rw [Bool.eq_iff_iff, List.contains_iff_mem, List.contains_iff_mem, List.mem_filter,
      and_iff_left hhas]
  simp only [marked, hcontains]

/-! ## Parts of a visit -/

section

variable {options : TypstOptions} {bodies : Context → Emission} {base : Context}

/-- Whether a part of a visit makes one addition to all contexts that resolve
references as `base` does, coming to the nodes. -/
def Adds (base : Context) (part : Context → Progress) (ns : List Node) : Prop :=
  ∃ a : Addition, a.Covers ns ∧ ∀ c : Context, c.Alike base → part c = a.onto c

theorem adds_pieces {fs : List Fragment} (h : events fs = []) :
    Adds base (fun c => put bodies c fs) [] := by
  have hdirect : AllDirect fs := by
    intro f hf
    have hquiet := List.filter_eq_nil_iff.1 h f hf
    cases f with
    | noteBodies | defect => exact absurd rfl hquiet
    | _ => rfl
  have hcitations : citations fs = [] := by
    rw [← citations_events, h]
    rfl
  refine ⟨.ofFragments fs [], ⟨List.prefix_refl _, fun _ => rfl⟩, fun c _ => ?_⟩
  simp only [put, emit_direct hdirect, hcitations]
  rfl

/-- A leaf refers to the footnote that it is a reference to, if to any. -/
theorem adds_leaf (l : Leaf) (m : Metadata) :
    Adds base (fun c => (put bodies c (leafFragments (c.setting options) l)).arrive (.leaf l m))
      [.leaf l m] := by
  have hcitations : ∀ c : Context, c.Alike base →
      citations (leafFragments (base.setting options) l) =
        (reference? (.leaf l m)).toList.filter c.definitions.hasNote := by
    intro c hc
    rw [← citations_events, hc.note]
    exact citations_nodeEvents (base.setting options) (.leaf l m)
  have hreferences : [Node.leaf l m].filterMap reference? = (reference? (.leaf l m)).toList := by
    rw [List.filterMap_cons]
    cases reference? (.leaf l m) <;> rfl
  rcases direct_leafFragments (base.setting options) l with hdirect | ⟨t, hdefect⟩
  · refine ⟨.ofFragments (leafFragments (base.setting options) l) [.leaf l m],
      ⟨List.prefix_refl _, fun _ => rfl⟩, fun c hc => ?_⟩
    simp only [leafFragments_of_alike hc, put, emit_direct hdirect, hcitations c hc,
      map_marked_filter, Progress.arrive, Addition.onto, Addition.ofFragments,
      Addition.references, hreferences]
  · -- an image that cannot be encoded is come to, and stops the visit
    refine ⟨{ arrivals := [.leaf l m], defect := some (.unencodableUrl t) },
      ⟨List.prefix_refl _, nofun⟩, fun c hc => ?_⟩
    have hnone : (reference? (.leaf l m)).toList.filter c.definitions.hasNote = [] := by
      rw [← hcitations c hc, hdefect]
      rfl
    simp only [leafFragments_of_alike hc, put, hdefect, emit, Progress.arrive, Addition.onto,
      Addition.references, hreferences, List.append_nil]
    rw [← map_marked_filter c, hnone, map_marked_nil]

theorem adds_defect (d : Defect) (ns : List Node) :
    Adds base (fun c => put bodies c [.defect d]) ns := by
  refine ⟨{ defect := some d }, ⟨List.nil_prefix, nofun⟩, fun c _ => ?_⟩
  simp only [put, emit, Addition.onto, Addition.references, List.append_nil, List.filterMap_nil,
    map_marked_nil]

namespace Adds

variable {part next : Context → Progress} {ms ns : List Node}

theorem congr (h : Adds base part ns) (heq : ∀ c : Context, c.Alike base → next c = part c) :
    Adds base next ns := by
  obtain ⟨a, hcovers, hpart⟩ := h
  exact ⟨a, hcovers, fun c hc => (heq c hc).trans (hpart c hc)⟩

theorem arrive (h : Adds base part ns) (k : Branch) (cs : List Node) (m : Metadata) :
    Adds base (fun c => (part c).arrive (.branch k cs m)) (.branch k cs m :: ns) := by
  obtain ⟨a, hcovers, hpart⟩ := h
  refine ⟨{ a with arrivals := .branch k cs m :: a.arrivals }, ⟨?_, fun hd => ?_⟩,
    fun c hc => ?_⟩
  · exact List.cons_prefix_cons.2 ⟨rfl, hcovers.arrivals⟩
  · exact congrArg (.branch k cs m :: ·) (hcovers.whole hd)
  · simp only [hpart c hc]
    rfl

theorem andThen (h : Adds base part ms) (hnext : Adds base next ns) :
    Adds base (fun c => (part c).andThen next) (ms ++ ns) := by
  obtain ⟨a, ha, hpart⟩ := h
  obtain ⟨b, hb, hnext⟩ := hnext
  refine ⟨a.andThen b, Addition.covers_andThen ha hb, fun c hc => ?_⟩
  simp only [hpart c hc]
  exact Addition.onto_andThen a b c (hnext _ (hc.onto a))

theorem between (h : Adds base part ns) (k : Branch) :
    Adds base (fun c => visitBetween options bodies c k part) ns := by
  have hopening : Adds base (fun c => put bodies c (opening (base.setting options) k)) [] :=
    adds_pieces (events_opening _ k)
  have hclosing : Adds base (fun c => put bodies c (closing (base.setting options) k)) [] :=
    adds_pieces (events_closing _ k)
  have hparts := hopening.andThen (h.andThen hclosing)
  rw [List.nil_append, List.append_nil] at hparts
  refine hparts.congr fun c hc => ?_
  obtain ⟨hopened, hclosed⟩ := frame_of_alike hc options k
  rw [visitBetween, hopened, hclosed]

end Adds

/-! ## Trees -/

theorem adds_correspondence :
    VisitCorrespondence options bodies (base.setting options) (!·.isDocument)
      fun part _ ns => Adds base part ns where
  pieces := adds_pieces
  leaf := adds_leaf
  defect := adds_defect
  arrive k cs m h := h.arrive k cs m
  andThen := Adds.andThen
  between k h := h.between k
  document h := by cases h

/-- A visit of a tree without documents makes one addition to all contexts that
resolve references alike. -/
theorem adds_visit {n : Node} (h : n.all (!·.isDocument) = true) :
    Adds base (fun c => visit options bodies c n) (reached n) :=
  visited adds_correspondence h

theorem adds_visitAll {ns : List Node} (h : allOf (!·.isDocument) ns = true) :
    Adds base (fun c => visitAll options bodies c ns) (reachedAll ns) :=
  allVisited adds_correspondence h

end

/-! ## Rows of trees and their additions -/

theorem Progress.andThen_assoc (p : Progress) (f g : Context → Progress) :
    (p.andThen f).andThen g = p.andThen fun now => (f now).andThen g := by
  cases hp : p.defect with
  | some d => simp only [andThen, hp]
  | none =>
      cases hf : (f p.context).defect with
      | some d => simp only [andThen, hp, hf]
      | none => simp only [andThen, hp, hf, List.append_assoc]

theorem visitAll_append (options : TypstOptions) (bodies : Context → Emission) (c : Context)
    (ms ns : List Node) :
    visitAll options bodies c (ms ++ ns) =
      (visitAll options bodies c ms).andThen fun now => visitAll options bodies now ns := by
  induction ms generalizing c with
  | nil => rw [visitAll]; rfl
  | cons m ms ih =>
      rw [List.cons_append, visitAll, visitAll, Progress.andThen_assoc]
      simp only [ih]

/-- What holds after an addition is made: output and images are longer at most,
the definitions are those there were, and the footnotes marked are those marked
before and those a node come to refers to. -/
theorem Addition.onto_grows (a : Addition) (c : Context) :
    c.output <+: (a.onto c).context.output ∧
      c.assets <+: (a.onto c).context.assets ∧
      (a.onto c).context.definitions = c.definitions ∧
      ∀ identifier, (a.onto c).context.isVisited identifier =
        (c.isVisited identifier ||
          (c.definitions.hasNote identifier && a.references.contains identifier)) := by
  refine ⟨List.prefix_append _ _, List.prefix_append _ _, a.definitions_onto c, fun i => ?_⟩
  rw [Bool.eq_iff_iff, Bool.or_eq_true, Bool.and_eq_true]
  simp only [onto, Context.isVisited, Definitions.hasNote, Context.definitions, List.any_map,
    List.any_eq_true, Function.comp_apply, marked, Bool.and_eq_true, Bool.or_eq_true, beq_iff_eq]
  constructor
  · rintro ⟨note, hnote, hidentifier, hmark | hreferred⟩
    · exact Or.inl ⟨note, hnote, hidentifier, hmark⟩
    · exact Or.inr ⟨⟨note, hnote, hidentifier⟩, hidentifier ▸ hreferred⟩
  · rintro (⟨note, hnote, hidentifier, hmark⟩ | ⟨⟨note, hnote, hidentifier⟩, hreferred⟩)
    · exact ⟨note, hnote, hidentifier, Or.inl hmark⟩
    · exact ⟨note, hnote, hidentifier, Or.inr (hidentifier ▸ hreferred)⟩

/-- Setting a tree without documents makes one addition to all contexts that
resolve references alike, and setting trees in a row adds what each of them adds
by itself, as far as nothing stops it. -/
theorem emission_only_appends (options : TypstOptions) (levels : Nat) (c : Context) {n : Node}
    {ms ns : List Node} (hn : n.all (!·.isDocument) = true)
    (hms : allOf (!·.isDocument) ms = true) (hns : allOf (!·.isDocument) ns = true) :
    (∃ a : Addition, a.Covers (reached n) ∧ ∀ d : Context, d.Alike c →
      visit options (emitNotes options levels) d n = a.onto d ∧
      emit (emitNotes options levels) d (fragments (d.setting options) n) =
        (a.onto d).toEmission ∧
      d.output <+: (a.onto d).context.output ∧
      d.assets <+: (a.onto d).context.assets ∧
      (a.onto d).context.definitions = d.definitions ∧
      ∀ identifier, (a.onto d).context.isVisited identifier =
        (d.isVisited identifier ||
          (d.definitions.hasNote identifier && a.references.contains identifier))) ∧
    ∃ a b : Addition, a.Covers (reachedAll ms) ∧ b.Covers (reachedAll ns) ∧
      ∀ d : Context, d.Alike c →
        visitAll options (emitNotes options levels) d ms = a.onto d ∧
        visitAll options (emitNotes options levels) d ns = b.onto d ∧
        visitAll options (emitNotes options levels) d (ms ++ ns) = (a.andThen b).onto d ∧
        emit (emitNotes options levels) d (fragmentsAll (d.setting options) (ms ++ ns)) =
          ((a.andThen b).onto d).toEmission := by
  have hbodies := keepsDefinitions_emitNotes options levels
  constructor
  · have hadds : Adds c (fun d => visit options (emitNotes options levels) d n) (reached n) :=
      adds_visit hn
    obtain ⟨a, hcovers, hvisit⟩ := hadds
    simp only [] at hvisit
    refine ⟨a, hcovers, fun d hd => ⟨hvisit d hd, ?_, a.onto_grows d⟩⟩
    rw [← hvisit d hd]
    exact (sets_visit hbodies n d rfl).symm
  · have hfirst : Adds c (fun d => visitAll options (emitNotes options levels) d ms)
        (reachedAll ms) := adds_visitAll hms
    have hsecond : Adds c (fun d => visitAll options (emitNotes options levels) d ns)
        (reachedAll ns) := adds_visitAll hns
    obtain ⟨a, ha, hfirst⟩ := hfirst
    obtain ⟨b, hb, hsecond⟩ := hsecond
    simp only [] at hfirst hsecond
    refine ⟨a, b, ha, hb, fun d hd => ?_⟩
    have hboth : visitAll options (emitNotes options levels) d (ms ++ ns) =
        (a.andThen b).onto d := by
      rw [visitAll_append, hfirst d hd]
      exact Addition.onto_andThen a b d (hsecond _ (hd.onto a))
    refine ⟨hfirst d hd, hsecond d hd, hboth, ?_⟩
    rw [← hboth]
    exact (sets_visitAll hbodies (ms ++ ns) d rfl).symm

/-! A visit in two contexts. They differ in what was set, in the order and the
contents of the footnotes, in their marks and in a definition that is shadowed. -/

/-- A context in which nothing is marked. -/
def freshContext : Context where
  output := ["#par["]
  links := [("home", "/")]
  notes := [⟨"a", [.ofText "A"], false⟩, ⟨"b", [], false⟩, ⟨"c", [], false⟩]

/-- A context that resolves references as `freshContext` does. -/
def usedContext : Context where
  output := ["#quote(block: true)[\n", "#emph["]
  assets := [Asset.ofUrl "/logo.png"]
  links := [("home", "/"), ("home", "/index")]
  notes := [⟨"c", [], true⟩, ⟨"b", [.ofText "B"], false⟩, ⟨"a", [], false⟩]

/-- A table with a reference inside of a link, one in a merged cell, and one beyond
its columns. -/
def referringTable : Node :=
  .ofBranch (.table false [none, none])
    [.ofBranch (.tableRow false)
      [.ofBranch (.tableCell 2 1 false none)
          [.ofBranch (.linkReference "home" none .shortcut) [.ofLeaf (.footnoteReference "a")]],
        .ofBranch (.tableCell 1 1 true none) [.ofLeaf (.footnoteReference "b")],
        .ofBranch (.tableCell 1 1 false none) [.ofLeaf (.footnoteReference "b")]]]

/-- A paragraph that a stray row stops between two references. -/
def stoppedParagraph : Node :=
  .ofBranch .paragraph
    [.ofLeaf (.footnoteReference "c"), .ofBranch (.tableRow false) [],
      .ofLeaf (.footnoteReference "b")]

theorem emission_only_appends_in_used_context :
    ∃ a b : Addition,
      visitAll {} (emitNotes {} 1) freshContext [referringTable] = a.onto freshContext ∧
      visitAll {} (emitNotes {} 1) usedContext [referringTable, stoppedParagraph] =
        (a.andThen b).onto usedContext ∧
      a.references = ["a"] ∧ a.defect = none ∧
      b.references = ["c"] ∧ b.defect = some .strayRow := by
  have halike : usedContext.Alike freshContext := by
    constructor
    · funext identifier
      simp only [Definitions.url?, Context.definitions, usedContext, freshContext,
        List.lookup_cons, List.lookup_nil]
      cases identifier == "home" <;> rfl
    · funext identifier
      simp only [Definitions.hasNote, Context.definitions, usedContext, freshContext,
        List.map_cons, List.map_nil, List.any_cons, List.any_nil, Bool.or_false]
      cases "a" == identifier <;> cases "b" == identifier <;> cases "c" == identifier <;> rfl
  have htable : referringTable.all (!·.isDocument) = true := by decide
  have htables : allOf (!·.isDocument) [referringTable] = true := by decide
  have hparagraphs : allOf (!·.isDocument) [stoppedParagraph] = true := by decide
  obtain ⟨-, a, b, -, -, hsets⟩ :=
    emission_only_appends {} 1 freshContext htable htables hparagraphs
  obtain ⟨hfirst, hsecond, -⟩ := hsets freshContext ⟨rfl, rfl⟩
  obtain ⟨-, -, hboth, -⟩ := hsets usedContext halike
  refine ⟨a, b, hfirst, hboth, ?_, ?_, ?_, ?_⟩
  · exact congrArg (fun p : Progress => p.arrivals.filterMap reference?) hfirst.symm
  · exact congrArg (fun p : Progress => p.defect) hfirst.symm
  · exact congrArg (fun p : Progress => p.arrivals.filterMap reference?) hsecond.symm
  · exact congrArg (fun p : Progress => p.defect) hsecond.symm

end TypstPress.Typst
