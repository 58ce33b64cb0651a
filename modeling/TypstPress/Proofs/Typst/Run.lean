import TypstPress.Typst.Compile

/-!
# A run is read off its fragments

`run` threads the list of footnotes referred to through the fragments, and
the bodies that are set at the end depend on that list. It would be awkward
to carry that state through every proof about a document, and it is not
needed: as long as no document stands inside another one, a run is a
homomorphism on its fragments. `run_append` is the law, and its consequences
read the source, the images, the references and the first defect of a run off
the fragments alone (`run_result`).

The bodies of footnotes are brought into the same form. `noteFragments` lists
the fragments of the bodies that get set, so that a whole document is one
list of fragments that is run once (`run_document`). All that the other files
say about compiling they say about that list.
-/

namespace TypstPress.Typst

/-! ## What a list of fragments brings about -/

/-- The piece of source that a fragment is. -/
def Fragment.source? : Fragment → Option String
  | .source s => some s
  | _ => none

/-- The image that a fragment uses. -/
def Fragment.asset? : Fragment → Option String
  | .asset url => some url
  | _ => none

/-- The footnote that a fragment refers to. -/
def Fragment.cite? : Fragment → Option String
  | .cite identifier => some identifier
  | _ => none

/-- The defect that a fragment stops at. -/
def Fragment.defect? : Fragment → Option Defect
  | .defect d => some d
  | _ => none

/-- The pieces of source in order. -/
def sources (fs : List Fragment) : List String := fs.filterMap Fragment.source?

/-- The images used, in order. -/
def assetUrls (fs : List Fragment) : List String := fs.filterMap Fragment.asset?

/-- The footnotes referred to, in order and with repetition. -/
def citations (fs : List Fragment) : List String := fs.filterMap Fragment.cite?

/-- The defect at which setting the fragments stops. -/
def firstDefect (fs : List Fragment) : Option Defect := fs.findSome? Fragment.defect?

/-- The references after further ones; each is listed once. -/
def citeAll (cited identifiers : List String) : List String :=
  identifiers.foldl (fun cited i => if cited.contains i then cited else cited ++ [i]) cited

theorem sources_append (fs gs : List Fragment) :
    sources (fs ++ gs) = sources fs ++ sources gs :=
  List.filterMap_append

theorem citations_append (fs gs : List Fragment) :
    citations (fs ++ gs) = citations fs ++ citations gs :=
  List.filterMap_append

theorem firstDefect_append (fs gs : List Fragment) :
    firstDefect (fs ++ gs) = (firstDefect fs).or (firstDefect gs) :=
  List.findSome?_append

theorem firstDefect_append_eq_none {fs gs : List Fragment} :
    firstDefect (fs ++ gs) = none ↔ firstDefect fs = none ∧ firstDefect gs = none := by
  rw [firstDefect_append, Option.or_eq_none_iff]

theorem mem_citeAll {identifier : String} {cited is : List String} :
    identifier ∈ citeAll cited is ↔ identifier ∈ cited ∨ identifier ∈ is := by
  induction is generalizing cited with
  | nil => simp [citeAll]
  | cons i is ih =>
      rw [show citeAll cited (i :: is) =
        citeAll (if cited.contains i then cited else cited ++ [i]) is from rfl, ih]
      by_cases hi : cited.contains i = true
      · rw [if_pos hi, List.mem_cons]
        have himem : i ∈ cited := List.contains_iff_mem.1 hi
        constructor
        · rintro (h | h)
          · exact Or.inl h
          · exact Or.inr (Or.inr h)
        · rintro (h | rfl | h)
          · exact Or.inl h
          · exact Or.inl himem
          · exact Or.inr h
      · rw [if_neg hi, List.mem_append, List.mem_singleton, List.mem_cons, or_assoc]

/-! ## Running -/

theorem followedBy_of_defect {o : Outcome} {d : Defect} (h : o.defect = some d)
    (next : List String → Outcome) : o.followedBy next = o := by
  rw [Outcome.followedBy]
  simp only [h]

theorem followedBy_congr {o : Outcome} {next next' : List String → Outcome}
    (h : o.defect = none → next o.cited = next' o.cited) :
    o.followedBy next = o.followedBy next' := by
  cases hd : o.defect with
  | some d => rw [followedBy_of_defect hd, followedBy_of_defect hd]
  | none => simp only [Outcome.followedBy, hd, h hd]

theorem followedBy_assoc (o : Outcome) (f g : List String → Outcome) :
    (o.followedBy f).followedBy g = o.followedBy fun cited => (f cited).followedBy g := by
  cases hd : o.defect with
  | some d => rw [followedBy_of_defect hd, followedBy_of_defect hd, followedBy_of_defect hd]
  | none =>
      cases hf : (f o.cited).defect with
      | some d => simp [Outcome.followedBy, hd, hf]
      | none => simp [Outcome.followedBy, hd, hf]

/-- Running is a homomorphism: what comes later starts from the references
made before, and does not start at all after a defect. -/
theorem run_append (bodies : List String → Outcome) (cited : List String)
    (fs gs : List Fragment) :
    run bodies cited (fs ++ gs) =
      (run bodies cited fs).followedBy fun cited => run bodies cited gs := by
  induction fs generalizing cited with
  | nil => simp [run, Outcome.followedBy]
  | cons f fs ih =>
      cases f with
      | source s | asset s | record s =>
          simp only [List.cons_append, run, ih, Outcome.followedBy]
          cases hd : (run bodies cited fs).defect <;> simp only [hd]
      | cite identifier => simp only [List.cons_append, run, ih]
      | noteBodies =>
          -- the bodies may stop the run, or add to the references that the rest sees
          simp only [List.cons_append, run, followedBy_assoc]
          exact followedBy_congr fun _ => ih _
      | defect d => simp [run, Outcome.followedBy]

theorem run_congr {fs : List Fragment} (h : .noteBodies ∉ fs)
    (bodies bodies' : List String → Outcome) (cited : List String) :
    run bodies cited fs = run bodies' cited fs := by
  induction fs generalizing cited with
  | nil => rfl
  | cons f fs ih =>
      rw [List.mem_cons, not_or] at h
      cases f with
      | source s | asset s | record s => simp only [run, ih h.2]
      | cite identifier => simp only [run, ih h.2]
      | noteBodies => exact absurd rfl h.1
      | defect d => simp only [run]

theorem run_defect {fs : List Fragment} (h : .noteBodies ∉ fs)
    (bodies : List String → Outcome) (cited : List String) :
    (run bodies cited fs).defect = firstDefect fs := by
  induction fs generalizing cited with
  | nil => rfl
  | cons f fs ih =>
      rw [List.mem_cons, not_or] at h
      cases f with
      | source s | asset s | record s => exact ih h.2 cited
      | cite identifier => exact ih h.2 _
      | noteBodies => exact absurd rfl h.1
      | defect d => rfl

/-- What a run without defects brings about: the pieces, the images and the
references of its fragments. -/
theorem run_result {fs : List Fragment} (h : .noteBodies ∉ fs)
    (hd : firstDefect fs = none) (bodies : List String → Outcome) (cited : List String) :
    (run bodies cited fs).source = sources fs ∧
      (run bodies cited fs).assets = (assetUrls fs).map Asset.ofUrl ∧
      (run bodies cited fs).cited = citeAll cited (citations fs) := by
  induction fs generalizing cited with
  | nil => exact ⟨rfl, rfl, rfl⟩
  | cons f fs ih =>
      rw [List.mem_cons, not_or] at h
      cases f with
      | source s =>
          obtain ⟨hs, ha, hc⟩ := ih h.2 hd cited
          exact ⟨congrArg (s :: ·) hs, ha, hc⟩
      | asset url =>
          obtain ⟨hs, ha, hc⟩ := ih h.2 hd cited
          exact ⟨hs, congrArg (Asset.ofUrl url :: ·) ha, hc⟩
      | record r => exact ih h.2 hd cited
      | cite identifier => exact ih h.2 hd _
      | noteBodies => exact absurd rfl h.1
      | defect d => cases hd

/-! ## Footnote bodies as fragments -/

/-- The footnotes whose bodies are set, in order: those referred to when their
turn comes. -/
def settledNotes (s : Setting) :
    List String → List (String × List Node) → List (String × List Node)
  | _, [] => []
  | cited, note :: notes =>
    if cited.contains note.1 then
      note ::
        settledNotes s (citeAll cited (citations (bodyFragments s note.1 note.2))) notes
    else settledNotes s cited notes

/-- The fragments of the bodies that are set. -/
def noteFragments (s : Setting) (cited : List String) (notes : List (String × List Node)) :
    List Fragment :=
  (settledNotes s cited notes).flatMap fun note => bodyFragments s note.1 note.2

theorem settledNotes_sublist (s : Setting) (cited : List String)
    (notes : List (String × List Node)) : (settledNotes s cited notes).Sublist notes := by
  induction notes generalizing cited with
  | nil => exact List.Sublist.refl []
  | cons note notes ih =>
      rw [settledNotes]
      split
      · exact (ih _).cons_cons note
      · exact (ih _).cons note

theorem noteBodies_not_mem_bodyFragments {s : Setting} {identifier : String}
    {content : List Node} (h : .noteBodies ∉ fragmentsAll s content) :
    .noteBodies ∉ bodyFragments s identifier content := by
  simp [bodyFragments, h]

theorem noteBodies_not_mem_noteFragments {s : Setting} {cited : List String}
    {notes : List (String × List Node)}
    (h : ∀ note ∈ notes, .noteBodies ∉ fragmentsAll s note.2) :
    .noteBodies ∉ noteFragments s cited notes := by
  intro hmem
  obtain ⟨note, hnote, hbody⟩ := List.mem_flatMap.1 hmem
  have hnotes := (settledNotes_sublist s cited notes).subset hnote
  exact noteBodies_not_mem_bodyFragments (h note hnotes) hbody

/-- Setting the bodies one by one is running their fragments. -/
theorem runBodies_eq_run {s : Setting} {notes : List (String × List Node)}
    (h : ∀ note ∈ notes, .noteBodies ∉ fragmentsAll s note.2)
    (bodies bodies' : List String → Outcome) (cited : List String) :
    runBodies s bodies cited notes = run bodies' cited (noteFragments s cited notes) := by
  induction notes generalizing cited with
  | nil => rfl
  | cons note notes ih =>
      have hrest := fun n hn => h n (List.mem_cons_of_mem note hn)
      have hbody : .noteBodies ∉ bodyFragments s note.1 note.2 :=
        noteBodies_not_mem_bodyFragments (h note List.mem_cons_self)
      rw [runBodies, noteFragments, settledNotes]
      split
      · rw [List.flatMap_cons, run_append, run_congr hbody bodies bodies']
        refine followedBy_congr fun hd => ?_
        rw [run_defect hbody] at hd
        rw [(run_result hbody hd bodies' cited).2.2]
        exact ih hrest _
      · exact ih hrest _

/-- The fragments of a document up to its footnote bodies. -/
def textFragments (s : Setting) (children : List Node) : List Fragment :=
  fragmentsAll s children ++ [.source "\n", .source "#hide(place(top+left, [\n"]

/-- The fragments of a document with those of its footnote bodies. -/
def documentFragments (s : Setting) (children : List Node) : List Fragment :=
  textFragments s children ++
    noteFragments s (citeAll [] (citations (fragmentsAll s children))) s.definitions.notes ++
    [.source "]))\n"]

theorem citations_textFragments (s : Setting) (children : List Node) :
    citations (textFragments s children) = citations (fragmentsAll s children) := by
  rw [textFragments, citations_append]
  exact List.append_nil _

theorem noteBodies_not_mem_textFragments {s : Setting} {children : List Node}
    (h : .noteBodies ∉ fragmentsAll s children) :
    .noteBodies ∉ textFragments s children := by
  simp [textFragments, h]

theorem noteBodies_not_mem_documentFragments {s : Setting} {children : List Node}
    (hc : .noteBodies ∉ fragmentsAll s children)
    (hn : ∀ note ∈ s.definitions.notes, .noteBodies ∉ fragmentsAll s note.2) :
    .noteBodies ∉ documentFragments s children := by
  rw [documentFragments, List.mem_append, List.mem_append]
  rintro ((h | h) | h)
  · exact noteBodies_not_mem_textFragments hc h
  · exact noteBodies_not_mem_noteFragments hn h
  · simp at h

/-- A document without inner ones is run as one list of fragments. -/
theorem run_document {s : Setting} {children : List Node} {m : Metadata}
    (hc : .noteBodies ∉ fragmentsAll s children)
    (hn : ∀ note ∈ s.definitions.notes, .noteBodies ∉ fragmentsAll s note.2)
    (bodies : List String → Outcome) :
    runTree s (.branch .document children m) =
      run bodies [] (documentFragments s children) := by
  have htext := noteBodies_not_mem_textFragments hc
  have hsplit : fragments s (.branch .document children m) =
      textFragments s children ++ [.noteBodies, .source "]))\n"] := by
    simp [fragments, textFragments]
  rw [runTree, hsplit, run_append, documentFragments, List.append_assoc, run_append,
    run_congr htext _ bodies]
  refine followedBy_congr fun hd => ?_
  rw [run_defect htext] at hd
  rw [(run_result htext hd bodies []).2.2, citations_textFragments, run, noteBodies,
    runBodies_eq_run hn _ bodies, run_append]
  exact followedBy_congr fun _ => run_congr (by simp) _ _ _

end TypstPress.Typst
