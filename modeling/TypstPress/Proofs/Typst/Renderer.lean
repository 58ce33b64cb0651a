import TypstPress.Proofs.Typst.Run
import TypstPress.Typst.Renderer

/-!
# A renderer has no memory

A renderer keeps its context between calls, so what an earlier call wrote there could show in a
later one. It does not. `Context.Follows` ties a context to the account that `Typst.compile` keeps
without one: a footnote is marked in the context just when it is among the references made so far.
Every step of setting keeps the two together, adds to the output and the images what the step adds
in the account, and leaves the definitions alone (`emit_accords`); a step that fails is no
exception, which is why nothing has to be assumed of the tree.

A call begins with a context of its own, so the account that belongs to it starts from nothing
(`compile_eq_compile`). What a call answers is then a matter of its document and of the options,
which no call changes (`answers_eq_map`).
-/

namespace TypstPress.Typst

namespace Context

/-! ## Collecting into a context -/

theorem definitions_collectNode (c : Context) (n : Node) :
    (c.collectNode n).definitions = c.definitions.collectNode n := by
  unfold collectNode
  split
  · next identifier url title label m =>
      have hlink : c.definitions.url? identifier = c.links.lookup identifier := rfl
      simp only [Definitions.collectNode, hlink]
      split <;> rfl
  · next identifier content m =>
      have hnote : c.definitions.hasNote identifier =
          c.notes.any (·.identifier == identifier) := List.any_map
      simp only [Definitions.collectNode, hnote]
      split
      · rfl
      · simp only [definitions, List.map_append, List.map_cons, List.map_nil]
  · next hlink hnote =>
      rw [Definitions.collectNode]
      · intro identifier url title label m h
        exact hlink identifier url title label m h
      · intro identifier content m h
        exact hnote identifier content m h

theorem definitions_foldl (c : Context) (ns : List Node) :
    (ns.foldl collectNode c).definitions = ns.foldl Definitions.collectNode c.definitions := by
  induction ns generalizing c with
  | nil => rfl
  | cons n ns ih => rw [List.foldl_cons, List.foldl_cons, ih, definitions_collectNode]

theorem definitions_collect (tree : Node) :
    (collect {} tree).definitions = Definitions.collect tree :=
  definitions_foldl {} tree.walk

/-! ## Marks and references -/

/-- Whether the marked footnotes are those among the references made so far. -/
def Follows (c : Context) (cited : List String) : Prop :=
  ∀ note ∈ c.notes, note.visited = cited.contains note.identifier

/-- Collecting marks nothing. -/
theorem follows_collectNode {c : Context} (h : c.Follows []) (n : Node) :
    (c.collectNode n).Follows [] := by
  unfold collectNode
  split
  · split
    · exact h
    · exact h
  · split
    · exact h
    · intro note hnote
      rcases List.mem_append.1 hnote with hnote | hnote
      · exact h note hnote
      · rw [List.mem_singleton.1 hnote]
        rfl
  · exact h

theorem follows_collect {c : Context} (h : c.Follows []) (tree : Node) :
    (c.collect tree).Follows [] := by
  rw [collect]
  induction tree.walk generalizing c with
  | nil => exact h
  | cons n ns ih => exact ih (follows_collectNode h n)

/-- What collecting adds to a context is neither output nor an image. -/
theorem output_collect (c : Context) (tree : Node) :
    (c.collect tree).output = c.output ∧ (c.collect tree).assets = c.assets := by
  have hnode : ∀ (c : Context) (n : Node),
      (c.collectNode n).output = c.output ∧ (c.collectNode n).assets = c.assets := by
    intro c n
    unfold collectNode
    split
    · split <;> exact ⟨rfl, rfl⟩
    · split <;> exact ⟨rfl, rfl⟩
    · exact ⟨rfl, rfl⟩
  rw [collect]
  induction tree.walk generalizing c with
  | nil => exact ⟨rfl, rfl⟩
  | cons n ns ih => exact ⟨(ih _).1.trans (hnode c n).1, (ih _).2.trans (hnode c n).2⟩

theorem definitions_visit (c : Context) (identifier : String) :
    (c.visit identifier).definitions = c.definitions := by
  simp only [visit, definitions, List.map_map, Function.comp_def]

/-- Marking a footnote goes along with one more reference, defined or not. -/
theorem Follows.visit {c : Context} {cited : List String} (h : c.Follows cited)
    (identifier : String) :
    (c.visit identifier).Follows
      (if cited.contains identifier then cited else cited ++ [identifier]) := by
  intro note hnote
  obtain ⟨before, hbefore, rfl⟩ := List.mem_map.1 hnote
  rw [h before hbefore, Bool.eq_iff_iff, Bool.or_eq_true, beq_iff_eq]
  split
  · next hcited =>
      -- a further reference to the same footnote changes nothing
      exact or_iff_left_of_imp fun hi => hi ▸ hcited
  · simp only [List.contains_iff_mem, List.mem_append, List.mem_singleton]

/-- A collected footnote is marked when it was referred to. -/
theorem Follows.isVisited {c : Context} {cited : List String} (h : c.Follows cited)
    {note : String × List Node} (hnote : note ∈ c.definitions.notes) :
    c.isVisited note.1 = cited.contains note.1 := by
  obtain ⟨state, hstate, rfl⟩ := List.mem_map.1 hnote
  rw [Context.isVisited, Bool.eq_iff_iff, List.any_eq_true]
  constructor
  · rintro ⟨other, hother, hmarked⟩
    obtain ⟨hi, hmark⟩ := Bool.and_eq_true_iff.1 hmarked
    rw [h other hother, beq_iff_eq.1 hi] at hmark
    exact hmark
  · intro hcited
    exact ⟨state, hstate, by simp only [beq_self_eq_true, Bool.true_and, h state hstate, hcited]⟩

end Context

/-! ## Setting in a context -/

/-- Whether setting in the context `c` went as the account `o` tells: the pieces and images of the
account were added, the definitions are those of `c`, and the marks follow the references. -/
structure Emission.Accords (e : Emission) (c : Context) (o : Outcome) : Prop where
  output : e.context.output = c.output ++ o.source
  assets : e.context.assets = c.assets ++ o.assets
  definitions : e.context.definitions = c.definitions
  follows : e.context.Follows o.cited
  log : e.log = o.log
  defect : e.defect = o.defect

namespace Emission.Accords

/-- Nothing was set. -/
theorem still {c : Context} {cited : List String} (h : c.Follows cited) (defect : Option Defect) :
    Accords { context := c, defect } c { cited, defect } where
  output := (List.append_nil _).symm
  assets := (List.append_nil _).symm
  definitions := rfl
  follows := h
  log := rfl
  defect := rfl

/-- One emission after the other accords with one account after the other: after a defect neither
goes on, else both go on from what the first left. -/
theorem andThen {e : Emission} {c : Context} {o : Outcome} (h : e.Accords c o)
    {f : Context → Emission} {g : List String → Outcome}
    (hnext : (f e.context).Accords e.context (g o.cited)) :
    (e.andThen f).Accords c (o.followedBy g) := by
  unfold Emission.andThen Outcome.followedBy
  rw [h.defect]
  cases hd : o.defect with
  | some d => exact h
  | none =>
      exact
        { output := by rw [hnext.output, h.output, List.append_assoc]
          assets := by rw [hnext.assets, h.assets, List.append_assoc]
          definitions := hnext.definitions.trans h.definitions
          follows := hnext.follows
          log := by simp only [h.log, hnext.log]
          defect := hnext.defect }

end Emission.Accords

/-- Whether a way to set footnote bodies accords with an account of it in every context that holds
the definitions `d`. -/
def BodiesAccord (d : Definitions) (bodies : Context → Emission)
    (account : List String → Outcome) : Prop :=
  ∀ c cited, c.definitions = d → c.Follows cited → (bodies c).Accords c (account cited)

/-- The step: every fragment does to the context what it does to the account. -/
theorem emit_accords {d : Definitions} {bodies : Context → Emission}
    {account : List String → Outcome} (hbodies : BodiesAccord d bodies account)
    {c : Context} {cited : List String} (hc : c.definitions = d) (h : c.Follows cited)
    (fs : List Fragment) : (emit bodies c fs).Accords c (run account cited fs) := by
  induction fs generalizing c cited with
  | nil => exact .still h none
  | cons f fs ih =>
      cases f with
      | source s =>
          have hrest := ih (c := c.write s) hc h
          exact { hrest with
            output := hrest.output.trans (by simp [Context.write, run])
            assets := hrest.assets }
      | asset url =>
          have hrest := ih (c := c.use url) hc h
          exact { hrest with
            output := hrest.output
            assets := hrest.assets.trans (by simp [Context.use, run]) }
      | cite identifier =>
          have hvisit := c.definitions_visit identifier
          have hrest := ih (hvisit.trans hc) (h.visit identifier)
          exact { hrest with
            output := hrest.output
            assets := hrest.assets
            definitions := hrest.definitions.trans hvisit }
      | record r =>
          have hrest := ih hc h
          exact { hrest with log := congrArg (r :: ·) hrest.log }
      | noteBodies =>
          have hset := hbodies c cited hc h
          exact hset.andThen (ih (hset.definitions.trans hc) hset.follows)
      | defect d => exact .still h (some d)

theorem emitBodies_accords {d : Definitions} {bodies : Context → Emission}
    {account : List String → Outcome} (options : TypstOptions)
    (hbodies : BodiesAccord d bodies account) {c : Context} {cited : List String}
    (hc : c.definitions = d) (h : c.Follows cited) {notes : List (String × List Node)}
    (hnotes : notes ⊆ d.notes) :
    (emitBodies options bodies c notes).Accords c
      (runBodies { options, definitions := d } account cited notes) := by
  induction notes generalizing c cited with
  | nil => exact .still h none
  | cons note notes ih =>
      have hmem : note ∈ c.definitions.notes := hc ▸ hnotes List.mem_cons_self
      have hrest := List.subset_of_cons_subset hnotes
      rw [emitBodies, runBodies, h.isVisited hmem, Context.setting, hc]
      split
      · have hbody := emit_accords hbodies hc h
          (bodyFragments { options, definitions := d } note.1 note.2)
        exact hbody.andThen (ih (hbody.definitions.trans hc) hbody.follows hrest)
      · exact ih hc h hrest

theorem emitNotes_accords (options : TypstOptions) (d : Definitions) (levels : Nat) :
    BodiesAccord d (emitNotes options levels) (noteBodies { options, definitions := d } levels) := by
  induction levels with
  | zero => exact fun c cited _ h => .still h (some .endless)
  | succ levels ih =>
      intro c cited hc h
      rw [emitNotes, noteBodies, hc]
      exact emitBodies_accords options ih hc h (List.Subset.refl _)

/-- Setting a tree where nothing was referred to yet goes as `runTree` tells. -/
theorem Renderer.set_accords (r : Renderer) (h : r.context.Follows []) (tree : Node) :
    (r.set tree).Accords r.context
      (runTree { options := r.options, definitions := r.context.definitions } tree) := by
  have hlevels : r.context.definitions.notes.length = r.context.notes.length := List.length_map ..
  rw [Renderer.set, runTree, hlevels]
  exact emit_accords (emitNotes_accords r.options _ _) rfl h _

/-! ## Calls -/

namespace Renderer

/-- A renderer compiles a document as if it had no context, whatever an earlier call left there. -/
theorem compile_eq_compile (r : Renderer) (document : Node) :
    (r.compile document).1 = Typst.compile r.options document := by
  unfold compile Typst.compile
  by_cases hroot : document.isDocument = true
  · rw [if_pos hroot, if_pos hroot]
    obtain ⟨houtput, hassets⟩ := Context.output_collect {} document
    have hdefinitions := Context.definitions_collect document
    have hset := set_accords { r with context := Context.collect {} document }
      (Context.follows_collect (fun _ h => by cases h) document) document
    have hsource := hset.output
    have hasset := hset.assets
    simp only [houtput, hassets, hdefinitions, List.nil_append] at hsource hasset
    simp only [hdefinitions, hset.defect, hset.log, hsource, hasset]
    cases (runTree { options := r.options, definitions := Definitions.collect document }
      document).defect with
    | some d => rfl
    | none => rfl
  · rw [if_neg hroot, if_neg hroot]

theorem options_compile (r : Renderer) (document : Node) :
    (r.compile document).2.options = r.options := by
  unfold compile
  split
  · simp only
    split <;> rfl
  · rfl

/-- What a call with some options answers, told without a renderer. -/
def Call.outcome (options : TypstOptions) : Call → Answer
  | .compile document => .compiled (Typst.compile options document)
  | .renderToString document =>
    let compiled := Typst.compile options document
    .rendered { result := compiled.result.map (·.source), log := compiled.log }

theorem answer_eq_outcome (r : Renderer) (call : Call) :
    (r.answer call).1 = call.outcome r.options := by
  cases call with
  | compile document => exact congrArg Answer.compiled (r.compile_eq_compile document)
  | renderToString document =>
      simp only [answer, renderToString, Prod.map, Call.outcome, compile_eq_compile]

theorem options_answer (r : Renderer) (call : Call) :
    (r.answer call).2.options = r.options := by
  cases call with
  | compile document => exact r.options_compile document
  | renderToString document => exact r.options_compile document

theorem answers_eq_outcomes (r : Renderer) (calls : List Call) :
    (r.answers calls).1 = calls.map (Call.outcome r.options) := by
  induction calls generalizing r with
  | nil => rfl
  | cons call calls ih =>
      rw [answers, List.map_cons, ← answer_eq_outcome, ← options_answer r call, ← ih]

/-- A renderer has no memory: whatever its context holds, and whatever calls succeeded or failed
before, each call answers as a fresh renderer with the same options does, which is what compiling
the document without a renderer gives. -/
theorem answers_eq_map (r : Renderer) (calls : List Call) :
    (r.answers calls).1 = calls.map (fun call => (answer { options := r.options } call).1) ∧
      (r.answers calls).1 = calls.map (Call.outcome r.options) := by
  refine ⟨?_, r.answers_eq_outcomes calls⟩
  rw [answers_eq_outcomes]
  exact List.map_congr_left fun call _ => (answer_eq_outcome { options := r.options } call).symm

/-- There is something to forget: a call that fails leaves behind what it has set so far. -/
example : (compile { options := {} } (.ofBranch .document [.ofBranch .paragraph
    [.ofLeaf .thematicBreak], .ofBranch (.tableRow false) []])).2.context.output =
      ["#par[", "#thematic-break\n", "]\n"] := by
  cbv

end Renderer

end TypstPress.Typst
