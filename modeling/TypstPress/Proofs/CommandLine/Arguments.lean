import TypstPress.CommandLine.Arguments
import TypstPress.Log.Level

/-!
# The log level that a command line asks for

A log is set up with a word for its level, and two words are mistakes there.
Neither gets through: the level is chosen from a list, and a flag without a
value asks for the level of no name, which is that of information. The choice
is made when the flag acts, so the invariant is one of the draft
(`levelIsKnown_read`), and it is the initial draft that carries the default.
-/

namespace TypstPress

namespace Arguments

/-- Whether the level is one of those that are offered, or has no name. -/
def levelIsKnown (a : Arguments) : Bool := ("" :: Flag.levels).contains a.logLevel

theorem levelIsKnown_withLogLevel {a a' : Arguments} {value : Option String}
    (h : a.withLogLevel value = .ok a') : a'.levelIsKnown = true := by
  cases value with
  | none =>
      cases h
      rfl
  | some level =>
      rw [withLogLevel] at h
      split at h
      · next hlevel =>
          cases h
          rw [levelIsKnown, List.contains_cons, hlevel, Bool.or_true]
      · cases h

/-- Whether what a flag leads to asks for a known level, if it asks for a
compilation at all. -/
def outcomeIsKnown : Arguments ⊕ Request → Bool
  | .inl a => a.levelIsKnown
  | .inr (.compile a) => a.levelIsKnown
  | .inr _ => true

theorem outcomeIsKnown_apply {a : Arguments} {use : Use} {outcome : Arguments ⊕ Request}
    (ha : a.levelIsKnown = true) (h : a.apply use = .ok outcome) :
    outcomeIsKnown outcome = true := by
  obtain ⟨flag, value⟩ := use
  cases flag with
  | help | version =>
      cases h
      rfl
  | output | assetsManifest | noImageAttributes | noTableSpans | logFile | trace =>
      cases h
      exact ha
  | preamble | preambleFile =>
      rw [apply] at h
      dsimp only at h
      split at h
      · cases h
      · cases h
        exact ha
  | logLevel =>
      rw [apply] at h
      dsimp only at h
      cases hlevel : a.withLogLevel value with
      | error e =>
          rw [hlevel] at h
          cases h
      | ok a' =>
          rw [hlevel] at h
          cases h
          exact levelIsKnown_withLogLevel hlevel

theorem outcomeIsKnown_applyAll {a : Arguments} {uses : List Use}
    {outcome : Arguments ⊕ Request} (ha : a.levelIsKnown = true)
    (h : a.applyAll uses = .ok outcome) : outcomeIsKnown outcome = true := by
  induction uses generalizing a with
  | nil =>
      cases h
      exact ha
  | cons use uses ih =>
      rw [applyAll] at h
      cases hfirst : a.apply use with
      | error e =>
          rw [hfirst] at h
          cases h
      | ok first =>
          have hknown := outcomeIsKnown_apply ha hfirst
          rw [hfirst] at h
          cases first with
          | inl a' => exact ih hknown h
          | inr request =>
              cases h
              exact hknown

section

variable {draft : Draft} (hdraft : draft.arguments.levelIsKnown = true)

include hdraft

theorem outcomeIsKnown_use {uses : List Use} {outcome : Draft ⊕ Request}
    (h : draft.use uses = .ok outcome) :
    outcomeIsKnown (outcome.map Draft.arguments id) = true := by
  rw [Draft.use] at h
  cases huses : draft.arguments.applyAll uses with
  | error e =>
      rw [huses] at h
      cases h
  | ok all =>
      have hknown := outcomeIsKnown_applyAll hdraft huses
      rw [huses] at h
      cases all with
      | inl a =>
          cases h
          exact hknown
      | inr request =>
          cases h
          exact hknown

/-- A compilation that the words of a draft come to asks for a known level. -/
theorem levelIsKnown_read {words : List Word} {a : Arguments}
    (h : draft.read words = .ok (.compile a)) : a.levelIsKnown = true := by
  fun_induction Draft.read draft words with
  | case1 draft =>
      rw [Draft.finish] at h
      split at h
      · cases h
      · split at h
        · cases h
          exact hdraft
        · cases h
  | case10 | case13 | case16 | case17 => cases h
  | case11 draft flag short attached cluster _ rest _ next huse ih
  | case14 draft flag short attached cluster _ last value rest _ next huse ih =>
      exact ih (outcomeIsKnown_use hdraft huse) h
  | case12 draft flag short attached cluster _ rest _ request huse
  | case15 draft flag short attached cluster _ last value rest _ request huse =>
      cases h
      exact outcomeIsKnown_use hdraft huse
  | case2 _ _ _ _ ih | case3 _ _ _ _ ih | case4 _ _ _ _ _ ih | case5 _ _ _ _ _ ih
  | case6 _ _ _ _ ih | case7 _ _ _ _ ih | case8 _ _ _ ih | case9 _ _ _ ih =>
      exact ih hdraft h

end

/-- The level that a command line asks for is one that a log can be set up with. -/
theorem resolve_logLevel {texts : List String} {a : Arguments}
    (h : read texts = .ok (.compile a)) :
    ∃ level, (LevelRequest.word a.logLevel).resolve = .ok level := by
  rw [read] at h
  cases hwords : Word.ofTexts texts with
  | error e =>
      rw [hwords] at h
      cases h
  | ok words =>
      rw [hwords] at h
      have hdraft : ({} : Draft).arguments.levelIsKnown = true := rfl
      have hknown := levelIsKnown_read hdraft h
      rw [levelIsKnown, List.contains_iff_mem] at hknown
      have hresolve : ∀ level ∈ "" :: Flag.levels,
          (LevelRequest.word level).resolve.toOption.isSome = true := by
        decide
      cases hlevel : (LevelRequest.word a.logLevel).resolve with
      | ok level => exact ⟨level, rfl⟩
      | error fault =>
          have hlost := hresolve _ hknown
          rw [hlevel] at hlost
          cases hlost

end Arguments

end TypstPress
