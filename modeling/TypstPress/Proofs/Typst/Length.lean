import TypstPress.Typst.Length
import TypstPress.Proofs.Typst.Literal

/-!
# A relative length is written in few characters

The value of an image attribute is the one text of a document that is set
outside of literals, and `isRelativeLength` is what stands between it and the
markup around it. Each reader of the check either refuses or hands on the rest
of the text, and what it takes off the front are digits, signs, spaces, dots
and the letters of units. So a value that passes as a whole has no others, and
no quote among them (`plain_of_isRelativeLength`).

Where such values stand, and where the words for alignments do, is said at the
end, for all that has to look at these fragments one by one.
-/

namespace TypstPress.Typst

/-- The characters of relative lengths. -/
def isLengthChar (c : Char) : Bool :=
  isAsciiDigit c || c ∈ [' ', '.', '+', '-', '%', 'p', 't', 'm', 'c', 'i', 'n', 'e']

/-- Only characters of relative lengths were read to come from a text to what
follows. -/
def ReadsLength (cs rest : List Char) : Prop :=
  ∀ c ∈ cs, isLengthChar c = true ∨ c ∈ rest

theorem ReadsLength.trans {cs ds rest : List Char} (h : ReadsLength cs ds)
    (h' : ReadsLength ds rest) : ReadsLength cs rest := by
  intro c hc
  rcases h c hc with hc | hc
  · exact Or.inl hc
  · exact h' c hc

theorem ReadsLength.refl (cs : List Char) : ReadsLength cs cs :=
  fun _ hc => Or.inr hc

theorem ReadsLength.cons {c : Char} {cs rest : List Char} (hc : isLengthChar c = true)
    (h : ReadsLength cs rest) : ReadsLength (c :: cs) rest := by
  intro d hd
  rcases List.mem_cons.1 hd with rfl | hd
  · exact Or.inl hc
  · exact h d hd

theorem readsLength_dropWhile {p : Char → Bool} (hp : ∀ c, p c = true → isLengthChar c = true)
    (cs : List Char) : ReadsLength cs (cs.dropWhile p) := by
  induction cs with
  | nil => exact ReadsLength.refl []
  | cons c cs ih =>
      rw [List.dropWhile_cons]
      split
      · next hc => exact ReadsLength.cons (hp c hc) ih
      · exact ReadsLength.refl _

theorem readsLength_skipSpaces (cs : List Char) : ReadsLength cs (skipSpaces cs) := by
  refine readsLength_dropWhile ?_ cs
  intro c hc
  rw [eq_of_beq hc]
  rfl

theorem isLengthChar_of_digit {c : Char} (h : isAsciiDigit c = true) :
    isLengthChar c = true := by
  rw [isLengthChar, h, Bool.true_or]

theorem readsLength_readDigits {cs rest : List Char} (h : readDigits cs = some rest) :
    ReadsLength cs rest := by
  unfold readDigits at h
  split at h
  · split at h
    · next c ds hc =>
        injection h with h
        rw [← h]
        exact (readsLength_dropWhile (fun _ => isLengthChar_of_digit) ds).cons
          (isLengthChar_of_digit hc)
    · cases h
  · cases h

theorem readsLength_readNumber {cs rest : List Char} (h : readNumber cs = some rest) :
    ReadsLength cs rest := by
  unfold readNumber at h
  split at h
  · exact (readsLength_readDigits h).cons rfl
  · split at h
    · next ds hds =>
        have hwhole := readsLength_readDigits hds
        cases hfraction : readDigits ds with
        | some es =>
            rw [hfraction] at h
            injection h with h
            rw [← h]
            exact hwhole.trans ((readsLength_readDigits hfraction).cons rfl)
        | none =>
            rw [hfraction] at h
            injection h with h
            rw [← h]
            exact hwhole
    · exact readsLength_readDigits h

theorem readsLength_readUnit {cs rest : List Char} (h : readUnit cs = some rest) :
    ReadsLength cs rest := by
  unfold readUnit at h
  split at h
  case h_6 =>
    cases h
    exact (ReadsLength.refl _).cons rfl
  case h_7 => cases h
  all_goals
    cases h
    exact ((ReadsLength.refl _).cons rfl).cons rfl

theorem readsLength_readTerm {cs rest : List Char} (h : readTerm cs = some rest) :
    ReadsLength cs rest := by
  obtain ⟨ds, hnumber, hunit⟩ := Option.bind_eq_some_iff.1 h
  exact (readsLength_readNumber hnumber).trans (readsLength_readUnit hunit)

theorem readsLength_readSign {cs rest : List Char} (h : readSign cs = some rest) :
    ReadsLength cs rest := by
  unfold readSign at h
  split at h
  · injection h with h
    rw [← h]
    exact (ReadsLength.refl _).cons rfl
  · injection h with h
    rw [← h]
    exact (ReadsLength.refl _).cons rfl
  · cases h

theorem readsLength_of_isLengthTail {fuel : Nat} {cs : List Char}
    (h : isLengthTail fuel cs = true) : ReadsLength cs [] := by
  have hspaces := readsLength_skipSpaces cs
  induction fuel generalizing cs with
  | zero =>
      rw [isLengthTail, List.isEmpty_iff] at h
      rw [h] at hspaces
      exact hspaces
  | succ fuel ih =>
      rw [isLengthTail] at h
      split at h
      · next hnil =>
          rw [hnil] at hspaces
          exact hspaces
      · next c ds hcons =>
          rw [hcons] at hspaces
          split at h
          · next es hsign =>
              split at h
              · next rest hterm =>
                  exact hspaces.trans ((readsLength_readSign hsign).trans
                    ((readsLength_skipSpaces es).trans ((readsLength_readTerm hterm).trans
                      (ih h (readsLength_skipSpaces rest)))))
              · cases h
          · cases h

theorem isLengthChar_of_isRelativeLength {s : String} (h : isRelativeLength s = true) :
    ∀ c ∈ s.toList, isLengthChar c = true := by
  have hsign : ∀ cs, ReadsLength cs ((readSign cs).getD cs) := by
    intro cs
    cases hs : readSign cs with
    | none => exact ReadsLength.refl cs
    | some rest => exact readsLength_readSign hs
  rw [isRelativeLength, isLength] at h
  split at h
  · next rest hterm =>
      have hread := (readsLength_skipSpaces s.toList).trans ((hsign _).trans
        ((readsLength_skipSpaces _).trans ((readsLength_readTerm hterm).trans
          (readsLength_of_isLengthTail h))))
      intro c hc
      exact (hread c hc).resolve_right List.not_mem_nil
  · cases h

theorem plain_of_isRelativeLength {s : String} (h : isRelativeLength s = true) : Plain s := by
  intro hquote
  have := isLengthChar_of_isRelativeLength h '"' hquote
  revert this
  decide

/-! ## Fragments outside of literals -/

/-- An argument of an image is a name with its length, or it is left out with a
record. -/
theorem eq_of_mem_imageArguments {url : String} {attributes : Attributes} {names : List String}
    {f : Fragment} (hf : f ∈ imageArguments url attributes names) :
    (∃ name ∈ names, ∃ value, isRelativeLength value = true ∧
      f = .source (", " ++ name ++ ": " ++ value)) ∨ ∃ r, f = .record r := by
  induction names with
  | nil => cases hf
  | cons name names ih =>
      have hrest (hf : f ∈ imageArguments url attributes names) :
          (∃ other ∈ name :: names, ∃ value, isRelativeLength value = true ∧
            f = .source (", " ++ other ++ ": " ++ value)) ∨ ∃ r, f = .record r :=
        (ih hf).imp_left fun ⟨other, hother, harg⟩ => ⟨other, .tail _ hother, harg⟩
      rw [imageArguments] at hf
      split at hf
      · exact hrest hf
      · next value _ =>
          split at hf
          · next hvalue =>
              rcases List.mem_cons.1 hf with rfl | hf
              · exact .inl ⟨name, .head _, value, hvalue, rfl⟩
              · exact hrest hf
          · rcases List.mem_cons.1 hf with rfl | hf
            · exact .inr ⟨_, rfl⟩
            · exact hrest hf

theorem plain_imageArgument {name value : String} (hname : Plain name)
    (hvalue : isRelativeLength value = true) : Plain (", " ++ name ++ ": " ++ value) :=
  plain_append (plain_append (plain_append (by decide) hname) (by decide))
    (plain_of_isRelativeLength hvalue)

/-- The alignments of columns are set as words with commas behind them. -/
theorem eq_of_mem_alignments {words : List String} {f : Fragment}
    (hf : f ∈ words.flatMap fun alignment => [Fragment.source alignment, .source ", "]) :
    ∃ piece ∈ ", " :: words, f = .source piece := by
  obtain ⟨word, hword, hf⟩ := List.mem_flatMap.1 hf
  rcases List.mem_cons.1 hf with rfl | hf
  · exact ⟨word, .tail _ hword, rfl⟩
  · exact ⟨", ", .head _, List.mem_singleton.1 hf⟩

theorem plain_of_mem_alignments {columns : List (Option String)} {words : List String}
    (h : columnAlignments columns = .ok words) : ∀ piece ∈ ", " :: words, Plain piece :=
  List.forall_mem_cons.2 ⟨by decide, plain_of_columnAlignments h⟩

end TypstPress.Typst
