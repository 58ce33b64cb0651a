import TypstPress.Typst.Fragment

/-!
# Reading a source from the left

What a source says, which images it calls and whether its brackets match is each
found out by a reader that takes one character after the other and remembers
something else. Two things hold whatever it remembers, and are said here of any
step function.

A reading splits along concatenation, so that a source can be read piece by piece
(`advance_join`). And a reader that follows literals, which is to say what it does
with a character, a backslash and the character behind one (`ReadsLiteral`), reads
what `escape` makes of a text as that text, whatever the text is, and is still in
the literal behind it (`ReadsLiteral.advance_escape`).
-/

namespace TypstPress.Typst

variable {σ : Type} {step : σ → Char → σ}

/-- What a reader remembers behind a string. -/
def advance (step : σ → Char → σ) (x : σ) (s : String) : σ := s.toList.foldl step x

/-- What a reader remembers behind several pieces. -/
def advanceAll (step : σ → Char → σ) (x : σ) (pieces : List String) : σ :=
  pieces.foldl (advance step) x

theorem advance_append (x : σ) (s t : String) :
    advance step x (s ++ t) = advance step (advance step x s) t := by
  rw [advance, String.toList_append, List.foldl_append]
  rfl

theorem advanceAll_append (x : σ) (ps qs : List String) :
    advanceAll step x (ps ++ qs) = advanceAll step (advanceAll step x ps) qs :=
  List.foldl_append

/-- The pieces of a source are read one after the other. -/
theorem advance_join (x : σ) (pieces : List String) :
    advance step x (String.join pieces) = advanceAll step x pieces := by
  rw [advance, String.toList_join, List.foldl_flatMap]
  rfl

/-- Characters that a reader takes no note of. -/
theorem foldl_of_forall_eq {x : σ} {cs : List Char} (h : ∀ c ∈ cs, step x c = x) :
    cs.foldl step x = x := by
  induction cs with
  | nil => rfl
  | cons c cs ih =>
      rw [List.forall_mem_cons] at h
      rw [List.foldl_cons, h.1, ih h.2]

/-! ## Inside of literals -/

/-- The character that stands behind a backslash. -/
def unescapeChar : Char → Char
  | 'n' => '\n'
  | 't' => '\t'
  | 'r' => '\r'
  | c => c

theorem escapeChar_cases (c : Char) :
    (∃ d, escapeChar c = ['\\', d] ∧ unescapeChar d = c) ∨
      (escapeChar c = [c] ∧ c ≠ '"' ∧ c ≠ '\\') := by
  unfold escapeChar
  split
  · exact Or.inl ⟨_, rfl, rfl⟩
  · exact Or.inl ⟨_, rfl, rfl⟩
  · exact Or.inl ⟨_, rfl, rfl⟩
  · exact Or.inl ⟨_, rfl, rfl⟩
  · exact Or.inl ⟨_, rfl, rfl⟩
  · next hslash hquote _ _ _ => exact Or.inr ⟨rfl, hquote, hslash⟩

/-- That a reader follows a literal. Behind a text in it the reader is in one of
the states `inside`, and behind a backslash after that text in one of the states
`escaped`. -/
structure ReadsLiteral (step : σ → Char → σ) (inside escaped : List Char → σ) : Prop where
  text : ∀ current {c}, c ≠ '"' → c ≠ '\\' → step (inside current) c = inside (current ++ [c])
  backslash : ∀ current, step (inside current) '\\' = escaped current
  behind : ∀ current c, step (escaped current) c = inside (current ++ [unescapeChar c])

namespace ReadsLiteral

variable {inside escaped : List Char → σ}

theorem foldl_escapeChar (h : ReadsLiteral step inside escaped) (current : List Char) (c : Char) :
    (escapeChar c).foldl step (inside current) = inside (current ++ [c]) := by
  rcases escapeChar_cases c with ⟨d, hc, hd⟩ | ⟨hc, hquote, hslash⟩
  · rw [hc, List.foldl_cons, List.foldl_cons, List.foldl_nil, h.backslash, h.behind, hd]
  · rw [hc, List.foldl_cons, List.foldl_nil, h.text current hquote hslash]

theorem foldl_escapeChars (h : ReadsLiteral step inside escaped) (current cs : List Char) :
    (escapeChars cs).foldl step (inside current) = inside (current ++ cs) := by
  induction cs generalizing current with
  | nil =>
      rw [List.append_nil]
      rfl
  | cons c cs ih =>
      rw [escapeChars, List.flatMap_cons, ← escapeChars, List.foldl_append, h.foldl_escapeChar, ih,
        List.append_assoc, List.singleton_append]

/-- An escaped text is read as the text. -/
theorem advance_escape (h : ReadsLiteral step inside escaped) (current : List Char) (s : String) :
    advance step (inside current) (escape s) = inside (current ++ s.toList) := by
  rw [advance, escape, String.toList_ofList, h.foldl_escapeChars]

/-- A literal that is set in three pieces, of which the text is one. -/
theorem advanceAll_literal (h : ReadsLiteral step inside escaped) {x y : σ} {before after : String}
    (current : List Char) {content : String} (hbefore : advance step x before = inside current)
    (hafter : advance step (inside (current ++ content.toList)) after = y) :
    advanceAll step x [before, escape content, after] = y := by
  show advance step (advance step (advance step x before) (escape content)) after = y
  rw [hbefore, h.advance_escape, hafter]

end ReadsLiteral

end TypstPress.Typst
