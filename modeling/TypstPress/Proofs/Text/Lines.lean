import TypstPress.Text.Lines

/-!
# Lines side by side

What stands behind a line feed is cut into lines as if it stood alone, and what
stands in front of it as well (`linesKept_append`). A line feed is the only line
end of which this is true without a second look: a carriage return at the end of
one text takes in a line feed at the start of the next.
-/

namespace TypstPress.Text

theorem linesKept_eq_nil_iff {cs : List Char} : linesKept cs = [] ↔ cs = [] := by
  constructor
  · intro h
    rw [← flatten_linesKept cs, h]
    rfl
  · rintro rfl
    rfl

variable {c : Char} {cs : List Char}

/-- A line end is a line of its own, but for a carriage return in front of a line
feed. -/
theorem linesKept_of_lineEnd (hc : isLineEnd c = true)
    (h : ∀ rest, c = '\r' → cs = '\n' :: rest → False) :
    linesKept (c :: cs) = [c] :: linesKept cs := by
  rw [linesKept.eq_3 c cs h, if_pos hc]

/-- Any other character stands at the start of the first line. -/
theorem linesKept_of_not_lineEnd (hc : isLineEnd c = false) (cs : List Char) :
    linesKept (c :: cs) = (c :: (linesKept cs).headD []) :: (linesKept cs).tail := by
  have h : ∀ rest, c = '\r' → cs = '\n' :: rest → False := by
    rintro rest rfl -
    cases hc
  rw [linesKept.eq_3 c cs h, if_neg (by simp [hc])]
  cases linesKept cs <;> rfl

theorem linesKept_append_lineFeed (cs ds : List Char) :
    linesKept (cs ++ '\n' :: ds) = linesKept (cs ++ ['\n']) ++ linesKept ds := by
  have hinside : ∀ {c : Char} {rest : List Char}, isLineEnd c = false →
      linesKept (rest ++ '\n' :: ds) = linesKept (rest ++ ['\n']) ++ linesKept ds →
      linesKept (c :: rest ++ '\n' :: ds) = linesKept (c :: rest ++ ['\n']) ++ linesKept ds := by
    intro c rest hc ih
    obtain ⟨line, lines, hlines⟩ : ∃ line lines, linesKept (rest ++ ['\n']) = line :: lines :=
      List.exists_cons_of_ne_nil (mt linesKept_eq_nil_iff.1 (by simp))
    rw [List.cons_append, List.cons_append, linesKept_of_not_lineEnd hc,
      linesKept_of_not_lineEnd hc, ih, hlines]
    rfl
  fun_induction linesKept cs with
  | case1 => rfl
  | case2 rest ih =>
      rw [List.cons_append, List.cons_append, List.cons_append, List.cons_append, linesKept,
        linesKept, ih, List.cons_append]
  | case3 c rest h hc ih =>
      cases rest with
      | nil =>
          -- the line feed that follows may belong to the same line end
          by_cases hr : c = '\r'
          · subst hr
            rfl
          · rw [List.singleton_append, List.singleton_append,
              linesKept_of_lineEnd hc fun _ heq _ => hr heq,
              linesKept_of_lineEnd hc fun _ heq _ => hr heq]
            rfl
      | cons d rest =>
          have hne : ∀ (tail rest' : List Char), c = '\r' → d :: rest ++ tail = '\n' :: rest' →
              False := fun tail rest' heq hcons => h rest heq (by rw [(List.cons.inj hcons).1])
          show linesKept (c :: (d :: rest ++ _)) = linesKept (c :: (d :: rest ++ _)) ++ _
          rw [linesKept_of_lineEnd hc (hne _), linesKept_of_lineEnd hc (hne _), ih]
          rfl
  | case4 c rest h hc hnil ih => exact hinside (by simpa using hc) ih
  | case5 c rest h hc line lines hlines ih => exact hinside (by simpa using hc) ih

/-- A text that is empty or ends with a line feed is cut into lines on its own. -/
theorem linesKept_append {cs : List Char} (h : cs = [] ∨ ∃ line, cs = line ++ ['\n'])
    (ds : List Char) : linesKept (cs ++ ds) = linesKept cs ++ linesKept ds := by
  rcases h with rfl | ⟨line, rfl⟩
  · rfl
  · rw [List.append_assoc, List.singleton_append, linesKept_append_lineFeed]

end TypstPress.Text
