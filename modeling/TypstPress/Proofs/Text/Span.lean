import Mathlib.Data.List.TakeWhile
import TypstPress.Text.Blank

/-!
# Texts of one sort

Readers cut a text where its characters stop being of one sort, which is what
`takeWhile` and `dropWhile` do. Here it is said by concatenation: a text of one
sort with a character of another sort behind it is cut in front of that
character, and in no other way is it made of two such parts
(`eq_of_append_eq`).

Trimming cuts at both ends, so that a text which is one character when it is
trimmed is that character with blanks around it (`exists_of_trim_eq_singleton`).
-/

namespace TypstPress.Text

theorem eq_takeWhile_append {p : α → Bool} {a : α} {as rest : List α}
    (h : as.dropWhile p = a :: rest) : as = as.takeWhile p ++ a :: rest := by
  rw [← h, List.takeWhile_append_dropWhile]

theorem head_dropWhile {p : α → Bool} {a : α} {as rest : List α}
    (h : as.dropWhile p = a :: rest) : p a = false := by
  have hhead := List.head_dropWhile_not p (l := as) (by rw [h]; exact List.cons_ne_nil a rest)
  simpa only [h, List.head_cons] using hhead

section

variable {p : Char → Bool} {c : Char} {cs : List Char}

theorem takeWhile_append_cons (h : ∀ d ∈ cs, p d = true) (hc : p c = false)
    (rest : List Char) : (cs ++ c :: rest).takeWhile p = cs := by
  rw [List.takeWhile_append_of_pos h, List.takeWhile_cons, if_neg (by simp [hc]),
    List.append_nil]

theorem dropWhile_append_cons (h : ∀ d ∈ cs, p d = true) (hc : p c = false)
    (rest : List Char) : (cs ++ c :: rest).dropWhile p = c :: rest := by
  rw [List.dropWhile_append_of_pos h, List.dropWhile_cons, if_neg (by simp [hc])]

/-- A text of one sort ends where the other sort begins. -/
theorem eq_of_append_eq {cs' rest rest' : List Char} {c' : Char} (h : ∀ d ∈ cs, p d = true)
    (hc : p c = false) (h' : ∀ d ∈ cs', p d = true) (hc' : p c' = false)
    (heq : cs ++ c :: rest = cs' ++ c' :: rest') : cs = cs' ∧ c :: rest = c' :: rest' := by
  constructor
  · rw [← takeWhile_append_cons h hc rest, heq, takeWhile_append_cons h' hc']
  · rw [← dropWhile_append_cons h hc rest, heq, dropWhile_append_cons h' hc']

theorem dropEndWhile_eq_nil_iff : dropEndWhile p cs = [] ↔ ∀ d ∈ cs, p d = true := by
  rw [dropEndWhile, List.reverse_eq_nil_iff, List.dropWhile_eq_nil_iff]
  simp only [List.mem_reverse]

theorem dropEndWhile_cons (hc : p c = false) :
    dropEndWhile p (c :: cs) = c :: dropEndWhile p cs := by
  rw [dropEndWhile, List.reverse_cons, List.dropWhile_append]
  split
  · next hempty =>
      rw [List.dropWhile_cons, if_neg (by simp [hc]), dropEndWhile, List.isEmpty_iff.1 hempty]
      rfl
  · rw [List.reverse_append, dropEndWhile]
    rfl

end

/-- Trimming a text cuts it in front of its first character that is no blank. -/
theorem trim_append_cons {before : List Char} {c : Char}
    (hbefore : ∀ d ∈ before, isBlank d = true) (hc : isBlank c = false)
    (behind : List Char) : trim (before ++ c :: behind) = c :: dropEndWhile isBlank behind := by
  rw [trim, trimWhile, dropWhile_append_cons hbefore hc, dropEndWhile_cons hc]

theorem exists_of_trim_eq_singleton {cs : List Char} {c : Char} (h : trim cs = [c]) :
    ∃ before behind, cs = before ++ c :: behind ∧ isBlank c = false ∧
      (∀ d ∈ before, isBlank d = true) ∧ ∀ d ∈ behind, isBlank d = true := by
  cases hdrop : cs.dropWhile isBlank with
  | nil =>
      rw [trim, trimWhile, hdrop] at h
      cases h
  | cons d behind =>
      have hd := head_dropWhile hdrop
      rw [trim, trimWhile, hdrop, dropEndWhile_cons hd, List.cons.injEq] at h
      obtain ⟨rfl, hbehind⟩ := h
      exact ⟨_, behind, eq_takeWhile_append hdrop, hd, fun _ => List.mem_takeWhile_imp,
        dropEndWhile_eq_nil_iff.1 hbehind⟩

/-- More text behind one that is a character, blanks aside, keeps it so exactly
if it is blank. -/
theorem trim_append_eq_singleton_iff {cs ds : List Char} {c d : Char} (h : trim cs = [c]) :
    trim (cs ++ ds) = [d] ↔ d = c ∧ isAllBlank ds = true := by
  obtain ⟨before, behind, rfl, hc, hbefore, hbehind⟩ := exists_of_trim_eq_singleton h
  rw [List.append_assoc, List.cons_append, trim_append_cons hbefore hc, List.cons.injEq,
    dropEndWhile_eq_nil_iff, List.forall_mem_append, and_iff_right hbehind, isAllBlank,
    List.all_eq_true, eq_comm]

end TypstPress.Text
