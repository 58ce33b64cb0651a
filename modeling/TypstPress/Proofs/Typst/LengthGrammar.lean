import TypstPress.Proofs.Text.Span
import TypstPress.Proofs.Typst.Length

/-!
# The grammar of relative lengths

`isRelativeLength` reads a length from the left and never goes back. This file
says which texts it accepts without reading: a length is a term, with spaces and
a sign in front of it if there is one, and then any number of signs with a term
behind each of them, where spaces may stand around every sign and at the end
(`isRelativeLength_iff`).

Reading without going back is enough because every part shows where it ends. A
number is followed by a unit, and no unit begins with a digit or a dot; a unit
is followed by a space, a sign or nothing, none of which goes on with it. So
each reader has two lemmas, one that it takes what is written and one that it
takes nothing else, and neither has to say anything of what comes later than the
next character.
-/

namespace TypstPress.Typst

open Text

/-! ## Lengths as they are written -/

/-- A text of one or more ASCII digits. -/
structure IsDigits (cs : List Char) : Prop where
  nonempty : cs ≠ []
  digits : ∀ c ∈ cs, isAsciiDigit c = true

/-- A number: digits, digits with a fraction, or a fraction alone. -/
inductive IsNumber : List Char → Prop
  | whole {ds : List Char} (h : IsDigits ds) : IsNumber ds
  | decimal {ds es : List Char} (h : IsDigits ds) (h' : IsDigits es) : IsNumber (ds ++ '.' :: es)
  | fraction {es : List Char} (h : IsDigits es) : IsNumber ('.' :: es)

/-- The units of lengths. -/
inductive LengthUnit where
  | point
  | millimetre
  | centimetre
  | inch
  | em
  | percent

def LengthUnit.chars : LengthUnit → List Char
  | point => ['p', 't']
  | millimetre => ['m', 'm']
  | centimetre => ['c', 'm']
  | inch => ['i', 'n']
  | em => ['e', 'm']
  | percent => ['%']

/-- A term: a number directly followed by a unit. -/
inductive IsTerm : List Char → Prop
  | mk {number : List Char} (h : IsNumber number) (unit : LengthUnit) :
      IsTerm (number ++ unit.chars)

def IsSign (c : Char) : Prop := c = '+' ∨ c = '-'

/-- Only the plain space separates. -/
def spaces (n : Nat) : List Char := List.replicate n ' '

/-- What may stand behind a term: signs and terms in turn, and spaces at the
end. -/
inductive IsTail : List Char → Prop
  | done (n : Nat) : IsTail (spaces n)
  | joined (m : Nat) {sign : Char} (hsign : IsSign sign) (n : Nat) {term rest : List Char}
      (hterm : IsTerm term) (hrest : IsTail rest) :
      IsTail (spaces m ++ sign :: (spaces n ++ (term ++ rest)))

/-- A relative length. -/
inductive WrittenLength : List Char → Prop
  | mk (m : Nat) (sign? : Option Char) (hsign : ∀ sign ∈ sign?, IsSign sign) (n : Nat)
      {term rest : List Char} (hterm : IsTerm term) (hrest : IsTail rest) :
      WrittenLength (spaces m ++ (sign?.toList ++ (spaces n ++ (term ++ rest))))

/-! ## Spaces -/

theorem eq_space_of_mem_spaces {n : Nat} : ∀ c ∈ spaces n, (c == ' ') = true := by
  intro c hc
  rw [(List.mem_replicate.1 hc).2]
  rfl

theorem skipSpaces_spaces (n : Nat) : skipSpaces (spaces n) = [] :=
  List.dropWhile_eq_nil_iff.2 eq_space_of_mem_spaces

theorem skipSpaces_append {c : Char} (hc : c ≠ ' ') (n : Nat) (rest : List Char) :
    skipSpaces (spaces n ++ c :: rest) = c :: rest :=
  dropWhile_append_cons (p := (· == ' ')) eq_space_of_mem_spaces (beq_eq_false_iff_ne.2 hc) rest

/-- A text is some spaces with what follows them. -/
theorem exists_spaces (cs : List Char) : ∃ n, cs = spaces n ++ skipSpaces cs := by
  have hspaces : cs.takeWhile (· == ' ') = spaces (cs.takeWhile (· == ' ')).length :=
    List.eq_replicate_iff.2
      ⟨rfl, fun _ hc => eq_of_beq (List.mem_takeWhile_imp (p := (· == ' ')) hc)⟩
  refine ⟨(cs.takeWhile (· == ' ')).length, ?_⟩
  rw [← hspaces, skipSpaces, List.takeWhile_append_dropWhile]

/-! ## Numbers -/

variable {c : Char} {cs rest : List Char}

theorem readDigits_append (h : IsDigits cs) (hc : isAsciiDigit c = false) (rest : List Char) :
    readDigits (cs ++ c :: rest) = some (c :: rest) := by
  cases cs with
  | nil => exact absurd rfl h.nonempty
  | cons d ds =>
      obtain ⟨hd, hds⟩ := List.forall_mem_cons.1 h.digits
      rw [List.cons_append, readDigits, if_pos hd, dropWhile_append_cons hds hc]

theorem exists_of_readDigits (h : readDigits cs = some rest) :
    ∃ ds, IsDigits ds ∧ cs = ds ++ rest := by
  unfold readDigits at h
  split at h
  · next d ds =>
      split at h
      · next hd =>
          cases h
          refine ⟨d :: ds.takeWhile isAsciiDigit, ⟨List.cons_ne_nil _ _, ?_⟩, ?_⟩
          · exact List.forall_mem_cons.2 ⟨hd, fun _ hc => List.mem_takeWhile_imp hc⟩
          · rw [List.cons_append, List.takeWhile_append_dropWhile]
      · cases h
  · cases h

theorem ne_dot_of_isAsciiDigit (h : isAsciiDigit c = true) : c ≠ '.' := by
  rintro rfl
  cases h

/-- Digits do not begin with a dot, so they are read as digits first. -/
theorem readNumber_of_digits (h : IsDigits cs) (rest : List Char) :
    readNumber (cs ++ rest) =
      match readDigits (cs ++ rest) with
      | some ('.' :: rest) => (readDigits rest).orElse fun _ => some ('.' :: rest)
      | other => other := by
  cases cs with
  | nil => exact absurd rfl h.nonempty
  | cons d ds =>
      have hd := ne_dot_of_isAsciiDigit (h.digits d List.mem_cons_self)
      exact readNumber.eq_2 (d :: (ds ++ rest)) fun rest heq => hd (List.cons.inj heq).1

theorem readNumber_append (h : IsNumber cs) (hdigit : isAsciiDigit c = false) (hdot : c ≠ '.')
    (rest : List Char) : readNumber (cs ++ c :: rest) = some (c :: rest) := by
  cases h with
  | whole h =>
      rw [readNumber_of_digits h, readDigits_append h hdigit]
      split
      · next heq =>
          cases heq
          exact absurd rfl hdot
      · rfl
  | decimal h h' =>
      rw [List.append_assoc, List.cons_append, readNumber_of_digits h, readDigits_append h rfl]
      simp only [readDigits_append h' hdigit]
      rfl
  | fraction h => exact readDigits_append h hdigit rest

theorem exists_of_readNumber (h : readNumber cs = some rest) :
    ∃ number, IsNumber number ∧ cs = number ++ rest := by
  unfold readNumber at h
  split at h
  · obtain ⟨es, hes, rfl⟩ := exists_of_readDigits h
    exact ⟨_, .fraction hes, rfl⟩
  · split at h
    · next ds hds =>
        obtain ⟨digits, hdigits, rfl⟩ := exists_of_readDigits hds
        cases hfraction : readDigits ds with
        | some es =>
            rw [hfraction] at h
            cases h
            obtain ⟨fraction, hes, rfl⟩ := exists_of_readDigits hfraction
            exact ⟨_, .decimal hdigits hes, by simp⟩
        | none =>
            -- a dot without digits behind it is left to what follows
            rw [hfraction] at h
            cases h
            exact ⟨digits, .whole hdigits, rfl⟩
    · obtain ⟨ds, hds, rfl⟩ := exists_of_readDigits h
      exact ⟨ds, .whole hds, rfl⟩

/-! ## Terms -/

theorem readUnit_append (unit : LengthUnit) (rest : List Char) :
    readUnit (unit.chars ++ rest) = some rest := by
  cases unit <;> rfl

theorem exists_of_readUnit (h : readUnit cs = some rest) :
    ∃ unit : LengthUnit, cs = unit.chars ++ rest := by
  unfold readUnit at h
  split at h
  case h_1 => cases h; exact ⟨.point, rfl⟩
  case h_2 => cases h; exact ⟨.millimetre, rfl⟩
  case h_3 => cases h; exact ⟨.centimetre, rfl⟩
  case h_4 => cases h; exact ⟨.inch, rfl⟩
  case h_5 => cases h; exact ⟨.em, rfl⟩
  case h_6 => cases h; exact ⟨.percent, rfl⟩
  case h_7 => cases h

theorem LengthUnit.exists_cons (unit : LengthUnit) :
    ∃ c rest, unit.chars = c :: rest ∧ isAsciiDigit c = false ∧ c ≠ '.' := by
  cases unit <;> exact ⟨_, _, rfl, rfl, by decide⟩

theorem readTerm_append {term : List Char} (h : IsTerm term) (rest : List Char) :
    readTerm (term ++ rest) = some rest := by
  obtain ⟨hnumber, unit⟩ := h
  obtain ⟨c, others, hunit, hdigit, hdot⟩ := unit.exists_cons
  have hread := readUnit_append unit rest
  rw [hunit, List.cons_append] at hread
  rw [readTerm, hunit, List.append_assoc, List.cons_append,
    readNumber_append hnumber hdigit hdot, Option.bind_some, hread]

theorem exists_of_readTerm (h : readTerm cs = some rest) :
    ∃ term, IsTerm term ∧ cs = term ++ rest := by
  obtain ⟨ds, hnumber, hunit⟩ := Option.bind_eq_some_iff.1 h
  obtain ⟨number, hn, rfl⟩ := exists_of_readNumber hnumber
  obtain ⟨unit, rfl⟩ := exists_of_readUnit hunit
  exact ⟨_, .mk hn unit, (List.append_assoc ..).symm⟩

/-- A term begins with a digit or a dot, and so with neither a space nor a
sign. -/
theorem IsTerm.exists_cons {term : List Char} (h : IsTerm term) :
    ∃ c rest, term = c :: rest ∧ (isAsciiDigit c = true ∨ c = '.') := by
  obtain ⟨hnumber, unit⟩ := h
  have hdigits : ∀ {ds : List Char}, IsDigits ds → ∀ rest,
      ∃ c rest', ds ++ rest = c :: rest' ∧ (isAsciiDigit c = true ∨ c = '.') := by
    intro ds hds rest
    obtain ⟨d, ds, rfl⟩ := List.exists_cons_of_ne_nil hds.nonempty
    exact ⟨d, _, rfl, .inl (hds.digits d List.mem_cons_self)⟩
  cases hnumber with
  | whole h => exact hdigits h _
  | decimal h h' =>
      rw [List.append_assoc]
      exact hdigits h _
  | fraction h => exact ⟨'.', _, rfl, .inr rfl⟩

theorem skipSpaces_term {term : List Char} (h : IsTerm term) (n : Nat) (rest : List Char) :
    skipSpaces (spaces n ++ (term ++ rest)) = term ++ rest := by
  obtain ⟨c, others, rfl, hc⟩ := h.exists_cons
  refine skipSpaces_append ?_ n (others ++ rest)
  rintro rfl
  rcases hc with hc | hc <;> cases hc

/-! ## Signs -/

theorem readSign_cons {sign : Char} (h : IsSign sign) (rest : List Char) :
    readSign (sign :: rest) = some rest := by
  rcases h with rfl | rfl <;> rfl

theorem exists_of_readSign (h : readSign cs = some rest) :
    ∃ sign, IsSign sign ∧ cs = sign :: rest := by
  unfold readSign at h
  split at h
  · cases h
    exact ⟨'+', .inl rfl, rfl⟩
  · cases h
    exact ⟨'-', .inr rfl, rfl⟩
  · cases h

theorem readSign_term {term : List Char} (h : IsTerm term) (rest : List Char) :
    readSign (term ++ rest) = none := by
  obtain ⟨c, others, rfl, hc⟩ := h.exists_cons
  cases hread : readSign (c :: others ++ rest) with
  | none => rfl
  | some behind =>
      obtain ⟨sign, hsign, heq⟩ := exists_of_readSign hread
      cases heq
      rcases hsign with rfl | rfl <;> rcases hc with hc | hc <;> cases hc

theorem IsSign.ne_space {sign : Char} (h : IsSign sign) : sign ≠ ' ' := by
  rintro rfl
  rcases h with h | h <;> cases h

/-! ## Lengths -/

theorem isLengthTail_of_isTail {fuel : Nat} (h : IsTail cs) (hfuel : cs.length ≤ fuel) :
    isLengthTail fuel cs = true := by
  induction h generalizing fuel with
  | done n =>
      cases fuel with
      | zero => rw [isLengthTail, skipSpaces_spaces, List.isEmpty_nil]
      | succ fuel => rw [isLengthTail, skipSpaces_spaces]
  | joined m hsign n hterm hrest ih =>
      -- every term takes a sign with it, so there is fuel for as many as there are
      simp only [List.length_append, List.length_cons] at hfuel
      obtain ⟨fuel, rfl⟩ := Nat.exists_eq_add_one_of_ne_zero (n := fuel) (by omega)
      rw [isLengthTail, skipSpaces_append hsign.ne_space]
      simp only [readSign_cons hsign, skipSpaces_term hterm, readTerm_append hterm]
      exact ih (by omega)

theorem isTail_of_isLengthTail {fuel : Nat} (h : isLengthTail fuel cs = true) : IsTail cs := by
  obtain ⟨m, hcs⟩ := exists_spaces cs
  induction fuel generalizing cs m with
  | zero =>
      rw [isLengthTail, List.isEmpty_iff] at h
      rw [hcs, h, List.append_nil]
      exact .done m
  | succ fuel ih =>
      rw [isLengthTail] at h
      split at h
      · next hnil =>
          rw [hcs, hnil, List.append_nil]
          exact .done m
      · next c ds hcons =>
          split at h
          · next es hsign =>
              split at h
              · next rest hterm =>
                  obtain ⟨sign, hs, heq⟩ := exists_of_readSign hsign
                  obtain ⟨n, hes⟩ := exists_spaces es
                  obtain ⟨term, ht, hskip⟩ := exists_of_readTerm hterm
                  obtain ⟨m', hrest⟩ := exists_spaces rest
                  rw [hcs, hcons, heq, hes, hskip]
                  exact .joined m hs n ht (ih h m' hrest)
              · cases h
          · cases h

/-- Behind the sign, or behind all of the spaces if there is none, a term is
found. -/
theorem skipSpaces_signed {sign? : Option Char} (hsign : ∀ sign ∈ sign?, IsSign sign)
    {term : List Char} (hterm : IsTerm term) (m n : Nat) (rest : List Char) {start : List Char}
    (hstart : start = skipSpaces (spaces m ++ (sign?.toList ++ (spaces n ++ (term ++ rest))))) :
    skipSpaces ((readSign start).getD start) = term ++ rest := by
  cases sign? with
  | some sign =>
      have hsign := hsign sign rfl
      rw [Option.toList_some, List.singleton_append, skipSpaces_append hsign.ne_space] at hstart
      rw [hstart, readSign_cons hsign, Option.getD_some, skipSpaces_term hterm]
  | none =>
      have hspaces : spaces m ++ spaces n = spaces (m + n) := List.replicate_append_replicate
      rw [Option.toList_none, List.nil_append, ← List.append_assoc, hspaces,
        skipSpaces_term hterm] at hstart
      have hskip := skipSpaces_term hterm 0 rest
      rw [hstart, readSign_term hterm, Option.getD_none]
      exact hskip

theorem isLength_of_written (h : WrittenLength cs) : isLength cs = true := by
  cases h with
  | mk m sign? hsign n hterm hrest =>
      rw [isLength]
      simp only [skipSpaces_signed hsign hterm m n _ rfl, readTerm_append hterm]
      exact isLengthTail_of_isTail hrest le_rfl

theorem written_of_isLength (h : isLength cs = true) : WrittenLength cs := by
  obtain ⟨m, hcs⟩ := exists_spaces cs
  rw [isLength] at h
  split at h
  · next rest hread =>
      obtain ⟨term, hterm, hskip⟩ := exists_of_readTerm hread
      obtain ⟨n, hspaces⟩ := exists_spaces ((readSign (skipSpaces cs)).getD (skipSpaces cs))
      rw [hskip] at hspaces
      have hrest := isTail_of_isLengthTail h
      cases hsign : readSign (skipSpaces cs) with
      | some behind =>
          obtain ⟨sign, hs, hstart⟩ := exists_of_readSign hsign
          rw [hsign, Option.getD_some] at hspaces
          rw [hcs, hstart, hspaces]
          exact .mk m (some sign) (fun _ h => Option.some.inj h ▸ hs) n hterm hrest
      | none =>
          rw [hsign, Option.getD_none] at hspaces
          rw [hcs, hspaces]
          exact .mk m none (fun _ hnone => by cases hnone) n hterm hrest
  · cases h

/-- Quotes, brackets, the comma and the number sign, by which Typst tells a value
from what stands around it. -/
def specialMarks : List Char := ['"', '\'', '(', ')', '[', ']', '\x7b', '\x7d', '<', '>', ',', '#']

theorem not_mem_specialMarks (h : isLengthChar c = true) : c ∉ specialMarks := by
  have hmarks : specialMarks.all (!isLengthChar ·) = true := by decide
  intro hc
  have hnot := List.all_eq_true.1 hmarks c hc
  rw [h] at hnot
  cases hnot

/-- A text is accepted exactly if it is written as a relative length: spaces, a
sign if there is one, spaces, a term, further terms with a sign in front of each
and spaces on either side of it, and spaces. No text that is accepted has a
quote, a bracket, a comma or a number sign in it, and every text is either
accepted or refused. -/
theorem isRelativeLength_iff (s : String) :
    (isRelativeLength s = true ↔ WrittenLength s.toList) ∧
      (isRelativeLength s = false ↔ ¬ WrittenLength s.toList) ∧
      (isRelativeLength s = true → ∀ c ∈ s.toList, c ∉ specialMarks) := by
  have hiff : isRelativeLength s = true ↔ WrittenLength s.toList :=
    ⟨written_of_isLength, isLength_of_written⟩
  refine ⟨hiff, ?_, fun h c hc => ?_⟩
  · rw [← hiff, Bool.not_eq_true]
  · exact not_mem_specialMarks (isLengthChar_of_isRelativeLength h c hc)

end TypstPress.Typst
