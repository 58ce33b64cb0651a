import Mathlib.Algebra.Group.Nat.Defs
import TypstPress.Json.Reader
import TypstPress.Json.Writer

/-!
# Reading what was written

A value that is written with a line for every item is read as the same value
(`read?_indented`). There are three layers to this, as there are in the reader.

Within a string the writer and the reader do not share an alphabet: what is
written are characters or escapes, what is read are UTF-16 units. Both sides are
compared through `units`. A character is written as its units
(`readUnits?_escapeChar`), and units of characters in a row are put together as
these characters (`ofUnits_flatMap_units`), because no character is a unit of the
upper half by itself.

A word ends where a character follows that belongs to no word, so a word is read
with what follows in view.

For what nests, the induction is on the value, and the statement about it has a
gap in front and any text behind, which is what an item of a list sees. A budget
as long as the text is enough: every step down or on leaves a bracket or a comma
behind.
-/

namespace TypstPress.Json

/-! ## Gaps -/

theorem skipGap_append {gap : List Char} (h : ∀ c ∈ gap, isGap c = true) (cs : List Char) :
    skipGap (gap ++ cs) = skipGap cs := by
  rw [skipGap, skipGap, List.dropWhile_append_of_pos h]

theorem skipGap_cons {c : Char} (h : isGap c = false) (cs : List Char) :
    skipGap (c :: cs) = c :: cs := by
  rw [skipGap, List.dropWhile_cons_of_neg]
  simp [h]

theorem isGap_of_mem_lineStart {depth : Nat} {c : Char} (h : c ∈ (lineStart depth).toList) :
    isGap c = true := by
  rw [lineStart, String.toList_append, List.mem_append] at h
  rcases h with h | h
  · rw [List.mem_singleton.1 h]
    rfl
  · rw [String.toList_ofList] at h
    rw [List.eq_of_mem_replicate h]
    rfl

/-! ## Strings -/

theorem hexValue?_hexDigit : ∀ n < 16, hexValue? (Text.hexDigit n) = some n := by
  decide

theorem hexNumber?_hexDigits (width n : Nat) :
    hexNumber? (Text.hexDigits width n) = some (n % 16 ^ width) := by
  induction width generalizing n with
  | zero => simp [hexNumber?, Text.hexDigits, Nat.mod_one]
  | succ width ih =>
      have hfront := ih (n / 16)
      rw [hexNumber?] at hfront
      rw [Text.hexDigits, hexNumber?, List.foldlM_append, hfront]
      have hlast := hexValue?_hexDigit (n % 16) (by omega)
      simp only [List.foldlM_cons, List.foldlM_nil, hlast, Option.map_some, Option.bind_eq_bind,
        Option.bind_some, Option.pure_def, Option.some.injEq]
      rw [Nat.pow_succ, Nat.mul_comm (16 ^ width), Nat.mod_mul]
      omega

/-- The UTF-16 units of a character. -/
def units (c : Char) : List Nat :=
  if c.toNat < 0x10000 then [c.toNat]
  else [0xD800 + (c.toNat - 0x10000) / 0x400, 0xDC00 + (c.toNat - 0x10000) % 0x400]

theorem readUnits?_escapeUnit {n : Nat} (h : n < 0x10000) (done : List Nat) (rest : List Char) :
    readUnits? done (escapeUnit n ++ rest) = readUnits? (n :: done) rest := by
  have hnumber : hexNumber? [Text.hexDigit (n / 16 / 16 / 16 % 16),
      Text.hexDigit (n / 16 / 16 % 16), Text.hexDigit (n / 16 % 16), Text.hexDigit (n % 16)] =
      some n := by
    have hdigits := hexNumber?_hexDigits 4 n
    rw [Nat.mod_eq_of_lt (by omega)] at hdigits
    exact hdigits
  show readUnits? done ('\\' :: 'u' :: _ :: _ :: _ :: _ :: rest) = _
  rw [readUnits?, hnumber]

theorem readUnits?_cons {c : Char} (hquote : c ≠ '"') (hbackslash : c ≠ '\\') (done : List Nat)
    (rest : List Char) : readUnits? done (c :: rest) = readUnits? (c.toNat :: done) rest := by
  rw [readUnits?]
  · exact hquote
  · intro _ _ _ _ _ h
    exact absurd h hbackslash
  · intro _ _ h
    exact absurd h hbackslash

/-- A character is written as its units. -/
theorem readUnits?_escapeChar (c : Char) (done : List Nat) (rest : List Char) :
    readUnits? done (escapeChar c ++ rest) = readUnits? ((units c).reverse ++ done) rest := by
  -- one case for each way to write a character; the last two are escapes of its units
  rw [escapeChar]
  split
  · next h =>
      rw [Bool.or_eq_true, beq_iff_eq, beq_iff_eq] at h
      rcases h with rfl | rfl <;> rfl
  · next hplain =>
      rw [Bool.or_eq_true, beq_iff_eq, beq_iff_eq, not_or] at hplain
      split
      · next h =>
          rw [beq_iff_eq.1 h]
          rfl
      · split
        · next h =>
            rw [beq_iff_eq.1 h]
            rfl
        · split
          · next h =>
              rw [beq_iff_eq.1 h]
              rfl
          · split
            · next h =>
                rw [Char.toNat_inj.1 (beq_iff_eq.1 h : c.toNat = '\x08'.toNat)]
                rfl
            · split
              · next h =>
                  rw [Char.toNat_inj.1 (beq_iff_eq.1 h : c.toNat = '\x0c'.toNat)]
                  rfl
              · split
                · next h =>
                    rw [units, if_pos (by simp at h; omega)]
                    exact readUnits?_cons hplain.1 hplain.2 done rest
                · split
                  · next h =>
                      rw [units, if_pos h]
                      exact readUnits?_escapeUnit h done rest
                  · next h =>
                      have hvalid : c.toNat < 0xD800 ∨ 0xDFFF < c.toNat ∧ c.toNat < 0x110000 :=
                        c.valid
                      rw [units, if_neg h, List.append_assoc,
                        readUnits?_escapeUnit (by omega), readUnits?_escapeUnit (by omega)]
                      rfl

theorem readUnits?_flatMap_escapeChar (cs : List Char) (done : List Nat) (rest : List Char) :
    readUnits? done (cs.flatMap escapeChar ++ '"' :: rest) =
      some (done.reverse ++ cs.flatMap units, rest) := by
  induction cs generalizing done with
  | nil => simp [readUnits?]
  | cons c cs ih =>
      rw [List.flatMap_cons, List.append_assoc, readUnits?_escapeChar, ih]
      simp

/-- The units of a character are put together as the character, whatever follows. -/
theorem ofUnits_units_append (c : Char) (rest : List Nat) :
    ofUnits (units c ++ rest) = c :: ofUnits rest := by
  have hvalid : c.toNat < 0xD800 ∨ 0xDFFF < c.toNat ∧ c.toNat < 0x110000 := c.valid
  rw [units]
  split
  · cases rest with
    | nil => simp [ofUnits]
    | cons low rest =>
        have halone : joinUnits? c.toNat low = none := by
          rw [joinUnits?, if_neg]
          simp only [Bool.and_eq_true, decide_eq_true_eq]
          omega
        simp [ofUnits, halone]
  · next h =>
      have hpair : joinUnits? (0xD800 + (c.toNat - 0x10000) / 0x400)
          (0xDC00 + (c.toNat - 0x10000) % 0x400) = some c := by
        rw [joinUnits?, if_pos (by simp only [Bool.and_eq_true, decide_eq_true_eq]; omega)]
        have hsum : 0x10000 + (0xD800 + (c.toNat - 0x10000) / 0x400 - 0xD800) * 0x400 +
            (0xDC00 + (c.toNat - 0x10000) % 0x400 - 0xDC00) = c.toNat := by
          omega
        rw [hsum, Char.ofNat_toNat]
      simp [ofUnits, hpair]

theorem ofUnits_flatMap_units (cs : List Char) : ofUnits (cs.flatMap units) = cs := by
  induction cs with
  | nil => rfl
  | cons c cs ih => rw [List.flatMap_cons, ofUnits_units_append, ih]

theorem readString?_flatMap_escapeChar (s : String) (rest : List Char) :
    readString? (s.toList.flatMap escapeChar ++ '"' :: rest) = some (s, rest) := by
  rw [readString?, readUnits?_flatMap_escapeChar, Option.map_some]
  simp [ofUnits_flatMap_units]

/-! ## Words -/

theorem isGap_of_isWordChar {c : Char} (h : isWordChar c = true) : isGap c = false := by
  rw [Bool.eq_false_iff]
  intro hgap
  simp only [isGap, Bool.or_eq_true, beq_iff_eq] at hgap
  rcases hgap with ((rfl | rfl) | rfl) | rfl <;> exact absurd h (by decide)

theorem isWordChar_of_isGap {c : Char} (h : isGap c = true) : isWordChar c = false := by
  rw [Bool.eq_false_iff]
  intro hword
  rw [isGap_of_isWordChar hword] at h
  cases h

theorem ofWord?_of_isNumber {word : List Char} (h : isNumber word = true) :
    ofWord? word = some (.num (String.ofList word)) := by
  have hne : ∀ other, isNumber other = false → ¬ (word == other) = true := by
    intro other hother heq
    rw [← beq_iff_eq.1 heq, h] at hother
    cases hother
  rw [ofWord?, if_neg (hne _ (by decide)), if_neg (hne _ (by decide)), if_neg (hne _ (by decide)),
    if_pos h]

theorem readValue?_word {word : List Char} {j : Json} (hword : ofWord? word = some j)
    (hchars : ∀ c ∈ word, isWordChar c = true) {rest : List Char}
    (hrest : ∀ c ∈ rest.head?, isWordChar c = false) (fuel : Nat) :
    readValue? (fuel + 1) (word ++ rest) = some (j, rest) := by
  cases word with
  | nil => cases hword
  | cons c word =>
      have hc := hchars c List.mem_cons_self
      have hnone : rest.takeWhile isWordChar = [] := by
        cases rest with
        | nil => rfl
        | cons d rest => rw [List.takeWhile_cons, hrest d rfl]; rfl
      have hspan : ((c :: word) ++ rest).takeWhile isWordChar = c :: word := by
        rw [List.takeWhile_append_of_pos hchars, hnone, List.append_nil]
      have hskip : skipGap ((c :: word) ++ rest) = (c :: word) ++ rest := by
        rw [List.cons_append, skipGap_cons (isGap_of_isWordChar hc)]
      rw [readValue?, hskip]
      split
      · next h =>
          cases h
          exact absurd hc (by decide)
      · next h =>
          cases h
          exact absurd hc (by decide)
      · next h =>
          cases h
          exact absurd hc (by decide)
      · dsimp only
        rw [hspan, hword, Option.map_some, List.drop_left]

/-! ## Values -/

theorem quote_toList (s : String) :
    (quote s).toList = '"' :: (s.toList.flatMap escapeChar ++ ['"']) := by
  rw [quote, String.toList_ofList]
  rfl

theorem readValue?_quote (fuel : Nat) (cs : List Char) :
    readValue? (fuel + 1) ('"' :: cs) = (readString? cs).map fun r => (str r.1, r.2) := by
  rw [readValue?, skipGap_cons (by decide)]
  rfl

theorem readValue?_bracket {gap cs : List Char} {c : Char} (hgap : ∀ c ∈ gap, isGap c = true)
    (hc : isGap c = false) (hclosing : c ≠ ']') (fuel : Nat) :
    readValue? (fuel + 1) ('[' :: (gap ++ c :: cs)) = readItems? fuel [] (c :: cs) := by
  rw [readValue?, skipGap_cons (by decide)]
  simp only [skipGap_append hgap, skipGap_cons hc]
  split
  · next h =>
      cases h
      exact absurd rfl hclosing
  · rfl

theorem readValue?_brace {gap cs : List Char} {c : Char} (hgap : ∀ c ∈ gap, isGap c = true)
    (hc : isGap c = false) (hclosing : c ≠ '\x7d') (fuel : Nat) :
    readValue? (fuel + 1) ('\x7b' :: (gap ++ c :: cs)) = readEntries? fuel [] (c :: cs) := by
  rw [readValue?, skipGap_cons (by decide)]
  simp only [skipGap_append hgap, skipGap_cons hc]
  split
  · next h =>
      cases h
      exact absurd rfl hclosing
  · rfl

theorem readValue?_gap_append {gap : List Char} (hgap : ∀ c ∈ gap, isGap c = true) (fuel : Nat)
    (cs : List Char) : readValue? fuel (gap ++ cs) = readValue? fuel cs := by
  cases fuel with
  | zero => rfl
  | succ fuel => rw [readValue?, readValue?, skipGap_append hgap]

theorem readItems?_gap_append {gap : List Char} (hgap : ∀ c ∈ gap, isGap c = true) (fuel : Nat)
    (done : List Json) (cs : List Char) :
    readItems? fuel done (gap ++ cs) = readItems? fuel done cs := by
  cases fuel with
  | zero => rfl
  | succ fuel => rw [readItems?, readItems?, readValue?_gap_append hgap]

theorem readEntries?_gap_append {gap : List Char} (hgap : ∀ c ∈ gap, isGap c = true) (fuel : Nat)
    (done : List (String × Json)) (cs : List Char) :
    readEntries? fuel done (gap ++ cs) = readEntries? fuel done cs := by
  cases fuel with
  | zero => rfl
  | succ fuel => rw [readEntries?, readEntries?, skipGap_append hgap]

/-- The lines of a list, the first one apart. -/
def furtherLines (depth : Nat) (lines : List String) : List Char :=
  lines.flatMap fun line => ',' :: ((lineStart depth).toList ++ line.toList)

theorem furtherLines_cons (depth : Nat) (line : String) (lines : List String) :
    furtherLines depth (line :: lines) =
      ',' :: ((lineStart depth).toList ++ (line.toList ++ furtherLines depth lines)) := by
  rw [furtherLines, furtherLines, List.flatMap_cons, List.cons_append, List.append_assoc]

theorem toList_intercalate_cons (depth : Nat) (line : String) (lines : List String) :
    (("," ++ lineStart depth).intercalate (line :: lines)).toList =
      line.toList ++ furtherLines depth lines := by
  induction lines generalizing line with
  | nil => simp [furtherLines]
  | cons line' lines ih =>
      rw [String.intercalate_cons_cons, String.toList_append, String.toList_append, ih,
        furtherLines, furtherLines, List.flatMap_cons, String.toList_append]
      simp

theorem toList_bracketed_cons (opening closing : String) (depth : Nat) (line : String)
    (lines : List String) :
    (bracketed opening closing depth (line :: lines)).toList =
      opening.toList ++ ((lineStart (depth + 1)).toList ++ (line.toList ++
        (furtherLines (depth + 1) lines ++ ((lineStart depth).toList ++ closing.toList)))) := by
  rw [bracketed, List.isEmpty_cons, if_neg Bool.false_ne_true]
  simp only [String.toList_append, toList_intercalate_cons, List.append_assoc]

/-- Whether a value is read again where it was written, at any depth, whatever
follows that does not carry a word on. -/
structure ReadsBack (j : Json) : Prop where
  starts : ∀ depth, ∃ c cs,
    (j.indentedAt depth).toList = c :: cs ∧ isGap c = false ∧ c ≠ ']'
  reads : ∀ depth {rest : List Char}, (∀ c ∈ rest.head?, isWordChar c = false) →
    ∀ {fuel : Nat}, (j.indentedAt depth).toList.length ≤ fuel →
      readValue? fuel ((j.indentedAt depth).toList ++ rest) = some (j, rest)

theorem readsBack_of_word {j : Json} {word : String} (htext : ∀ depth, j.indentedAt depth = word)
    (hword : ofWord? word.toList = some j) (hchars : ∀ c ∈ word.toList, isWordChar c = true) :
    j.ReadsBack where
  starts depth := by
    rw [htext]
    cases hcs : word.toList with
    | nil =>
        rw [hcs] at hword
        cases hword
    | cons c cs =>
        have hc := hchars c (by rw [hcs]; exact List.mem_cons_self)
        refine ⟨c, cs, rfl, isGap_of_isWordChar hc, ?_⟩
        rintro rfl
        exact absurd hc (by decide)
  reads depth rest hrest fuel hfuel := by
    rw [htext] at hfuel ⊢
    cases fuel with
    | zero =>
        rw [List.eq_nil_of_length_eq_zero (Nat.le_zero.1 hfuel)] at hword
        cases hword
    | succ fuel => exact readValue?_word hword hchars hrest fuel

theorem readsBack_str (s : String) : (str s).ReadsBack := by
  have htext : ∀ depth, ((str s).indentedAt depth).toList =
      '"' :: (s.toList.flatMap escapeChar ++ ['"']) := by
    intro depth
    rw [← quote_toList]
    simp [indentedAt, leaf]
  constructor
  · intro depth
    exact ⟨_, _, htext depth, rfl, by decide⟩
  · intro depth rest _ fuel hfuel
    rw [htext] at hfuel ⊢
    cases fuel with
    | zero => simp at hfuel
    | succ fuel =>
        rw [List.cons_append, List.append_assoc, List.singleton_append, readValue?_quote,
          readString?_flatMap_escapeChar, Option.map_some]

theorem isWordChar_of_mem_head?_gap_append {gap rest : List Char} {closing : Char}
    (hgap : ∀ c ∈ gap, isGap c = true) (hclosing : isWordChar closing = false) :
    ∀ c ∈ (gap ++ closing :: rest).head?, isWordChar c = false := by
  intro c hc
  cases gap with
  | nil =>
      cases hc
      exact hclosing
  | cons d gap =>
      cases hc
      exact isWordChar_of_isGap (hgap _ List.mem_cons_self)

/-- The items of a list are read up to its closing bracket. -/
theorem readItems?_indentedItems {item : Json} {items : List Json} (hitem : item.ReadsBack)
    (hitems : ∀ j ∈ items, j.ReadsBack) (depth : Nat) (done : List Json) {gap : List Char}
    (hgap : ∀ c ∈ gap, isGap c = true) (rest : List Char) {fuel : Nat}
    (hfuel : (item.indentedAt depth).toList.length +
      (furtherLines depth (indentedItems depth items)).length < fuel) :
    readItems? fuel done ((item.indentedAt depth).toList ++
        (furtherLines depth (indentedItems depth items) ++ (gap ++ ']' :: rest))) =
      some (arr (done.reverse ++ item :: items), rest) := by
  -- every item takes one off the fuel and at least one character off the text
  induction items generalizing item done fuel with
  | nil =>
      cases fuel with
      | zero => omega
      | succ fuel =>
          rw [indentedItems, furtherLines, List.flatMap_nil, List.nil_append, readItems?,
            hitem.reads depth (isWordChar_of_mem_head?_gap_append hgap (by decide)) (by omega)]
          dsimp only
          rw [skipGap_append hgap, skipGap_cons (by decide)]
          simp only [List.reverse_cons]
  | cons item' items ih =>
      cases fuel with
      | zero => omega
      | succ fuel =>
          have hitem' := hitems item' List.mem_cons_self
          rw [indentedItems, furtherLines_cons] at hfuel ⊢
          rw [List.length_cons, List.length_append, List.length_append] at hfuel
          rw [readItems?, List.cons_append,
            hitem.reads depth (by rintro _ ⟨⟩; decide) (by omega)]
          dsimp only
          rw [skipGap_cons (by decide)]
          simp only [List.append_assoc]
          rw [readItems?_gap_append fun _ => isGap_of_mem_lineStart,
            ih hitem' (fun j hj => hitems j (List.mem_cons_of_mem _ hj))]
          · simp
          · omega

theorem readsBack_arr {items : List Json} (hitems : ∀ j ∈ items, j.ReadsBack) :
    (arr items).ReadsBack := by
  cases items with
  | nil =>
      have htext : ∀ depth, ((arr []).indentedAt depth).toList = ['[', ']'] := by
        intro depth
        rw [indentedAt, indentedItems]
        simp [bracketed]
      constructor
      · intro depth
        exact ⟨_, _, htext depth, rfl, by decide⟩
      · intro depth rest _ fuel hfuel
        rw [htext] at hfuel ⊢
        cases fuel with
        | zero => simp at hfuel
        | succ fuel =>
            rw [List.cons_append, List.singleton_append, readValue?, skipGap_cons (by decide)]
            simp only [skipGap_cons (c := ']') (by decide)]
  | cons item items =>
      have hitem := hitems item List.mem_cons_self
      have htext : ∀ depth, ((arr (item :: items)).indentedAt depth).toList =
          '[' :: ((lineStart (depth + 1)).toList ++ ((item.indentedAt (depth + 1)).toList ++
            (furtherLines (depth + 1) (indentedItems (depth + 1) items) ++
              ((lineStart depth).toList ++ [']'])))) := by
        intro depth
        rw [indentedAt, indentedItems, toList_bracketed_cons]
        rfl
      constructor
      · intro depth
        exact ⟨_, _, htext depth, rfl, by decide⟩
      · intro depth rest _ fuel hfuel
        rw [htext] at hfuel ⊢
        simp only [List.length_cons, List.length_append] at hfuel
        obtain ⟨c, cs, hfirst, hc, hclosing⟩ := hitem.starts (depth + 1)
        cases fuel with
        | zero => omega
        | succ fuel =>
            have hread : readItems? fuel [] _ = _ := readItems?_indentedItems hitem
              (fun j hj => hitems j (List.mem_cons_of_mem _ hj)) (depth + 1) []
              (fun _ => @isGap_of_mem_lineStart depth _) rest (by omega)
            rw [hfirst] at hread ⊢
            simp only [List.cons_append, List.append_assoc, List.nil_append] at hread ⊢
            rw [readValue?_bracket (fun _ => isGap_of_mem_lineStart) hc hclosing, hread]
            rfl

theorem toList_entry (key : String) (value : Json) (depth : Nat) :
    (quote key ++ ": " ++ value.indentedAt depth).toList =
      '"' :: (key.toList.flatMap escapeChar ++
        '"' :: ':' :: ' ' :: (value.indentedAt depth).toList) := by
  rw [String.toList_append, String.toList_append, quote_toList]
  simp

/-- What is read of an object after the value of an entry. -/
def readFurtherEntries? (fuel : Nat) (done : List (String × Json)) :
    List Char → Option (Json × List Char)
  | ',' :: rest => readEntries? fuel done rest
  | '\x7d' :: rest => some (obj done.reverse, rest)
  | _ => none

theorem readEntries?_entry {value : Json} (hvalue : value.ReadsBack) (key : String) (depth : Nat)
    (done : List (String × Json)) {rest : List Char}
    (hrest : ∀ c ∈ rest.head?, isWordChar c = false) {fuel : Nat}
    (hfuel : (value.indentedAt depth).toList.length ≤ fuel) :
    readEntries? (fuel + 1) done ((quote key ++ ": " ++ value.indentedAt depth).toList ++ rest) =
      readFurtherEntries? fuel ((key, value) :: done) (skipGap rest) := by
  have hblank : readValue? fuel (' ' :: ((value.indentedAt depth).toList ++ rest)) =
      some (value, rest) := by
    rw [← List.singleton_append, readValue?_gap_append (List.forall_mem_singleton.2 rfl),
      hvalue.reads depth hrest hfuel]
  rw [toList_entry, List.cons_append, List.append_assoc, readEntries?, skipGap_cons (by decide)]
  simp only [List.cons_append]
  rw [readString?_flatMap_escapeChar]
  simp only [skipGap_cons (c := ':') (by decide), hblank]
  rfl

/-- The entries of an object are read up to its closing brace. -/
theorem readEntries?_indentedEntries {value : Json} {entries : List (String × Json)}
    (hvalue : value.ReadsBack) (hentries : ∀ e ∈ entries, e.2.ReadsBack) (key : String)
    (depth : Nat) (done : List (String × Json))
    {gap : List Char} (hgap : ∀ c ∈ gap, isGap c = true) (rest : List Char) {fuel : Nat}
    (hfuel : (quote key ++ ": " ++ value.indentedAt depth).toList.length +
      (furtherLines depth (indentedEntries depth entries)).length < fuel) :
    readEntries? fuel done ((quote key ++ ": " ++ value.indentedAt depth).toList ++
        (furtherLines depth (indentedEntries depth entries) ++ (gap ++ '\x7d' :: rest))) =
      some (obj (done.reverse ++ (key, value) :: entries), rest) := by
  have hlength : ∀ key (value : Json), (value.indentedAt depth).toList.length ≤
      (quote key ++ ": " ++ value.indentedAt depth).toList.length := by
    intro key value
    rw [toList_entry]
    simp only [List.length_cons, List.length_append]
    omega
  induction entries generalizing key value done fuel with
  | nil =>
      cases fuel with
      | zero => omega
      | succ fuel =>
          have hfits := hlength key value
          rw [indentedEntries, furtherLines, List.flatMap_nil, List.nil_append,
            readEntries?_entry hvalue key depth done
              (isWordChar_of_mem_head?_gap_append hgap (by decide)) (by omega),
            skipGap_append hgap, skipGap_cons (by decide), readFurtherEntries?, List.reverse_cons]
  | cons entry' entries ih =>
      obtain ⟨key', value'⟩ := entry'
      cases fuel with
      | zero => omega
      | succ fuel =>
          have hfits := hlength key value
          rw [indentedEntries, furtherLines_cons] at hfuel ⊢
          rw [List.length_cons, List.length_append, List.length_append] at hfuel
          have hvalue' : value'.ReadsBack := hentries (key', value') List.mem_cons_self
          rw [List.cons_append,
            readEntries?_entry hvalue key depth done (by rintro _ ⟨⟩; decide) (by omega),
            skipGap_cons (by decide), readFurtherEntries?, List.append_assoc,
            readEntries?_gap_append fun _ => isGap_of_mem_lineStart, List.append_assoc,
            ih hvalue' fun e he => hentries e (List.mem_cons_of_mem _ he)]
          · simp
          · omega

theorem readsBack_obj {entries : List (String × Json)} (hentries : ∀ e ∈ entries, e.2.ReadsBack) :
    (obj entries).ReadsBack := by
  cases entries with
  | nil =>
      have htext : ∀ depth, ((obj []).indentedAt depth).toList = ['\x7b', '\x7d'] := by
        intro depth
        rw [indentedAt, indentedEntries]
        simp [bracketed]
      constructor
      · intro depth
        exact ⟨_, _, htext depth, rfl, by decide⟩
      · intro depth rest _ fuel hfuel
        rw [htext] at hfuel ⊢
        cases fuel with
        | zero => simp at hfuel
        | succ fuel =>
            rw [List.cons_append, List.singleton_append, readValue?, skipGap_cons (by decide)]
            simp only [skipGap_cons (c := '\x7d') (by decide)]
  | cons entry entries =>
      obtain ⟨key, value⟩ := entry
      have hvalue : value.ReadsBack := hentries (key, value) List.mem_cons_self
      have htext : ∀ depth, ((obj ((key, value) :: entries)).indentedAt depth).toList =
          '\x7b' :: ((lineStart (depth + 1)).toList ++
            ((quote key ++ ": " ++ value.indentedAt (depth + 1)).toList ++
              (furtherLines (depth + 1) (indentedEntries (depth + 1) entries) ++
                ((lineStart depth).toList ++ ['\x7d'])))) := by
        intro depth
        rw [indentedAt, indentedEntries, toList_bracketed_cons]
        rfl
      constructor
      · intro depth
        exact ⟨_, _, htext depth, rfl, by decide⟩
      · intro depth rest _ fuel hfuel
        rw [htext] at hfuel ⊢
        simp only [List.length_cons, List.length_append] at hfuel
        cases fuel with
        | zero => omega
        | succ fuel =>
            have hread : readEntries? fuel [] _ = _ := readEntries?_indentedEntries hvalue
              (fun e he => hentries e (List.mem_cons_of_mem _ he)) key (depth + 1) []
              (fun _ => @isGap_of_mem_lineStart depth _) rest (by omega)
            rw [toList_entry] at hread ⊢
            simp only [List.cons_append, List.append_assoc, List.nil_append] at hread ⊢
            rw [readValue?_brace (fun _ => isGap_of_mem_lineStart) (by decide) (by decide), hread]
            rfl

/-! ## Whole texts -/

mutual

/-- Whether every number in a value is written as a number. -/
def hasProperNumbers : Json → Bool
  | .num digits => isNumber digits.toList && digits.toList.all isWordChar
  | .arr items => itemsHaveProperNumbers items
  | .obj entries => entriesHaveProperNumbers entries
  | _ => true

@[inherit_doc hasProperNumbers]
def itemsHaveProperNumbers : List Json → Bool
  | [] => true
  | j :: rest => hasProperNumbers j && itemsHaveProperNumbers rest

@[inherit_doc hasProperNumbers]
def entriesHaveProperNumbers : List (String × Json) → Bool
  | [] => true
  | (_, j) :: rest => hasProperNumbers j && entriesHaveProperNumbers rest

end

theorem itemsHaveProperNumbers_iff (items : List Json) :
    itemsHaveProperNumbers items = true ↔ ∀ j ∈ items, j.hasProperNumbers = true := by
  induction items with
  | nil => simp [itemsHaveProperNumbers]
  | cons j items ih => simp [itemsHaveProperNumbers, ih]

theorem entriesHaveProperNumbers_iff (entries : List (String × Json)) :
    entriesHaveProperNumbers entries = true ↔ ∀ e ∈ entries, e.2.hasProperNumbers = true := by
  induction entries with
  | nil => simp [entriesHaveProperNumbers]
  | cons e entries ih => simp [entriesHaveProperNumbers, ih]

theorem readsBack (j : Json) (h : j.hasProperNumbers = true) : j.ReadsBack := by
  match j with
  | .null =>
      have htext : ∀ depth, null.indentedAt depth = "null" := by simp [indentedAt, leaf]
      exact readsBack_of_word htext rfl (List.all_eq_true.1 (by decide))
  | .bool true =>
      have htext : ∀ depth, (bool true).indentedAt depth = "true" := by simp [indentedAt, leaf]
      exact readsBack_of_word htext rfl (List.all_eq_true.1 (by decide))
  | .bool false =>
      have htext : ∀ depth, (bool false).indentedAt depth = "false" := by simp [indentedAt, leaf]
      exact readsBack_of_word htext rfl (List.all_eq_true.1 (by decide))
  | .num digits =>
      rw [hasProperNumbers, Bool.and_eq_true, List.all_eq_true] at h
      have hword := ofWord?_of_isNumber h.1
      rw [String.ofList_toList] at hword
      exact readsBack_of_word (fun _ => by simp [indentedAt, leaf]) hword h.2
  | .str s => exact readsBack_str s
  | .arr items =>
      rw [hasProperNumbers, itemsHaveProperNumbers_iff] at h
      exact readsBack_arr fun item hitem => readsBack item (h item hitem)
  | .obj entries =>
      rw [hasProperNumbers, entriesHaveProperNumbers_iff] at h
      exact readsBack_obj fun e he => readsBack e.2 (h e he)
termination_by sizeOf j
decreasing_by
  · have hlt := List.sizeOf_lt_of_mem hitem
    rw [arr.sizeOf_spec]
    omega
  · have hlt := List.sizeOf_lt_of_mem he
    obtain ⟨key, value⟩ := e
    rw [Prod.mk.sizeOf_spec] at hlt
    rw [obj.sizeOf_spec]
    show sizeOf value < _
    omega

/-- A value that is written with a line for every item is read as the same value. -/
theorem read?_indented {j : Json} (h : j.hasProperNumbers = true) {gap : String}
    (hgap : ∀ c ∈ gap.toList, isGap c = true) : read? (j.indented ++ gap) = some j := by
  have hrest : ∀ c ∈ gap.toList.head?, isWordChar c = false := by
    intro c hc
    exact isWordChar_of_isGap (hgap c (List.mem_of_mem_head? hc))
  have hnothing : skipGap gap.toList = [] := by
    have hskip := skipGap_append hgap []
    rw [List.append_nil] at hskip
    exact hskip
  have hread : readValue? (2 * ((j.indentedAt 0).toList ++ gap.toList).length + 2)
      ((j.indentedAt 0).toList ++ gap.toList) = some (j, gap.toList) := by
    refine (readsBack j h).reads 0 hrest ?_
    rw [List.length_append]
    omega
  rw [read?, indented, String.toList_append, hread]
  dsimp only
  rw [hnothing]
  rfl

end TypstPress.Json
