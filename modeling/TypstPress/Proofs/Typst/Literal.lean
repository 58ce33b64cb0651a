import TypstPress.Proofs.Typst.Reader

/-!
# Where the literals of a source begin and end

Everything a document says is set inside string literals, and what is outside
of them is markup. This file makes the border exact. A reading of the source
from the left is outside a literal, inside one, or behind a backslash inside
one; that is all it has to remember, so it splits along concatenation and the
pieces of a source can be looked at one by one.

The fact the rest stands on is `after_escapeChars`: whatever the text, reading
what `escapeChars` makes of it ends where it began, inside the literal, and
shows nothing. A quote in the text arrives behind a backslash, and so does a
backslash, which is why a text that ends in one cannot protect the quote that
closes its literal.

Outside of literals a source has to be free of quotes, which is what `Plain`
says of a string. Numbers are, and the words for alignments.
-/

namespace TypstPress.Typst

/-- Where a reading of Typst source stands. -/
inductive Place where
  | outside
  | inside
  | escaped
deriving DecidableEq

namespace Place

/-- The place behind one more character. -/
def step : Place → Char → Place
  | .outside, c => if c = '"' then .inside else .outside
  | .inside, c => if c = '"' then .outside else if c = '\\' then .escaped else .inside
  | .escaped, _ => .inside

/-- Whether a character is markup: it is outside of literals, or closes one. -/
def shows : Place → Char → Bool
  | .outside, _ => true
  | .inside, c => c = '"'
  | .escaped, _ => false

/-- The place behind a text. -/
def after (p : Place) (cs : List Char) : Place := cs.foldl step p

theorem after_cons (p : Place) (c : Char) (cs : List Char) :
    p.after (c :: cs) = (p.step c).after cs :=
  rfl

theorem after_append (p : Place) (cs ds : List Char) :
    p.after (cs ++ ds) = (p.after cs).after ds :=
  List.foldl_append

end Place

/-- What a text shows when it is read from a place: all but the inside of its
literals. -/
def skeletonFrom : Place → List Char → List Char
  | _, [] => []
  | p, c :: cs =>
    if p.shows c then c :: skeletonFrom (p.step c) cs else skeletonFrom (p.step c) cs

/-- Typst source without the inside of its string literals. -/
def skeleton (source : String) : String :=
  String.ofList (skeletonFrom .outside source.toList)

example : skeleton "#emph[#\"a\\\"] #b\"]" = "#emph[#\"\"]" := by decide

theorem skeletonFrom_append (p : Place) (cs ds : List Char) :
    skeletonFrom p (cs ++ ds) = skeletonFrom p cs ++ skeletonFrom (p.after cs) ds := by
  induction cs generalizing p with
  | nil => rfl
  | cons c cs ih =>
      rw [List.cons_append, skeletonFrom, skeletonFrom, ih, Place.after_cons]
      split
      · rfl
      · rfl

/-! ## Escaped text stays inside -/

theorem Place.readsLiteral : ReadsLiteral step (fun _ => inside) (fun _ => escaped) where
  text _ _ hquote hslash := by rw [step, if_neg hquote, if_neg hslash]
  backslash _ := rfl
  behind _ _ := rfl

theorem after_escapeChar (c : Char) : Place.inside.after (escapeChar c) = .inside :=
  Place.readsLiteral.foldl_escapeChar [] c

theorem skeletonFrom_escapeChar (c : Char) :
    skeletonFrom .inside (escapeChar c) = [] := by
  rcases escapeChar_cases c with ⟨d, h, -⟩ | ⟨h, hquote, hslash⟩
  · rw [h]
    rfl
  · rw [h]
    simp [skeletonFrom, Place.shows, hquote]

/-- Reading an escaped text ends where it began. -/
theorem after_escapeChars (cs : List Char) : Place.inside.after (escapeChars cs) = .inside :=
  Place.readsLiteral.foldl_escapeChars [] cs

theorem skeletonFrom_escapeChars (cs : List Char) :
    skeletonFrom .inside (escapeChars cs) = [] := by
  induction cs with
  | nil => rfl
  | cons c cs ih =>
      rw [escapeChars, List.flatMap_cons, ← escapeChars, skeletonFrom_append,
        after_escapeChar, skeletonFrom_escapeChar, ih]
      rfl

theorem after_escape (s : String) : Place.inside.after (escape s).toList = .inside := by
  rw [escape, String.toList_ofList, after_escapeChars]

theorem skeletonFrom_escape (s : String) :
    skeletonFrom .inside (escape s).toList = [] := by
  rw [escape, String.toList_ofList, skeletonFrom_escapeChars]

/-! ## Plain text stays outside -/

/-- A string without quotes. -/
def Plain (s : String) : Prop := '"' ∉ s.toList

instance (s : String) : Decidable (Plain s) := inferInstanceAs (Decidable ('"' ∉ s.toList))

theorem plain_append {s t : String} (hs : Plain s) (ht : Plain t) : Plain (s ++ t) := by
  rw [Plain, String.toList_append, List.mem_append, not_or]
  exact ⟨hs, ht⟩

theorem after_of_quote_not_mem {cs : List Char} (h : '"' ∉ cs) :
    Place.outside.after cs = .outside :=
  foldl_of_forall_eq fun _ hc => if_neg (ne_of_mem_of_not_mem hc h)

/-! ## Numbers, alignments and asset ids -/

theorem mem_toDigits {base n : Nat} (hbase : 1 < base) {c : Char}
    (h : c ∈ Nat.toDigits base n) : ∃ d < base, c = Nat.digitChar d := by
  induction n using Nat.strongRecOn with
  | ind n ih =>
      by_cases hn : n < base
      · rw [Nat.toDigits_of_lt_base hn, List.mem_singleton] at h
        exact ⟨n, hn, h⟩
      · rw [Nat.toDigits_of_base_le hbase (by omega), List.mem_append,
          List.mem_singleton] at h
        rcases h with h | h
        · exact ih (n / base) (Nat.div_lt_self (by omega) hbase) h
        · exact ⟨n % base, Nat.mod_lt n (by omega), h⟩

theorem escapeChar_digitChar :
    ∀ d < 16, escapeChar (Nat.digitChar d) = [Nat.digitChar d] ∧ Nat.digitChar d ≠ '"' := by
  decide

theorem plain_toString (n : Nat) : Plain (toString n) := by
  intro h
  rw [Nat.toString_eq_repr, Nat.toList_repr] at h
  obtain ⟨d, hd, hc⟩ := mem_toDigits (by omega) h
  exact (escapeChar_digitChar d (by omega)).2 hc.symm

theorem plain_toString_int (n : Int) : Plain (toString n) := by
  cases n with
  | ofNat n => exact plain_toString n
  | negSucc n => exact plain_append (s := "-") (by decide) (plain_toString (n + 1))

theorem plain_number {a b : String} (ha : Plain a) (hb : Plain b) (n : Nat) :
    Plain (a ++ toString n ++ b) :=
  plain_append (plain_append ha (plain_toString n)) hb

theorem plain_integer {a b : String} (ha : Plain a) (hb : Plain b) (n : Int) :
    Plain (a ++ toString n ++ b) :=
  plain_append (plain_append ha (plain_toString_int n)) hb

/-- The words for the alignments of columns. -/
def alignmentWords : List String := ["center + horizon", "left + horizon", "right + horizon"]

theorem mem_alignmentWords {columns : List (Option String)} {words : List String}
    (h : columnAlignments columns = .ok words) : ∀ word ∈ words, word ∈ alignmentWords := by
  induction columns generalizing words with
  | nil =>
      cases h
      exact fun _ hw => nomatch hw
  | cons column columns ih =>
      simp only [columnAlignments] at h
      cases hrest : columnAlignments columns with
      | error alignment =>
          rw [hrest] at h
          split at h <;> cases h
      | ok rest =>
          rw [hrest] at h
          split at h
          case h_5 => cases h
          all_goals
            cases h
            rw [List.forall_mem_cons]
            exact ⟨by decide, ih hrest⟩

theorem plain_of_columnAlignments {columns : List (Option String)} {words : List String}
    (h : columnAlignments columns = .ok words) : ∀ word ∈ words, Plain word := by
  have hplain : ∀ word ∈ alignmentWords, Plain word := by decide
  exact fun word hword => hplain word (mem_alignmentWords h word hword)

theorem escapeChars_of_forall {cs : List Char} (h : ∀ c ∈ cs, escapeChar c = [c]) :
    escapeChars cs = cs := by
  induction cs with
  | nil => rfl
  | cons c cs ih =>
      rw [List.forall_mem_cons] at h
      rw [escapeChars, List.flatMap_cons, ← escapeChars, ih h.2, h.1]
      rfl

theorem escape_assetId (url : String) : escape (assetId url) = assetId url := by
  rw [escape, escapeChars_of_forall, String.ofList_toList]
  intro c hc
  rw [assetId, String.toList_append, List.mem_append] at hc
  rcases hc with hc | hc
  · rw [show "img-".toList = ['i', 'm', 'g', '-'] from rfl] at hc
    simp only [List.mem_cons, List.not_mem_nil, or_false] at hc
    rcases hc with rfl | rfl | rfl | rfl <;> rfl
  · rw [wordDigits, String.toList_ofList, List.mem_append] at hc
    rcases hc with hc | hc
    · rw [(List.mem_replicate.1 hc).2]
      rfl
    · obtain ⟨d, hd, rfl⟩ := mem_toDigits (by omega) hc
      exact (escapeChar_digitChar d hd).1

end TypstPress.Typst
