import Mathlib.Algebra.Order.Field.Rat
import Mathlib.Tactic.NormNum
import TypstPress.Proofs.Charset.Detection

/-!
# Which encoding bytes are read in

Bytes that are not UTF-8 are read in the first encoding of a list that is known and that all of them
fit. First in the list is what the detector makes of the start of the bytes, if it is sure enough,
and then come the encodings that were asked for or else the usual ones. If there is none, what is
not UTF-8 is replaced.

`textIn?` says what the bytes are in one encoding of the list, so that going through the list is
`List.findSome?`. Reading agrees with this as long as it goes on through the list, that is unless it
comes to an encoding that ends the trying (`firstFitting_of_not_breaks`). It should not end there
when the reason is a name that no encoding has: see `zero_in_name_ends_trying`.

The usual encodings end with one that all bytes fit. With them nothing is replaced, and only the
detector's encoding can bring a replacement character in (`findSome?_default`).
-/

namespace TypstPress

namespace Binary64

/-! ## Comparing numbers -/

/-- The exact value of a finite number. -/
def value? (x : Binary64) : Option ℚ := x.toRatio?.map fun ratio => ratio.1 / ratio.2

theorem toRatio?_pos {x : Binary64} {m : Int} {d : Nat} (h : x.toRatio? = some (m, d)) : 0 < d := by
  cases x with
  | infinite | nan => cases h
  | finite negative s e =>
      rw [toRatio?] at h
      injection h with h
      split at h
      · injection h with _ hd
        exact hd ▸ Nat.pow_pos Nat.zero_lt_two
      · injection h with _ hd
        exact hd ▸ Nat.zero_lt_one

/-- What is not less than a finite number: greater or equal numbers, and what is no number. -/
theorem less_eq_false_iff {x least : Binary64} {v : ℚ} (h : least.value? = some v) :
    x.less least = false ↔
      x = .nan ∨ x = .infinite false ∨ ∃ w, x.value? = some w ∧ v ≤ w := by
  obtain ⟨⟨n, e⟩, hleast, rfl⟩ := Option.map_eq_some_iff.1 h
  have he : (0 : ℚ) < e := Nat.cast_pos.2 (toRatio?_pos hleast)
  cases x with
  | nan =>
      have hnone : toRatio? .nan = none := rfl
      simp [less, hleast, hnone]
  | infinite negative =>
      have hnone : toRatio? (.infinite negative) = none := rfl
      cases negative <;> simp [less, hleast, hnone, value?]
  | finite negative s k =>
      obtain ⟨⟨m, d⟩, hratio⟩ : ∃ ratio, (finite negative s k).toRatio? = some ratio := ⟨_, rfl⟩
      have hd : (0 : ℚ) < d := Nat.cast_pos.2 (toRatio?_pos hratio)
      have hcompare : (n : ℚ) / e ≤ m / d ↔ n * d ≤ m * e := by
        rw [div_le_div_iff₀ he hd]
        exact_mod_cast Iff.rfl
      simp only [less, hleast, hratio, value?, decide_eq_false_iff_not, not_lt, Option.map_some,
        Option.some.injEq, exists_eq_left', reduceCtorEq, false_or, hcompare]

end Binary64

namespace Charset

/-! ## The guess -/

/-- The least confidence that counts, which is the number nearest to 0.7. -/
def leastConfidence : ℚ := 6305039478318694 / 2 ^ 53

theorem value?_threshold : threshold.value? = some leastConfidence := by
  have hthreshold : threshold = .finite false 6305039478318694 (-53) := by decide
  rw [hthreshold, Binary64.value?, Binary64.toRatio?, leastConfidence]
  norm_num

/-- How sure a guess is: not at all if it does not say. -/
def Guess.sureness (guess : Guess) : Binary64 :=
  guess.confidence.getD (.finite false 0 Binary64.minExponent)

/-- Whether a guess counts. What is no number is not below the least confidence, so it counts. -/
def Guess.IsSure (guess : Guess) : Prop :=
  guess.sureness = .nan ∨ guess.sureness = .infinite false ∨
    ∃ v, guess.sureness.value? = some v ∧ leastConfidence ≤ v

theorem accepted_eq_some_iff {least : Binary64} {guess : Guess} {name : String} :
    (accepted least (some guess)).1 = some name ↔
      guess.encoding = some name ∧ name ≠ "" ∧ guess.sureness.less least = false := by
  obtain ⟨encoding, confidence⟩ := guess
  have hnamed : ∀ other : String, other ≠ "" →
      (accepted least (some ⟨some other, confidence⟩)).1 =
        if (Guess.sureness ⟨some other, confidence⟩).less least then none else some other := by
    intro other hother
    have hfilter : (some other).filter (· != "") = some other := by simp [hother]
    simp only [accepted, Option.bind_some, hfilter, Option.map_some]
    exact apply_ite Prod.fst _ _ _
  cases encoding with
  | none => exact iff_of_false nofun (by rintro ⟨hnone, -⟩; cases hnone)
  | some other =>
      by_cases hother : other = ""
      · subst hother
        refine iff_of_false nofun ?_
        rintro ⟨hsome, hne, -⟩
        cases hsome
        exact hne rfl
      · rw [hnamed other hother, Option.some.injEq]
        by_cases hless : (Guess.sureness ⟨some other, confidence⟩).less least = true
        · rw [if_pos hless]
          exact iff_of_false nofun fun h => absurd (hless.symm.trans h.2.2) Bool.noConfusion
        · rw [if_neg hless, Option.some.injEq]
          exact ⟨fun h => ⟨h, h ▸ hother, Bool.eq_false_of_not_eq_true hless⟩, And.left⟩

/-- The detector's encoding is tried if it has a name and the guess is sure. -/
theorem guessed_eq_some_iff {detector : Detector} {bytes : List UInt8} {name : String} :
    guessed detector bytes = some name ↔
      ∃ guess, detector (sample sampleSize bytes) = some guess ∧ guess.encoding = some name ∧
        name ≠ "" ∧ guess.IsSure := by
  rw [guessed]
  cases detector (sample sampleSize bytes) with
  | none => exact iff_of_false nofun (by rintro ⟨_, hnone, -⟩; cases hnone)
  | some guess =>
      rw [accepted_eq_some_iff, Binary64.less_eq_false_iff value?_threshold, ← Guess.IsSure]
      simp only [Option.some.injEq, exists_eq_left']

/-- The detector is shown the start of the bytes. -/
theorem sample_sampleSize (bytes : List UInt8) :
    sample sampleSize bytes = bytes.take (min 8192 bytes.length) := by
  rw [sample, if_pos (by decide), ← List.take_eq_take_min]
  rfl

theorem readBytes_congr {detector other : Detector} {bytes : List UInt8}
    (h : other (sample sampleSize bytes) = detector (sample sampleSize bytes))
    (fallbacks : List String) (further : Registry) :
    readBytes other fallbacks bytes further = readBytes detector fallbacks bytes further := by
  simp only [readBytes, readForeign, detect, h]

/-! ## The encodings in order -/

/-- How the encoding of a name reads bytes, if it is known. No known name has a zero character. -/
def codec? (further : Registry) (name : String) :
    Option (List UInt8 → Except Fault (List Char)) :=
  if '\x00' ∈ name.toList then none
  else
    match ofName? name with
    | some charset => some fun bytes => (charset.decode bytes).mapError Defect.fault
    | none => further name

/-- The text of bytes in the encoding of a name, if it is known and they all fit. -/
def textIn? (further : Registry) (bytes : List UInt8) (name : String) : Option (List Char) :=
  (codec? further name).bind fun read => (read bytes).toOption

section

variable {further : Registry} {bytes : List UInt8} {name : String}

theorem textIn?_eq_toOption :
    textIn? further bytes name = (decodeNamed further name bytes).toOption := by
  unfold textIn? codec? decodeNamed
  by_cases hzero : '\x00' ∈ name.toList
  · rw [if_pos hzero, if_pos (List.contains_iff_mem.2 hzero)]
    rfl
  · rw [if_neg hzero, if_neg fun h => hzero (List.contains_iff_mem.1 h)]
    cases ofName? name with
    | some charset => rfl
    | none => cases further name <;> rfl

theorem textIn?_eq_some_iff {cs : List Char} :
    textIn? further bytes name = some cs ↔ decodeNamed further name bytes = .ok cs := by
  rw [textIn?_eq_toOption]
  cases decodeNamed further name bytes <;> simp [Except.toOption]

theorem textIn?_eq_none_iff :
    textIn? further bytes name = none ↔ ∀ cs, decodeNamed further name bytes ≠ .ok cs := by
  rw [Option.eq_none_iff_forall_ne_some]
  exact forall_congr' fun cs => not_congr textIn?_eq_some_iff

/-- Trying encodings finds the first one that is known and fits, unless one that is come to ends
the trying. -/
theorem firstFitting_of_not_breaks {names : List String}
    (h : ∀ name, IsTried further bytes names name → ¬ Breaks further bytes name) :
    (firstFitting further bytes names).result =
      .ok ((names.findSome? (textIn? further bytes)).map String.ofList) := by
  induction names with
  | nil => rfl
  | cons first names ih =>
      rw [List.findSome?_cons]
      cases hfirst : textIn? further bytes first with
      | some cs =>
          exact firstFitting_of_ok (textIn?_eq_some_iff.1 hfirst) names
      | none =>
          have hfits := textIn?_eq_none_iff.1 hfirst
          rw [firstFitting_of_passedOver (h first (isTried_cons_iff.2 (Or.inl rfl))) hfits]
          exact ih fun name hname => h name (isTried_cons_iff.2 (Or.inr ⟨hfits, hname⟩))

/-- The text by the first encoding in order, else with replacements. -/
def textByPriority (further : Registry) (bytes : List UInt8) (names : List String) : String :=
  String.ofList ((names.findSome? (textIn? further bytes)).getD (Utf8.decodeLossy bytes))

theorem readForeign_of_not_breaks {detector : Detector} {fallbacks : List String}
    (h : ∀ name, IsTried further bytes (candidates (guessed detector bytes) fallbacks) name →
      ¬ Breaks further bytes name) :
    (readForeign detector fallbacks bytes further).result =
      .ok
        { text := textByPriority further bytes (candidates (guessed detector bytes) fallbacks)
          samples := [sample sampleSize bytes] } := by
  rw [readForeign_result, firstFitting_of_not_breaks h, textByPriority]
  cases (candidates (guessed detector bytes) fallbacks).findSome? (textIn? further bytes) <;> rfl

theorem samples_of_readForeign {detector : Detector} {fallbacks : List String} {d : Decoding}
    (h : (readForeign detector fallbacks bytes further).result = .ok d) :
    d.samples = [sample sampleSize bytes] := by
  rw [readForeign_result] at h
  cases hfound :
      (firstFitting further bytes (candidates (guessed detector bytes) fallbacks)).result with
  | error failure =>
      rw [hfound] at h
      cases h
  | ok found =>
      rw [hfound] at h
      cases h
      rfl

/-! ## The usual encodings -/

theorem textIn?_of_charset {charset : Charset} (hzero : '\x00' ∉ name.toList)
    (h : ofName? name = some charset) :
    textIn? further bytes name = (charset.decode bytes).toOption := by
  simp only [textIn?, codec?, if_neg hzero, h, Option.bind_some]
  cases charset.decode bytes <;> rfl

theorem textIn?_utf8 (hforeign : ∀ cs, bytes ≠ Utf8.encode cs) :
    textIn? further bytes "utf-8" = none := by
  have hname : ofName? "utf-8" = some .utf8 := by decide
  rw [textIn?_of_charset (by decide) hname, Charset.decode]
  cases hread : Utf8.decode bytes with
  | ok cs => exact absurd (Utf8.decode_eq_ok_iff.1 hread) (hforeign cs)
  | error d => rfl

theorem textIn?_utf8Marked (hmark : ¬ Utf8.mark <+: bytes)
    (hforeign : ∀ cs, bytes ≠ Utf8.encode cs) : textIn? further bytes "utf-8-sig" = none := by
  have hkept : Utf8.dropMark bytes = bytes := by
    rw [Utf8.dropMark, if_neg fun h => hmark (mark_isPrefix_iff.1 (beq_iff_eq.1 h))]
  have hname : ofName? "utf-8-sig" = some .utf8Marked := by decide
  rw [textIn?_of_charset (by decide) hname, Charset.decode]
  simp only [hkept]
  cases hread : Utf8.decode bytes with
  | ok cs => exact absurd (Utf8.decode_eq_ok_iff.1 hread) (hforeign cs)
  | error d => rfl

theorem textIn?_latin1 : textIn? further bytes "latin-1" = some (bytes.map SingleByte.latin1) := by
  have hname : ofName? "latin-1" = some .latin1 := by decide
  rw [textIn?_of_charset (by decide) hname]
  rfl

theorem replacement_not_mem_latin1 (bytes : List UInt8) :
    '\uFFFD' ∉ bytes.map SingleByte.latin1 := by
  intro hmem
  obtain ⟨b, -, hb⟩ := List.mem_map.1 hmem
  have hbyte : b.toNat < 0x100 := b.toNat_lt
  have hchar : (Char.ofNat b.toNat).toNat = b.toNat := by
    rw [Char.ofNat, dif_pos (show b.toNat.isValidChar from Or.inl (by omega))]
    rfl
  rw [SingleByte.latin1] at hb
  rw [hb] at hchar
  have hreplacement : ('\uFFFD' : Char).toNat = 0xFFFD := rfl
  omega

/-- With the usual encodings there is one that fits: the detector's, or Latin-1. -/
theorem findSome?_default (hmark : ¬ Utf8.mark <+: bytes) (hforeign : ∀ cs, bytes ≠ Utf8.encode cs)
    (guess : Option String) :
    (guess.toList ++ defaultFallbacks).findSome? (textIn? further bytes) =
      some ((guess.bind (textIn? further bytes)).getD (bytes.map SingleByte.latin1)) := by
  have hdefault : defaultFallbacks.findSome? (textIn? further bytes) =
      some (bytes.map SingleByte.latin1) := by
    simp only [defaultFallbacks, List.findSome?_cons, textIn?_utf8Marked hmark hforeign,
      textIn?_utf8 hforeign, textIn?_latin1]
  rw [List.findSome?_append, hdefault]
  cases guess with
  | none => rfl
  | some name =>
      rw [Option.toList_some, List.findSome?_singleton, Option.bind_some]
      cases textIn? further bytes name <;> rfl

theorem candidates_of_default {fallbacks : List String}
    (h : fallbacks = [] ∨ fallbacks = defaultFallbacks) (guess : Option String) :
    candidates guess fallbacks = guess.toList ++ defaultFallbacks := by
  rcases h with rfl | rfl <;> rfl

end

/-- Bytes that are not UTF-8 and have no byte order mark are read in the first encoding that is
known and fits, and what is not UTF-8 is replaced if there is none, exactly when no encoding that is
come to ends the trying. The detector is shown one sample and counts only by its answer to it, which
is tried first if it has a name and is sure enough. With the usual encodings one always fits, and
only the detector's can bring a replacement character in. -/
theorem readBytes_by_priority (further : Registry) (detector : Detector) (fallbacks : List String)
    {bytes : List UInt8} (hmark : ¬ Utf8.mark <+: bytes)
    (hforeign : ∀ cs, bytes ≠ Utf8.encode cs) :
    ((∀ d, (readBytes detector fallbacks bytes further).result = .ok d →
        d.samples = [bytes.take (min 8192 bytes.length)]) ∧
      ∀ other : Detector,
        other (bytes.take (min 8192 bytes.length)) =
          detector (bytes.take (min 8192 bytes.length)) →
        readBytes other fallbacks bytes further = readBytes detector fallbacks bytes further) ∧
    (∀ name, guessed detector bytes = some name ↔
      ∃ guess, detector (bytes.take (min 8192 bytes.length)) = some guess ∧
        guess.encoding = some name ∧ name ≠ "" ∧ guess.IsSure) ∧
    ((readBytes detector fallbacks bytes further).result =
        .ok
          { text := textByPriority further bytes
              ((guessed detector bytes).toList ++
                if fallbacks = [] then ["utf-8-sig", "utf-8", "latin-1"] else fallbacks)
            samples := [bytes.take (min 8192 bytes.length)] } ↔
      ∀ name, IsTried further bytes (candidates (guessed detector bytes) fallbacks) name →
        ¬ Breaks further bytes name) ∧
    (fallbacks = [] ∨ fallbacks = ["utf-8-sig", "utf-8", "latin-1"] →
      ∃ cs,
        (candidates (guessed detector bytes) fallbacks).findSome? (textIn? further bytes) =
          some cs ∧
        ((∃ name, guessed detector bytes = some name ∧ textIn? further bytes name = some cs) ∨
          cs = bytes.map SingleByte.latin1 ∧ '\uFFFD' ∉ cs)) := by
  have hsample := sample_sampleSize bytes
  have hread := readBytes_of_foreign further detector fallbacks hmark hforeign
  have hlist : candidates (guessed detector bytes) fallbacks =
      (guessed detector bytes).toList ++
        if fallbacks = [] then ["utf-8-sig", "utf-8", "latin-1"] else fallbacks := by
    cases fallbacks <;> rfl
  refine ⟨⟨?_, ?_⟩, ?_, ?_, ?_⟩
  · intro d hd
    rw [hread] at hd
    rw [← hsample]
    exact samples_of_readForeign hd
  · intro other hother
    rw [← hsample] at hother
    exact readBytes_congr hother fallbacks further
  · intro name
    rw [← hsample]
    exact guessed_eq_some_iff
  · rw [hread, ← hlist, ← hsample]
    constructor
    · intro hok
      exact (readForeign_isOk_iff further detector fallbacks).1 ⟨_, hok⟩
    · exact readForeign_of_not_breaks
  · intro husual
    rw [candidates_of_default husual]
    refine ⟨_, findSome?_default hmark hforeign _, ?_⟩
    cases hguess : guessed detector bytes with
    | none => exact Or.inr ⟨rfl, replacement_not_mem_latin1 bytes⟩
    | some name =>
        rw [Option.bind_some]
        cases htext : textIn? further bytes name with
        | none => exact Or.inr ⟨rfl, replacement_not_mem_latin1 bytes⟩
        | some cs => exact Or.inl ⟨name, rfl, htext⟩

/-- A platform with one further encoding, in which bytes from 128 on are not supported. -/
def oneFurther : Registry := fun name =>
  if name = "viscii" then
    some fun bytes =>
      (SingleByte.decode "viscii" "not supported" SingleByte.ascii? 0 bytes).mapError Defect.fault
  else none

/-- A detector that is sure of an encoding. -/
def sureOf (name : String) : Detector := fun _ =>
  some { encoding := some name, confidence := some (.ofDecimal false 99 (-2)) }

theorem not_breaks_oneFurther {bytes : List UInt8} {name : String} (h : '\x00' ∉ name.toList) :
    ¬ Breaks oneFurther bytes name := by
  rintro (hzero | ⟨read, fault, -, hread, hfault, hpassed⟩)
  · exact h hzero
  · unfold oneFurther at hread
    split at hread
    · cases hread
      simp only at hfault
      cases hdecode : SingleByte.decode "viscii" "not supported" SingleByte.ascii? 0 bytes with
      | ok cs =>
          rw [hdecode] at hfault
          cases hfault
      | error d =>
          rw [hdecode] at hfault
          cases hfault
          cases hpassed
    · cases hread

/-- An unknown guess is passed over, and so are two encodings that fail in the middle. -/
theorem readBytes_by_priority_of_quotes :
    (readBytes (sureOf "no-such-codec") ["viscii", "ascii", "Windows-1252", "latin-1"]
      [0x61, 0x93, 0x62, 0x94] oneFurther).result =
        .ok { text := "a“b”", samples := [[0x61, 0x93, 0x62, 0x94]] } := by
  have hdecode : Utf8.decode [0x61, 0x93, 0x62, 0x94] =
      .error ⟨"utf-8", 1, [0x93], "invalid start byte"⟩ := by
    rw [Utf8.decode, Utf8.pieces]
    show Utf8.ofPieces 0 (.character 0x61 :: Utf8.pieces [0x93, 0x62, 0x94]) = _
    rw [Utf8.pieces]
    rfl
  have hforeign : ∀ cs, ([0x61, 0x93, 0x62, 0x94] : List UInt8) ≠ Utf8.encode cs := by
    intro cs hcs
    rw [Utf8.decode_eq_ok_iff.2 hcs] at hdecode
    cases hdecode
  have hguessed : guessed (sureOf "no-such-codec") [0x61, 0x93, 0x62, 0x94] =
      some "no-such-codec" := by decide
  have hbreaks : ∀ name, IsTried oneFurther [0x61, 0x93, 0x62, 0x94]
      (candidates (guessed (sureOf "no-such-codec") [0x61, 0x93, 0x62, 0x94])
        ["viscii", "ascii", "Windows-1252", "latin-1"]) name →
      ¬ Breaks oneFurther [0x61, 0x93, 0x62, 0x94] name := by
    rintro name ⟨before, after, hsplit, -⟩
    have hzero : ∀ other ∈ candidates (some "no-such-codec")
        ["viscii", "ascii", "Windows-1252", "latin-1"], '\x00' ∉ other.toList := by decide
    rw [hguessed] at hsplit
    exact not_breaks_oneFurther (hzero name (by rw [hsplit]; simp))
  have hread := (readBytes_by_priority oneFurther (sureOf "no-such-codec")
    ["viscii", "ascii", "Windows-1252", "latin-1"] (by decide) hforeign).2.2.1.2 hbreaks
  rw [hguessed] at hread
  exact hread

/-- A name with a zero character is not passed over, though no encoding has it and the next one
fits. -/
theorem zero_in_name_ends_trying :
    textIn? noFurther [0xFF] "a\x00b" = none ∧ textIn? noFurther [0xFF] "latin-1" = some ['ÿ'] ∧
      (readBytes (sureOf "a\x00b") ["latin-1"] [0xFF]).result =
        .error (.fault (Fault.wrongValue "embedded null character")) := by
  have hdecode : Utf8.decode [0xFF] = .error ⟨"utf-8", 0, [0xFF], "invalid start byte"⟩ := by
    rw [Utf8.decode, Utf8.pieces]
    rfl
  refine ⟨by decide, by decide, ?_⟩
  rw [readBytes, if_neg (by decide), hdecode]
  rfl

end Charset

end TypstPress
