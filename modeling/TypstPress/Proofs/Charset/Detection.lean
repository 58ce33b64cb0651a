import TypstPress.Charset.Detection
import TypstPress.Proofs.Attempt
import TypstPress.Proofs.Charset.Utf8

/-!
# When bytes can be read

Reading bytes gives a text in nearly every case: bytes that are no UTF-8 go through the encodings
that are tried, and when none of them fits, what is not UTF-8 is replaced. Two things are not met
by this. Behind a byte order mark the bytes have to be UTF-8, where without the mark they would
have been replaced; and an encoding can fail in a way that does not let the next one be tried
(`Breaks`), though none of the program's own encodings does. `readBytes_isOk_iff` says that these
are all.
-/

namespace TypstPress.Charset

/-- Whether trying an encoding is the end of all trying: its name cannot be looked up, or it is a
further encoding and fails otherwise than by bytes that do not fit. -/
def Breaks (further : Registry) (bytes : List UInt8) (name : String) : Prop :=
  '\x00' ∈ name.toList ∨
    ∃ read fault, ofName? name = none ∧ further name = some read ∧
      read bytes = .error fault ∧ isPassedOver fault = false

/-- The encoding that a detector makes out, if it is sure enough. -/
def guessed (detector : Detector) (bytes : List UInt8) : Option String :=
  (accepted threshold (detector (sample sampleSize bytes))).1

section

variable {further : Registry} {bytes : List UInt8} {name : String}

theorem breaks_iff :
    Breaks further bytes name ↔
      ∃ fault, decodeNamed further name bytes = .error fault ∧ isPassedOver fault = false := by
  unfold Breaks decodeNamed
  by_cases hzero : '\x00' ∈ name.toList
  · rw [if_pos (List.contains_iff_mem.2 hzero)]
    exact iff_of_true (Or.inl hzero) ⟨_, rfl, by decide⟩
  · rw [if_neg fun h => hzero (List.contains_iff_mem.1 h), or_iff_right hzero]
    cases hcharset : ofName? name with
    | some charset =>
        have hown : ∀ r : Except Defect (List Char),
            ¬ ∃ fault, r.mapError Defect.fault = .error fault ∧ isPassedOver fault = false := by
          rintro (d | cs) ⟨fault, hfault, hpassed⟩
          · cases hfault
            revert hpassed
            simp [isPassedOver, Defect.fault]
          · cases hfault
        refine iff_of_false ?_ (hown _)
        rintro ⟨_, _, hnone, _⟩
        cases hnone
    | none =>
        cases hfurther : further name with
        | none =>
            refine iff_of_false ?_ ?_
            · rintro ⟨_, _, _, hsome, _⟩
              cases hsome
            · rintro ⟨fault, hfault, hpassed⟩
              cases hfault
              revert hpassed
              simp [isPassedOver]
        | some read => simp

/-! ## The encodings that are tried -/

/-- Whether an encoding is come to when several are tried: none before it fits. -/
def IsTried (further : Registry) (bytes : List UInt8) (names : List String) (name : String) :
    Prop :=
  ∃ before after, names = before ++ name :: after ∧
    ∀ other ∈ before, ∀ cs, decodeNamed further other bytes ≠ .ok cs

theorem not_isTried_nil : ¬ IsTried further bytes [] name := by
  rintro ⟨before, after, hsplit, -⟩
  cases before <;> cases hsplit

theorem isTried_cons_iff {first : String} {names : List String} :
    IsTried further bytes (first :: names) name ↔
      name = first ∨
        (∀ cs, decodeNamed further first bytes ≠ .ok cs) ∧ IsTried further bytes names name := by
  constructor
  · rintro ⟨before, after, hsplit, hbefore⟩
    cases before with
    | nil =>
        cases hsplit
        exact Or.inl rfl
    | cons other before =>
        cases hsplit
        rw [List.forall_mem_cons] at hbefore
        exact Or.inr ⟨hbefore.1, before, after, rfl, hbefore.2⟩
  · rintro (rfl | ⟨hfirst, before, after, rfl, hbefore⟩)
    · exact ⟨[], names, rfl, fun _ hother => nomatch hother⟩
    · exact ⟨first :: before, after, rfl, List.forall_mem_cons.2 ⟨hfirst, hbefore⟩⟩

theorem firstFitting_of_ok {cs : List Char} (h : decodeNamed further name bytes = .ok cs)
    (names : List String) :
    (firstFitting further bytes (name :: names)).result = .ok (some (String.ofList cs)) := by
  rw [firstFitting, h]
  rfl

theorem firstFitting_of_breaks (h : Breaks further bytes name) (names : List String) :
    ∃ failure, (firstFitting further bytes (name :: names)).result = .error failure := by
  obtain ⟨fault, hfault, hpassed⟩ := breaks_iff.1 h
  refine ⟨.fault fault, ?_⟩
  rw [firstFitting, hfault]
  simp only [hpassed, Bool.false_eq_true, if_false]
  rfl

theorem firstFitting_of_passedOver (hbreaks : ¬ Breaks further bytes name)
    (hfits : ∀ cs, decodeNamed further name bytes ≠ .ok cs) (names : List String) :
    (firstFitting further bytes (name :: names)).result =
      (firstFitting further bytes names).result := by
  rw [firstFitting]
  cases hread : decodeNamed further name bytes with
  | ok cs => exact absurd hread (hfits cs)
  | error fault =>
      cases hpassed : isPassedOver fault with
      | false => exact absurd (breaks_iff.2 ⟨fault, hread, hpassed⟩) hbreaks
      | true =>
          simp only [hpassed, if_true]
          rfl

/-- Trying encodings comes to no failure exactly when none that is come to is
the end of it. -/
theorem firstFitting_isOk_iff {names : List String} :
    (∃ found, (firstFitting further bytes names).result = .ok found) ↔
      ∀ name, IsTried further bytes names name → ¬ Breaks further bytes name := by
  induction names with
  | nil => exact iff_of_true ⟨none, rfl⟩ fun name h => absurd h not_isTried_nil
  | cons first names ih =>
      by_cases hbreaks : Breaks further bytes first
      · obtain ⟨failure, hfailure⟩ := firstFitting_of_breaks hbreaks names
        refine iff_of_false ?_ fun hnone => hnone first (isTried_cons_iff.2 (Or.inl rfl)) hbreaks
        rintro ⟨found, hfound⟩
        rw [hfailure] at hfound
        cases hfound
      · by_cases hfits : ∃ cs, decodeNamed further first bytes = .ok cs
        · obtain ⟨cs, hcs⟩ := hfits
          refine iff_of_true ⟨_, firstFitting_of_ok hcs names⟩ ?_
          intro name hname
          rcases isTried_cons_iff.1 hname with rfl | ⟨hpassed, -⟩
          · exact hbreaks
          · exact absurd hcs (hpassed cs)
        · have hpassed : ∀ cs, decodeNamed further first bytes ≠ .ok cs := fun cs hcs =>
            hfits ⟨cs, hcs⟩
          rw [firstFitting_of_passedOver hbreaks hpassed, ih]
          constructor
          · intro hnone name hname
            rcases isTried_cons_iff.1 hname with rfl | ⟨-, hlater⟩
            · exact hbreaks
            · exact hnone name hlater
          · intro hnone name hname
            exact hnone name (isTried_cons_iff.2 (Or.inr ⟨hpassed, hname⟩))

theorem firstFitting_eq_none {names : List String}
    (hbreaks : ∀ name ∈ names, ¬ Breaks further bytes name)
    (hfits : ∀ name ∈ names, ∀ cs, decodeNamed further name bytes ≠ .ok cs) :
    (firstFitting further bytes names).result = .ok none := by
  induction names with
  | nil => rfl
  | cons first names ih =>
      rw [List.forall_mem_cons] at hbreaks hfits
      rw [firstFitting_of_passedOver hbreaks.1 hfits.1]
      exact ih hbreaks.2 hfits.2

end

/-! ## Reading -/

section

variable (further : Registry) (detector : Detector) (fallbacks : List String) {bytes : List UInt8}

theorem readForeign_result (bytes : List UInt8) :
    (readForeign detector fallbacks bytes further).result =
      (firstFitting further bytes (candidates (guessed detector bytes) fallbacks)).result >>=
        fun found => .ok
          { text := found.getD (String.ofList (Utf8.decodeLossy bytes))
            samples := [sample sampleSize bytes] } := by
  rw [readForeign, Attempt.result_bind_of_ok rfl, Attempt.result_bind_of_ok rfl,
    Attempt.result_bind]
  refine congrArg _ (funext fun found => ?_)
  cases found <;> rfl

theorem mark_isPrefix_iff : bytes.take 3 = Utf8.mark ↔ Utf8.mark <+: bytes := by
  rw [List.prefix_iff_eq_take, eq_comm]
  rfl

theorem readBytes_of_mark (rest : List UInt8) :
    (readBytes detector fallbacks (Utf8.mark ++ rest) further).result =
      ((Utf8.decode rest).mapError fun d => .fault d.fault) >>= fun cs =>
        .ok { text := String.ofList cs } := by
  have hmark : ((Utf8.mark ++ rest).take 3 == Utf8.mark) = true := rfl
  have hrest : (Utf8.mark ++ rest).drop 3 = rest := rfl
  rw [readBytes, if_pos hmark, hrest]
  cases Utf8.decode rest <;> rfl

theorem readBytes_of_utf8 (hmark : ¬ Utf8.mark <+: bytes) {cs : List Char}
    (h : bytes = Utf8.encode cs) :
    (readBytes detector fallbacks bytes further).result = .ok { text := String.ofList cs } := by
  rw [readBytes, if_neg fun h => hmark (mark_isPrefix_iff.1 (beq_iff_eq.1 h)),
    Utf8.decode_eq_ok_iff.2 h]
  rfl

theorem readBytes_of_foreign (hmark : ¬ Utf8.mark <+: bytes) (h : ∀ cs, bytes ≠ Utf8.encode cs) :
    readBytes detector fallbacks bytes further =
      readForeign detector fallbacks bytes further := by
  rw [readBytes, if_neg fun h => hmark (mark_isPrefix_iff.1 (beq_iff_eq.1 h))]
  cases hread : Utf8.decode bytes with
  | ok cs => exact absurd (Utf8.decode_eq_ok_iff.1 hread) (h cs)
  | error d => rfl

theorem readBytes_of_mark_isOk_iff {rest : List UInt8} :
    (∃ d, (readBytes detector fallbacks (Utf8.mark ++ rest) further).result = .ok d) ↔
      ∃ cs, rest = Utf8.encode cs := by
  rw [readBytes_of_mark]
  cases hread : Utf8.decode rest with
  | ok cs => exact iff_of_true ⟨_, rfl⟩ ⟨cs, Utf8.decode_eq_ok_iff.1 hread⟩
  | error d =>
      refine iff_of_false (fun ⟨_, h⟩ => nomatch h) ?_
      rintro ⟨cs, hcs⟩
      rw [Utf8.decode_eq_ok_iff.2 hcs] at hread
      cases hread

theorem readForeign_isOk_iff :
    (∃ d, (readForeign detector fallbacks bytes further).result = .ok d) ↔
      ∀ name, IsTried further bytes (candidates (guessed detector bytes) fallbacks) name →
        ¬ Breaks further bytes name := by
  rw [readForeign_result, ← firstFitting_isOk_iff]
  cases (firstFitting further bytes (candidates (guessed detector bytes) fallbacks)).result with
  | ok found => exact iff_of_true ⟨_, rfl⟩ ⟨_, rfl⟩
  | error f => exact iff_of_false (fun ⟨_, h⟩ => nomatch h) (fun ⟨_, h⟩ => nomatch h)

end

/-- Bytes are read exactly when they are UTF-8 behind a byte order mark, if they
have one, and when no encoding that is come to is the end of all trying. If
there is no encoding that fits, what is not UTF-8 is replaced. -/
theorem readBytes_isOk_iff (further : Registry) (detector : Detector) (fallbacks : List String)
    (bytes : List UInt8) :
    ((∃ d, (readBytes detector fallbacks bytes further).result = .ok d) ↔
      (∀ rest, bytes = Utf8.mark ++ rest → ∃ cs, rest = Utf8.encode cs) ∧
      (¬ Utf8.mark <+: bytes → (∀ cs, bytes ≠ Utf8.encode cs) →
        ∀ name, IsTried further bytes (candidates (guessed detector bytes) fallbacks) name →
          ¬ Breaks further bytes name)) ∧
    (¬ Utf8.mark <+: bytes → (∀ cs, bytes ≠ Utf8.encode cs) →
      (∀ name ∈ candidates (guessed detector bytes) fallbacks,
        ¬ Breaks further bytes name ∧ ∀ cs, decodeNamed further name bytes ≠ .ok cs) →
      (readBytes detector fallbacks bytes further).result =
        .ok
          { text := String.ofList (Utf8.decodeLossy bytes)
            samples := [sample sampleSize bytes] }) := by
  constructor
  · by_cases hmark : Utf8.mark <+: bytes
    · obtain ⟨rest, rfl⟩ := hmark
      rw [readBytes_of_mark_isOk_iff]
      constructor
      · intro hcs
        refine ⟨fun rest' heq => ?_, fun hno => absurd (List.prefix_append _ rest) hno⟩
        rwa [← List.append_cancel_left heq]
      · intro h
        exact h.1 rest rfl
    · have hnomark : ∀ rest, bytes = Utf8.mark ++ rest → ∃ cs, rest = Utf8.encode cs :=
        fun rest heq => absurd ⟨rest, heq.symm⟩ hmark
      by_cases hutf8 : ∃ cs, bytes = Utf8.encode cs
      · obtain ⟨cs, hcs⟩ := hutf8
        exact iff_of_true ⟨_, readBytes_of_utf8 further detector fallbacks hmark hcs⟩
          ⟨hnomark, fun _ hforeign => absurd hcs (hforeign cs)⟩
      · have hforeign : ∀ cs, bytes ≠ Utf8.encode cs := fun cs hcs => hutf8 ⟨cs, hcs⟩
        rw [readBytes_of_foreign further detector fallbacks hmark hforeign,
          readForeign_isOk_iff, and_iff_right hnomark]
        exact ⟨fun h _ _ => h, fun h => h hmark hforeign⟩
  · intro hmark hforeign htried
    rw [readBytes_of_foreign further detector fallbacks hmark hforeign, readForeign_result,
      firstFitting_eq_none (fun name hname => (htried name hname).1)
        (fun name hname => (htried name hname).2)]
    rfl

/-- A byte that is no UTF-8 is replaced, but not behind a byte order mark. An
encoding with a zero character in its name is not passed over for the next one. -/
theorem bytes_not_read :
    (readBytes noDetector ["ascii"] [0xFF]).result =
        .ok { text := "\uFFFD", samples := [[0xFF]] } ∧
      (readBytes noDetector ["ascii"] [0xEF, 0xBB, 0xBF, 0xFF]).result =
        .error (.fault ⟨"UnicodeDecodeError",
          "'utf-8' codec can't decode byte 0xff in position 0: invalid start byte"⟩) ∧
      (readBytes noDetector ["latin\x001", "latin1"] [0xFF]).result =
        .error (.fault (Fault.wrongValue "embedded null character")) := by
  have hdecode : Utf8.decode [0xFF] = .error ⟨"utf-8", 0, [0xFF], "invalid start byte"⟩ := by
    rw [Utf8.decode, Utf8.pieces]
    rfl
  have hlossy : Utf8.decodeLossy [0xFF] = ['\uFFFD'] := by
    rw [Utf8.decodeLossy, Utf8.pieces]
    show [_] ++ (Utf8.pieces []).map _ = _
    rw [Utf8.pieces]
    rfl
  have hforeign : ∀ fallbacks, readBytes noDetector fallbacks [0xFF] =
      readForeign noDetector fallbacks [0xFF] noFurther := by
    intro fallbacks
    rw [readBytes, if_neg (by decide), hdecode]
  refine ⟨?_, ?_, ?_⟩
  · have hnone : (firstFitting noFurther [0xFF] ["ascii"]).result = .ok none := rfl
    rw [hforeign, readForeign_result]
    show (firstFitting noFurther [0xFF] ["ascii"]).result >>= _ = _
    rw [hnone, hlossy]
    rfl
  · have hmarked := readBytes_of_mark noFurther noDetector ["ascii"] [0xFF]
    rw [hdecode] at hmarked
    exact hmarked
  · rw [hforeign]
    rfl

end TypstPress.Charset
