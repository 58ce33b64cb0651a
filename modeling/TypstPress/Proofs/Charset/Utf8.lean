import TypstPress.Charset.Utf8

/-!
# Strict decoding of UTF-8

Strict decoding accepts exactly what encoding writes: `decode_eq_ok_iff`. Both are compared with
the list of the byte sequences that encode a character, `Encodes`: encoding a code point writes the
one sequence that encodes it (`encodes_encodeCodePoint`, `Encodes.encodeCodePoint_eq`), and cutting
a piece off a text that is a character takes one such sequence away (`piece_of_encodes`,
`encodes_of_piece`).

The list says which second bytes may follow a first one. That is where the longer encodings of a
character are kept out, and the surrogates.
-/

namespace TypstPress.Charset.Utf8

/-- Whether a byte can stand behind the first one of a character. -/
def IsTail (b : UInt8) : Prop := 0x80 ≤ b.toNat ∧ b.toNat ≤ 0xBF

/-- The bytes that encode a code point, by their number. -/
inductive Encodes : List UInt8 → Nat → Prop where
  | one {a : UInt8} {n : Nat} : a.toNat < 0x80 → a.toNat = n → Encodes [a] n
  | two {a b : UInt8} {n : Nat} : 0xC2 ≤ a.toNat → a.toNat < 0xE0 → IsTail b →
      0x40 * (a.toNat - 0xC0) + (b.toNat - 0x80) = n → Encodes [a, b] n
  | three {a b c : UInt8} {n : Nat} : 0xE0 ≤ a.toNat → a.toNat < 0xF0 → IsTail b →
      (a.toNat = 0xE0 → 0xA0 ≤ b.toNat) → (a.toNat = 0xED → b.toNat ≤ 0x9F) → IsTail c →
      0x40 * (0x40 * (a.toNat - 0xE0) + (b.toNat - 0x80)) + (c.toNat - 0x80) = n →
      Encodes [a, b, c] n
  | four {a b c d : UInt8} {n : Nat} : 0xF0 ≤ a.toNat → a.toNat < 0xF5 → IsTail b →
      (a.toNat = 0xF0 → 0x90 ≤ b.toNat) → (a.toNat = 0xF4 → b.toNat ≤ 0x8F) → IsTail c →
      IsTail d →
      0x40 * (0x40 * (0x40 * (a.toNat - 0xF0) + (b.toNat - 0x80)) + (c.toNat - 0x80)) +
        (d.toNat - 0x80) = n →
      Encodes [a, b, c, d] n

/-! ## Encoding -/

theorem toNat_toUInt8 {n : Nat} (h : n < 0x100) : n.toUInt8.toNat = n :=
  Nat.mod_eq_of_lt h

theorem toUInt8_eq {n : Nat} {b : UInt8} (h : n = b.toNat) : n.toUInt8 = b := by
  rw [h]
  exact UInt8.ofNat_toNat

theorem encodes_encodeCodePoint {n : Nat} (h : n.isValidChar) : Encodes (encodeCodePoint n) n := by
  have hvalid : n < 0xD800 ∨ 0xDFFF < n ∧ n < 0x110000 := h
  have htail : ∀ m, (0x80 + m % 0x40).toUInt8.toNat = 0x80 + m % 0x40 := fun m =>
    toNat_toUInt8 (by omega)
  have hlast := htail n
  have hsecond := htail (n / 0x40)
  have hthird := htail (n / 0x1000)
  unfold encodeCodePoint
  split
  · have ha := @toNat_toUInt8 n (by omega)
    exact .one (by omega) (by omega)
  · split
    · have ha := @toNat_toUInt8 (0xC0 + n / 0x40) (by omega)
      exact .two (by omega) (by omega) ⟨by omega, by omega⟩ (by omega)
    · split
      · have ha := @toNat_toUInt8 (0xE0 + n / 0x1000) (by omega)
        exact .three (by omega) (by omega) ⟨by omega, by omega⟩ (by omega) (by omega)
          ⟨by omega, by omega⟩ (by omega)
      · have ha := @toNat_toUInt8 (0xF0 + n / 0x40000) (by omega)
        exact .four (by omega) (by omega) ⟨by omega, by omega⟩ (by omega) (by omega)
          ⟨by omega, by omega⟩ ⟨by omega, by omega⟩ (by omega)

theorem Encodes.isValidChar {bytes : List UInt8} {n : Nat} (h : Encodes bytes n) :
    n.isValidChar := by
  show n < 0xD800 ∨ 0xDFFF < n ∧ n < 0x110000
  cases h with
  | one ha hn => omega
  | two hlow hhigh hb hn =>
      obtain ⟨hb, hb'⟩ := hb
      omega
  | three hlow hhigh hb hE0 hED hc hn =>
      obtain ⟨⟨hb, hb'⟩, ⟨hc, hc'⟩⟩ := And.intro hb hc
      omega
  | four hlow hhigh hb hF0 hF4 hc hd hn =>
      obtain ⟨⟨hb, hb'⟩, ⟨hc, hc'⟩, ⟨hd, hd'⟩⟩ := And.intro hb (And.intro hc hd)
      omega

theorem Encodes.encodeCodePoint_eq {bytes : List UInt8} {n : Nat} (h : Encodes bytes n) :
    encodeCodePoint n = bytes := by
  unfold encodeCodePoint
  cases h with
  | one ha hn => rw [if_pos (by omega), toUInt8_eq hn.symm]
  | two hlow hhigh hb hn =>
      obtain ⟨hb, hb'⟩ := hb
      rw [if_neg (by omega), if_pos (by omega)]
      simp only [List.cons.injEq, and_true]
      exact ⟨toUInt8_eq (by omega), toUInt8_eq (by omega)⟩
  | three hlow hhigh hb hE0 hED hc hn =>
      obtain ⟨⟨hb, hb'⟩, ⟨hc, hc'⟩⟩ := And.intro hb hc
      rw [if_neg (by omega), if_neg (by omega), if_pos (by omega)]
      simp only [List.cons.injEq, and_true]
      exact ⟨toUInt8_eq (by omega), toUInt8_eq (by omega), toUInt8_eq (by omega)⟩
  | four hlow hhigh hb hF0 hF4 hc hd hn =>
      obtain ⟨⟨hb, hb'⟩, ⟨hc, hc'⟩, ⟨hd, hd'⟩⟩ := And.intro hb (And.intro hc hd)
      rw [if_neg (by omega), if_neg (by omega), if_neg (by omega)]
      simp only [List.cons.injEq, and_true]
      exact ⟨toUInt8_eq (by omega), toUInt8_eq (by omega), toUInt8_eq (by omega),
        toUInt8_eq (by omega)⟩

/-! ## Cutting off a character -/

theorem lead?_one {b : Nat} (h : b < 0x80) : lead? b = some ⟨0, 0x80, 0xBF, b⟩ :=
  if_pos h

theorem lead?_two {b : Nat} (hlow : 0xC2 ≤ b) (hhigh : b < 0xE0) :
    lead? b = some ⟨1, 0x80, 0xBF, b - 0xC0⟩ := by
  rw [lead?, if_neg (by omega), if_neg (by omega), if_pos hhigh]

theorem lead?_three {b : Nat} (hlow : 0xE0 ≤ b) (hhigh : b < 0xF0) :
    lead? b = some
      ⟨2, if b = 0xE0 then 0xA0 else 0x80, if b = 0xED then 0x9F else 0xBF, b - 0xE0⟩ := by
  rw [lead?, if_neg (by omega), if_neg (by omega), if_neg (by omega)]
  by_cases hE0 : b = 0xE0
  · subst hE0
    rfl
  · by_cases hED : b = 0xED
    · subst hED
      rfl
    · simp only [beq_iff_eq, if_neg hE0, if_neg hED, if_pos hhigh]

theorem lead?_four {b : Nat} (hlow : 0xF0 ≤ b) (hhigh : b < 0xF5) :
    lead? b = some
      ⟨3, if b = 0xF0 then 0x90 else 0x80, if b = 0xF4 then 0x8F else 0xBF, b - 0xF0⟩ := by
  have hcases : b = 0xF0 ∨ b = 0xF1 ∨ b = 0xF2 ∨ b = 0xF3 ∨ b = 0xF4 := by omega
  rcases hcases with rfl | rfl | rfl | rfl | rfl <;> rfl

theorem lead?_eq_none {b : Nat} (h : 0x80 ≤ b ∧ b < 0xC2 ∨ 0xF5 ≤ b) : lead? b = none := by
  unfold lead?
  rcases h with ⟨hlow, hhigh⟩ | h
  · rw [if_neg (by omega), if_pos hhigh]
  · simp only [beq_iff_eq]
    iterate 9 rw [if_neg (by omega)]

theorem tail_zero (taken : List UInt8) (bits low high : Nat) (rest : List UInt8) :
    tail taken bits 0 low high rest = (.character bits, rest) := by
  rw [tail]

theorem tail_cons {low high : Nat} {b : UInt8} (hlow : low ≤ b.toNat) (hhigh : b.toNat ≤ high)
    (taken : List UInt8) (bits count : Nat) (rest : List UInt8) :
    tail taken bits (count + 1) low high (b :: rest) =
      tail (taken ++ [b]) (0x40 * bits + (b.toNat - 0x80)) count 0x80 0xBF rest := by
  rw [tail, if_pos (by simp [hlow, hhigh])]

theorem tail_zero_eq_character {taken : List UInt8} {bits low high n : Nat}
    {bytes rest : List UInt8} (h : tail taken bits 0 low high bytes = (.character n, rest)) :
    bits = n ∧ bytes = rest := by
  rw [tail_zero] at h
  injection h with hpiece hrest
  injection hpiece with hn
  exact ⟨hn, hrest⟩

theorem tail_succ_eq_character {taken : List UInt8} {bits count low high n : Nat}
    {bytes rest : List UInt8}
    (h : tail taken bits (count + 1) low high bytes = (.character n, rest)) :
    ∃ b more, bytes = b :: more ∧ low ≤ b.toNat ∧ b.toNat ≤ high ∧
      tail (taken ++ [b]) (0x40 * bits + (b.toNat - 0x80)) count 0x80 0xBF more =
        (.character n, rest) := by
  cases bytes with
  | nil => cases h
  | cons b more =>
      rw [tail] at h
      split at h
      · next hb =>
          rw [Bool.and_eq_true, decide_eq_true_iff, decide_eq_true_iff] at hb
          exact ⟨b, more, rfl, hb.1, hb.2, h⟩
      · cases h

theorem piece_of_lead? {a : UInt8} {l : Lead} (h : lead? a.toNat = some l) (bytes : List UInt8) :
    piece a bytes = tail [a] l.bits l.tails l.low l.high bytes := by
  rw [piece, h]

theorem piece_of_encodes {a : UInt8} {more : List UInt8} {n : Nat} (h : Encodes (a :: more) n)
    (rest : List UInt8) : piece a (more ++ rest) = (.character n, rest) := by
  cases h with
  | one ha hn =>
      rw [piece_of_lead? (lead?_one ha), tail_zero, hn]
      rfl
  | two hlow hhigh hb hn =>
      rw [piece_of_lead? (lead?_two hlow hhigh), List.cons_append, List.nil_append,
        tail_cons hb.1 hb.2, tail_zero, hn]
  | @three _ b c _ hlow hhigh hb hE0 hED hc hn =>
      have hb1 : (if a.toNat = 0xE0 then 0xA0 else 0x80) ≤ b.toNat := by
        split
        · next ha => exact hE0 ha
        · exact hb.1
      have hb2 : b.toNat ≤ if a.toNat = 0xED then 0x9F else 0xBF := by
        split
        · next ha => exact hED ha
        · exact hb.2
      rw [piece_of_lead? (lead?_three hlow hhigh)]
      show tail [a] _ 2 _ _ (b :: c :: rest) = _
      rw [tail_cons hb1 hb2, tail_cons hc.1 hc.2, tail_zero, hn]
  | @four _ b c d _ hlow hhigh hb hF0 hF4 hc hd hn =>
      have hb1 : (if a.toNat = 0xF0 then 0x90 else 0x80) ≤ b.toNat := by
        split
        · next ha => exact hF0 ha
        · exact hb.1
      have hb2 : b.toNat ≤ if a.toNat = 0xF4 then 0x8F else 0xBF := by
        split
        · next ha => exact hF4 ha
        · exact hb.2
      rw [piece_of_lead? (lead?_four hlow hhigh)]
      show tail [a] _ 3 _ _ (b :: c :: d :: rest) = _
      rw [tail_cons hb1 hb2, tail_cons hc.1 hc.2, tail_cons hd.1 hd.2, tail_zero, hn]

theorem encodes_of_piece {a : UInt8} {bytes rest : List UInt8} {n : Nat}
    (h : piece a bytes = (.character n, rest)) :
    ∃ more, bytes = more ++ rest ∧ Encodes (a :: more) n := by
  by_cases h80 : a.toNat < 0x80
  · rw [piece_of_lead? (lead?_one h80)] at h
    obtain ⟨hn, rfl⟩ := tail_zero_eq_character h
    exact ⟨[], rfl, .one h80 hn⟩
  by_cases hC2 : a.toNat < 0xC2
  · rw [piece, lead?_eq_none (by omega)] at h
    cases h
  by_cases hE0 : a.toNat < 0xE0
  · rw [piece_of_lead? (lead?_two (by omega) hE0)] at h
    obtain ⟨b, _, rfl, hb, hb', h⟩ := tail_succ_eq_character h
    obtain ⟨hn, rfl⟩ := tail_zero_eq_character h
    exact ⟨[b], rfl, .two (by omega) hE0 ⟨hb, hb'⟩ hn⟩
  by_cases hF0 : a.toNat < 0xF0
  · rw [piece_of_lead? (lead?_three (by omega) hF0)] at h
    obtain ⟨b, _, rfl, hb, hb', h⟩ := tail_succ_eq_character h
    obtain ⟨c, _, rfl, hc, hc', h⟩ := tail_succ_eq_character h
    obtain ⟨hn, rfl⟩ := tail_zero_eq_character h
    simp only at hb hb'
    have htail : IsTail b := by
      constructor
      · split at hb <;> omega
      · split at hb' <;> omega
    exact ⟨[b, c], rfl, .three (by omega) hF0 htail (fun ha => by rwa [if_pos ha] at hb)
      (fun ha => by rwa [if_pos ha] at hb') ⟨hc, hc'⟩ hn⟩
  by_cases hF5 : a.toNat < 0xF5
  · rw [piece_of_lead? (lead?_four (by omega) hF5)] at h
    obtain ⟨b, _, rfl, hb, hb', h⟩ := tail_succ_eq_character h
    obtain ⟨c, _, rfl, hc, hc', h⟩ := tail_succ_eq_character h
    obtain ⟨d, _, rfl, hd, hd', h⟩ := tail_succ_eq_character h
    obtain ⟨hn, rfl⟩ := tail_zero_eq_character h
    simp only at hb hb'
    have htail : IsTail b := by
      constructor
      · split at hb <;> omega
      · split at hb' <;> omega
    exact ⟨[b, c, d], rfl, .four (by omega) hF5 htail (fun ha => by rwa [if_pos ha] at hb)
      (fun ha => by rwa [if_pos ha] at hb') ⟨hc, hc'⟩ ⟨hd, hd'⟩ hn⟩
  · rw [piece, lead?_eq_none (by omega)] at h
    cases h

/-! ## Texts -/

theorem encodes_char (c : Char) : Encodes (encodeCodePoint c.toNat) c.toNat :=
  encodes_encodeCodePoint c.valid

theorem pieces_encode (cs : List Char) :
    pieces (encode cs) = cs.map fun c => .character c.toNat := by
  induction cs with
  | nil => rw [encode, List.flatMap_nil, pieces, List.map_nil]
  | cons c cs ih =>
      have hc := encodes_char c
      rw [encode, List.flatMap_cons, ← encode, List.map_cons, ← ih]
      cases hbytes : encodeCodePoint c.toNat with
      | nil =>
          rw [hbytes] at hc
          cases hc
      | cons a more =>
          rw [hbytes] at hc
          rw [List.cons_append, pieces, piece_of_encodes hc]

theorem ofPieces_map (cs : List Char) (position : Nat) :
    ofPieces position (cs.map fun c => .character c.toNat) = .ok cs := by
  induction cs generalizing position with
  | nil => rfl
  | cons c cs ih =>
      rw [List.map_cons, ofPieces, ih, Char.ofNat_toNat]
      rfl

theorem encode_of_ofPieces {bytes : List UInt8} {position : Nat} {cs : List Char}
    (h : ofPieces position (pieces bytes) = .ok cs) : bytes = encode cs := by
  induction bytes using pieces.induct generalizing position cs with
  | case1 =>
      rw [pieces] at h
      cases h
      rfl
  | case2 a bytes ih =>
      rw [pieces] at h
      cases hpiece : piece a bytes with
      | mk p rest =>
          rw [hpiece] at h ih
          cases p with
          | broken => cases h
          | character n =>
              obtain ⟨more, rfl, hn⟩ := encodes_of_piece hpiece
              rw [ofPieces] at h
              cases hrest : ofPieces (position + (encodeCodePoint n).length) (pieces rest) with
              | error d =>
                  rw [hrest] at h
                  cases h
              | ok rest' =>
                  rw [hrest] at h
                  cases h
                  have hchar : (Char.ofNat n).toNat = n := by
                    rw [Char.ofNat, dif_pos hn.isValidChar]
                    rfl
                  rw [encode, List.flatMap_cons, ← encode, hchar, hn.encodeCodePoint_eq, ← ih hrest]
                  rfl

/-- Strict decoding accepts what encoding writes, and gives the text back. -/
theorem decode_eq_ok_iff {bytes : List UInt8} {cs : List Char} :
    decode bytes = .ok cs ↔ bytes = encode cs := by
  constructor
  · exact encode_of_ofPieces
  · rintro rfl
    rw [decode, pieces_encode]
    exact ofPieces_map cs 0

end TypstPress.Charset.Utf8
