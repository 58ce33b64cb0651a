import TypstPress.Proofs.Charset.Detection
import TypstPress.Source

/-!
# UTF-8 is read back

What is written as UTF-8 is read as the text it was, for every text: the detector is not asked, so
it does not matter what it would have said, and neither do the encodings that are tried after it.
There is one exception, and it is wanted. A byte order mark at the start tells how the bytes are to
be read and is no part of the text, so a text that starts with U+FEFF loses that one character, and
only one when there are several (`readBytes_encode`).

The case to take care of is the one without a mark. Bytes that start with the three bytes of the
mark have to come from a text that starts with the character, or a text would be cut that has none;
this is where the cutting of bytes into characters is used (`mark_isPrefix_encode_iff`).

`Utf8.encode` is compared with the encoding of the standard library, so that what is said here is
said of the bytes of a `String`.
-/

namespace TypstPress

namespace Charset

namespace Utf8

/-! ## The encoding of the standard library -/

theorem utf8EncodeChar_eq (c : Char) : String.utf8EncodeChar c = encodeCodePoint c.toNat := by
  have hvalid : c.toNat < 0xD800 ∨ 0xDFFF < c.toNat ∧ c.toNat < 0x110000 := c.valid
  have hval : c.val.toNat = c.toNat := rfl
  unfold String.utf8EncodeChar encodeCodePoint
  rw [hval]
  simp only [Nat.toUInt8]
  by_cases hone : c.toNat ≤ 0x7F
  · rw [if_pos hone, if_pos (show c.toNat < 0x80 by omega)]
  rw [if_neg hone, if_neg (show ¬ c.toNat < 0x80 by omega)]
  by_cases htwo : c.toNat ≤ 0x7FF
  · rw [if_pos htwo, if_pos (show c.toNat < 0x800 by omega)]
    simp only [List.cons.injEq, and_true]
    exact ⟨congrArg UInt8.ofNat (by omega), congrArg UInt8.ofNat (by omega)⟩
  rw [if_neg htwo, if_neg (show ¬ c.toNat < 0x800 by omega)]
  by_cases hthree : c.toNat ≤ 0xFFFF
  · rw [if_pos hthree, if_pos (show c.toNat < 0x10000 by omega)]
    simp only [List.cons.injEq, and_true]
    exact ⟨congrArg UInt8.ofNat (by omega), congrArg UInt8.ofNat (by omega),
      congrArg UInt8.ofNat (by omega)⟩
  · rw [if_neg hthree, if_neg (show ¬ c.toNat < 0x10000 by omega)]
    simp only [List.cons.injEq, and_true]
    exact ⟨congrArg UInt8.ofNat (by omega), congrArg UInt8.ofNat (by omega),
      congrArg UInt8.ofNat (by omega), congrArg UInt8.ofNat (by omega)⟩

/-- Encoding gives the bytes that a string is made of. -/
theorem encode_toList (s : String) : encode s.toList = s.toUTF8.data.toList := by
  have hchar : (fun c : Char => encodeCodePoint c.toNat) = String.utf8EncodeChar :=
    funext fun c => (utf8EncodeChar_eq c).symm
  rw [String.toUTF8, ← String.utf8Encode_toList, List.utf8Encode, List.toList_data_toByteArray,
    encode, hchar]

/-! ## The byte order mark -/

theorem encode_mark (cs : List Char) : encode ('\uFEFF' :: cs) = mark ++ encode cs :=
  List.flatMap_cons

/-- Encoded bytes start with the mark exactly when the text starts with its character. -/
theorem mark_isPrefix_encode_iff {cs : List Char} :
    mark <+: encode cs ↔ ∃ rest, cs = '\uFEFF' :: rest := by
  constructor
  · rintro ⟨more, hmore⟩
    -- the mark is one piece, so it is the first character of the text
    have hmark : Encodes (0xEF :: [0xBB, 0xBF]) 0xFEFF := encodes_char '\uFEFF'
    have hpieces : pieces (encode cs) = .character 0xFEFF :: pieces more := by
      rw [← hmore]
      show pieces (0xEF :: ([0xBB, 0xBF] ++ more)) = _
      rw [pieces, piece_of_encodes hmark]
    rw [pieces_encode] at hpieces
    cases cs with
    | nil => cases hpieces
    | cons c rest =>
        injection hpieces with hc
        injection hc with hc
        have hchar : c = '\uFEFF' := Char.toNat_inj.1 hc
        exact ⟨rest, by rw [hchar]⟩
  · rintro ⟨rest, rfl⟩
    rw [encode_mark]
    exact List.prefix_append _ _

end Utf8

/-- The text without the byte order mark at its start, if it has one. -/
def withoutMark (s : String) : String :=
  match s.toList with
  | '\uFEFF' :: cs => String.ofList cs
  | _ => s

theorem withoutMark_of_mark {s : String} {cs : List Char} (h : s.toList = '\uFEFF' :: cs) :
    withoutMark s = String.ofList cs := by
  rw [withoutMark, h]
  rfl

theorem withoutMark_of_no_mark {s : String} (h : ∀ cs, s.toList ≠ '\uFEFF' :: cs) :
    withoutMark s = s := by
  unfold withoutMark
  split
  · next cs hcs => exact absurd hcs (h cs)
  · rfl

/-- A text is read back from its bytes without its mark. Nothing is recorded on the way, no sample
is shown, and the detector and the further encodings may be any. -/
theorem readBytes_encode (detector : Detector) (fallbacks : List String) (further : Registry)
    (s : String) :
    readBytes detector fallbacks (Utf8.encode s.toList) further =
      .succeed { text := withoutMark s } := by
  by_cases hmark : ∃ cs, s.toList = '\uFEFF' :: cs
  · obtain ⟨cs, hcs⟩ := hmark
    have htake : ((Utf8.mark ++ Utf8.encode cs).take 3 == Utf8.mark) = true := rfl
    have hdrop : (Utf8.mark ++ Utf8.encode cs).drop 3 = Utf8.encode cs := rfl
    rw [withoutMark_of_mark hcs, hcs, Utf8.encode_mark, readBytes, if_pos htake, hdrop,
      Utf8.decode_eq_ok_iff.2 rfl]
  · have hprefix : ¬ Utf8.mark <+: Utf8.encode s.toList := fun h =>
      hmark (Utf8.mark_isPrefix_encode_iff.1 h)
    rw [withoutMark_of_no_mark (fun cs hcs => hmark ⟨cs, hcs⟩), readBytes,
      if_neg fun h => hprefix (mark_isPrefix_iff.1 (beq_iff_eq.1 h)),
      Utf8.decode_eq_ok_iff.2 rfl]
    simp only [String.ofList_toList]

end Charset

/-! ## Sources and receivers -/

namespace Source

/-- The bytes that a source gives, if it gives bytes. -/
def bytes? (access : Access) : Source → Option (List UInt8)
  | .bytes bs | .byteStream bs => some bs
  | .file path => (access.openFile path).toOption
  | .text _ | .textStream _ | .other .. => none

theorem read_of_bytes? {access : Access} {source : Source} {bytes : List UInt8}
    (h : source.bytes? access = some bytes) : source.read access = ofBytes access bytes := by
  cases source with
  | bytes bs | byteStream bs =>
      cases h
      rfl
  | file path =>
      rw [bytes?] at h
      rw [read]
      cases hopen : access.openFile path with
      | ok bs =>
          rw [hopen] at h
          cases h
          rfl
      | error e =>
          rw [hopen] at h
          cases h
  | text | textStream | other => cases h

end Source

theorem Sink.deliver_of_isBinary {sink : Sink} (h : sink.isBinary = true) (s : String) :
    sink.deliver s = .ok (.bytes (Charset.Utf8.encode s.toList)) := by
  cases sink with
  | other typeName => cases h
  | _ => simp only [deliver, h, if_true]

namespace Charset

/-- Texts are read back. The bytes of a text are read as the text, less one byte order mark at its
start, whatever a detector says of them, which nobody asks; and so are the bytes that a receiver of
bytes is given for it, from wherever they are read. -/
theorem written_text_is_read (s : String) :
    (∀ detector fallbacks further,
      readBytes detector fallbacks s.toUTF8.data.toList further =
        .succeed { text := withoutMark s, samples := [] }) ∧
    ∀ sink : Sink, sink.isBinary = true →
      ∃ bytes, sink.deliver s = .ok (.bytes bytes) ∧
        (∀ detector fallbacks further,
          readBytes detector fallbacks bytes further =
            .succeed { text := withoutMark s, samples := [] }) ∧
        ∀ access (source : Source), source.bytes? access = some bytes →
          source.read access = .succeed (withoutMark s) := by
  have hread := fun detector fallbacks further => readBytes_encode detector fallbacks further s
  constructor
  · rw [← Utf8.encode_toList]
    exact hread
  · intro sink hsink
    refine ⟨_, Sink.deliver_of_isBinary hsink s, hread, ?_⟩
    intro access source hsource
    rw [Source.read_of_bytes? hsource, Source.ofBytes, hread]
    rfl

/-- Of two marks one is left, and a zero character is a character like others. -/
theorem written_marks_are_read :
    (Sink.writer (some "wb")).isBinary = true ∧
      ∃ bytes, (Sink.writer (some "wb")).deliver "\uFEFF\uFEFFé\x00😀" = .ok (.bytes bytes) ∧
        bytes = [0xEF, 0xBB, 0xBF, 0xEF, 0xBB, 0xBF, 0xC3, 0xA9, 0x00, 0xF0, 0x9F, 0x98, 0x80] ∧
        readBytes (fun _ => some ⟨some "ascii", none⟩) [] bytes =
          .succeed { text := "\uFEFFé\x00😀", samples := [] } ∧
        (Source.byteStream bytes).read (.withoutFiles noDetector) = .succeed "\uFEFFé\x00😀" := by
  have hbinary : (Sink.writer (some "wb")).isBinary = true := by decide
  obtain ⟨bytes, hbytes, hread, hsource⟩ :=
    (written_text_is_read "\uFEFF\uFEFFé\x00😀").2 (.writer (some "wb")) hbinary
  refine ⟨hbinary, bytes, hbytes, ?_, hread _ _ _, hsource _ (.byteStream bytes) rfl⟩
  rw [Sink.deliver_of_isBinary hbinary] at hbytes
  cases hbytes
  decide

end Charset

end TypstPress
