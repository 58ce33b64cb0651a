import TypstPress.Pipeline
import TypstPress.Proofs.Attempt
import TypstPress.Proofs.Text.Span
import TypstPress.Proofs.Yaml.Content

/-!
# What becomes of front matter

A block of front matter that is no mapping, or cannot be loaded because it is
malformed, is dropped, and the text behind it is read as if nothing had been in
front. Only faults are not dropped: a scalar that stands for no value, such as a
day that no calendar has, ends the reading of the whole document
(`extract_isOk_iff`).
-/

namespace TypstPress

open FrontMatter

namespace FrontMatter

/-! ## The block and its fences -/

theorem linesKept_of_isOpened {cs : List Char} (h : isOpened cs = true) :
    ∃ opening rest, (opening = "---\n".toList ∨ opening = "---\r\n".toList) ∧
      cs = opening ++ rest ∧ Text.linesKept cs = opening :: Text.linesKept rest := by
  unfold isOpened at h
  split at h
  · next rest =>
      refine ⟨_, rest, Or.inl rfl, rfl, ?_⟩
      simp [Text.linesKept, Text.isLineEnd]
  · next rest =>
      refine ⟨_, rest, Or.inr rfl, rfl, ?_⟩
      simp [Text.linesKept, Text.isLineEnd]
  · cases h

/-- The block stands between an opening line and a fence, and what follows is
the rest of the text. -/
theorem exists_fences {cs block rest : List Char} (h : split? cs = some (block, rest)) :
    ∃ opening closing, (opening = "---\n".toList ∨ opening = "---\r\n".toList) ∧
      isFence closing = true ∧ cs = opening ++ block ++ closing ++ rest := by
  unfold split? at h
  split at h
  · next hopened =>
      obtain ⟨opening, after, hopening, rfl, hlines⟩ := linesKept_of_isOpened hopened
      simp only [hlines, List.drop_one, List.tail_cons] at h
      split at h
      · cases h
      · next closing later hdrop =>
          cases h
          have hclosing : isFence closing = true := by
            simpa using Text.head_dropWhile hdrop
          have hafter := congrArg List.flatten (Text.eq_takeWhile_append hdrop)
          rw [Text.flatten_linesKept, List.flatten_append, List.flatten_cons] at hafter
          refine ⟨opening, closing, hopening, hclosing, ?_⟩
          rw [List.append_assoc, List.append_assoc]
          exact congrArg (opening ++ ·) hafter
  · cases h

/-! ## Extraction -/

/-- What the front matter of a block gives, if it gives anything. -/
theorem metadata_result (block : List Char) :
    (metadata block).result =
      match Yaml.load block with
      | .ok (.map entries) => .ok entries
      | .error (.fault fault) => .error (.fault fault)
      | _ => .ok [] := by
  rw [metadata]
  cases Yaml.load block with
  | ok value => cases value <;> rfl
  | error p => cases p <;> rfl

theorem metadata_of_fault {block : List Char} {fault : Fault}
    (h : Yaml.load block = .error (.fault fault)) :
    (metadata block).result = .error (.fault fault) := by
  rw [metadata_result, h]

theorem metadata_isOk {block : List Char}
    (h : ∀ fault, Yaml.load block ≠ .error (.fault fault)) :
    ∃ entries, (metadata block).result = .ok entries := by
  rw [metadata_result]
  split
  · exact ⟨_, rfl⟩
  · next hfault => exact absurd hfault (h _)
  · exact ⟨[], rfl⟩

/-- A block that is no mapping, and meets no fault, is dropped. -/
theorem metadata_of_dropped {block : List Char}
    (hmap : ∀ entries, Yaml.load block ≠ .ok (.map entries))
    (hfault : ∀ fault, Yaml.load block ≠ .error (.fault fault)) :
    (metadata block).result = .ok [] := by
  rw [metadata_result]
  split
  · next hload => exact absurd hload (hmap _)
  · next hload => exact absurd hload (hfault _)
  · rfl

variable {options : MarkdownOptions} {text : String} {block rest : List Char}

theorem extract_of_block (hfront : options.frontMatter = true)
    (h : split? text.toList = some (block, rest)) :
    (extract options text).result =
      (metadata block).result >>= fun found => .ok (String.ofList rest, found) := by
  rw [extract, if_pos hfront, h]
  exact Attempt.result_andThen _ _

theorem extract_of_no_block (h : split? text.toList = none) :
    (extract options text).result = .ok (text, []) := by
  rw [extract, h, ite_self]
  rfl

end FrontMatter

namespace Pipeline

/-- The document that a text is read as, with the metadata in front of it. -/
def bodyDocument (options : MarkdownOptions) (body : String) (metadata : Metadata) : Node :=
  .branch .document
    (Markdown.documentNodes (Markdown.read options body).tokens
      (Markdown.read options body).links)
    metadata

theorem parse_text (access : Source.Access) (options : MarkdownOptions) (text : String) :
    (parse access options (.text text)).result =
      (extract options text).result >>= fun found =>
        .ok (bodyDocument options found.1 found.2) := by
  rw [parse, Attempt.result_bind_of_ok (a := text) rfl, Attempt.result_bind]
  rfl

theorem run_of_parse {access : Source.Access} {options : MarkdownOptions} {source : Source}
    {tree : Node} (h : (parse access options source).result = .ok tree)
    (compilerOptions : Option AnyOptions) (transforms : List Transform)
    (preamble : Option String) :
    (run access (some (.markdown options)) compilerOptions transforms preamble source).result =
      (rewrite (Transform.defaults ++ transforms ++ preambleTransforms preamble) tree).result >>=
        fun tree => (compile compilerOptions tree).result := by
  have hparse : (Attempt.ofExcept (AnyOptions.forMarkdown (some (.markdown options))) >>=
      fun options => parse access options source).result = .ok tree :=
    (Attempt.result_bind_of_ok rfl _).trans h
  have hdocument : (document access (some (.markdown options)) source).result = .ok tree :=
    Attempt.result_mapFailure_of_ok hparse parseFailure
  rw [run, Attempt.result_bind_of_ok hdocument, Attempt.result_bind]

end Pipeline

namespace FrontMatter

/-- With front matter on, it is extracted from a text unless loading the block
meets a fault, which takes a fault among the tokens of the block or at a scalar.
A mapping becomes the metadata. Whatever else the block holds is dropped, and
the text behind it is read and compiled. -/
theorem extract_isOk_iff {options : MarkdownOptions} (hfront : options.frontMatter = true)
    (text : String) :
    ((∃ found, (extract options text).result = .ok found) ↔
      ∀ block rest, split? text.toList = some (block, rest) →
        ∀ fault, Yaml.load block ≠ .error (.fault fault)) ∧
    ((∀ block rest fault, split? text.toList = some (block, rest) →
      Yaml.Node.ofText? block ≠ .error (.fault fault) ∧
        ∀ root, Yaml.Node.ofText? block = .ok (some root) →
          ¬ root.Constructs (.error (.fault fault))) →
      ∃ found, (extract options text).result = .ok found) ∧
    ∀ block rest, split? text.toList = some (block, rest) →
      (∃ opening closing, (opening = "---\n".toList ∨ opening = "---\r\n".toList) ∧
        isFence closing = true ∧ text.toList = opening ++ block ++ closing ++ rest) ∧
      (∀ entries, Yaml.load block = .ok (.map entries) →
        (extract options text).result = .ok (String.ofList rest, entries)) ∧
      ((∀ entries, Yaml.load block ≠ .ok (.map entries)) →
        (∀ fault, Yaml.load block ≠ .error (.fault fault)) →
        (extract options text).result = .ok (String.ofList rest, []) ∧
          ∀ access compilerOptions transforms preamble,
            (Pipeline.run access (some (.markdown options)) compilerOptions transforms preamble
                (.text text)).result =
              (Pipeline.rewrite
                (Transform.defaults ++ transforms ++ Pipeline.preambleTransforms preamble)
                (Pipeline.bodyDocument options (String.ofList rest) [])).result >>=
                  fun tree => (Pipeline.compile compilerOptions tree).result) := by
  have hisOk : (∃ found, (extract options text).result = .ok found) ↔
      ∀ block rest, split? text.toList = some (block, rest) →
        ∀ fault, Yaml.load block ≠ .error (.fault fault) := by
    cases hsplit : split? text.toList with
    | none => exact iff_of_true ⟨_, extract_of_no_block hsplit⟩ nofun
    | some found =>
        obtain ⟨block, rest⟩ := found
        rw [extract_of_block hfront hsplit]
        constructor
        · rintro ⟨found, hfound⟩ _ _ ⟨⟩ fault hfault
          rw [metadata_of_fault hfault] at hfound
          cases hfound
        · intro hnone
          obtain ⟨entries, hentries⟩ := metadata_isOk (hnone block rest rfl)
          rw [hentries]
          exact ⟨_, rfl⟩
  refine ⟨hisOk, ?_, ?_⟩
  · intro hnone
    refine hisOk.2 fun block rest hsplit fault hfault => ?_
    rcases Yaml.load_eq_fault hfault with htokens | ⟨root, hroot, hscalar⟩
    · exact (hnone block rest fault hsplit).1 htokens
    · exact (hnone block rest fault hsplit).2 root hroot hscalar
  · intro block rest hsplit
    have hextract := extract_of_block hfront hsplit
    refine ⟨exists_fences hsplit, ?_, ?_⟩
    · intro entries hload
      rw [hextract, metadata_result, hload]
      rfl
    · intro hmap hfault
      have hdropped : (extract options text).result = .ok (String.ofList rest, []) := by
        rw [hextract, metadata_of_dropped hmap hfault]
        rfl
      refine ⟨hdropped, fun access compilerOptions transforms preamble => ?_⟩
      refine Pipeline.run_of_parse ?_ compilerOptions transforms preamble
      rw [Pipeline.parse_text, hdropped]
      rfl

theorem extract_isOk_of_unclosed :
    (extract {} "---\ntitle: [unclosed\n---\ntext").result = .ok ("text", []) := by
  have hsplit : split? "---\ntitle: [unclosed\n---\ntext".toList =
      some ("title: [unclosed\n".toList, "text".toList) := by
    decide +kernel
  have hproblem : Yaml.problemOf? "title: [unclosed\n".toList =
      some (.malformed "a comma is expected") := by
    decide +kernel
  have hload := Yaml.load_of_problemOf? hproblem
  obtain ⟨-, -, hblock⟩ := @extract_isOk_iff {} rfl "---\ntitle: [unclosed\n---\ntext"
  refine ((hblock _ _ hsplit).2.2 ?_ ?_).1
  · intro entries hmap
    rw [hload] at hmap
    cases hmap
  · intro fault hfault
    rw [hload] at hfault
    cases hfault

/-- A day that no calendar has ends the reading of a document. -/
theorem impossible_day_not_extracted :
    (extract {} "---\ndate: 2024-13-45\n---\nbody").result =
      .error (.fault (Fault.wrongValue "month must be in 1..12")) := by
  have hsplit : split? "---\ndate: 2024-13-45\n---\nbody".toList =
      some ("date: 2024-13-45\n".toList, "body".toList) := by
    decide +kernel
  have hproblem : Yaml.problemOf? "date: 2024-13-45\n".toList =
      some (.wrongValue "month must be in 1..12") := by
    decide +kernel
  have hmetadata := metadata_of_fault (Yaml.load_of_problemOf? hproblem)
  rw [extract_of_block rfl hsplit, hmetadata]
  rfl

end FrontMatter

end TypstPress
