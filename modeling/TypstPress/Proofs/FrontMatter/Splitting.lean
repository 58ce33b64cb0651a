import TypstPress.Proofs.FrontMatter
import TypstPress.Proofs.Markdown.Independence
import TypstPress.Proofs.Pipeline.RootMetadata
import TypstPress.Proofs.Text.Lines

/-!
# Where front matter ends

A text has front matter if it starts with the line of three hyphens and comes to
a fence later on. It is then four parts in a row, the opening line, the block,
the first fence and the rest, and nothing of it is lost: the block is what is
loaded and the rest is what is read. Any other text is read as it stands
(`extract_splits`).

The three places where a line is looked at do not agree on what one is. The
opening line ends with a line feed, with or without a carriage return; lines are
cut at any line end of Unicode; and a fence may have blanks on either side. None
of this has to be reconciled, because a text is cut into lines once and put
together from the same lines again. What has to be seen is that a block which
ends with a line feed does not run into the fence behind it
(`Text.linesKept_append`).
-/

namespace TypstPress

open FrontMatter

namespace FrontMatter

/-- The lines that open a block. -/
def openings : List (List Char) := ["---\n".toList, "---\r\n".toList]

/-- Whether a text has front matter: it starts with an opening line and one of
the lines behind it is a fence. -/
def HasBlock (cs : List Char) : Prop :=
  (∃ opening ∈ openings, opening <+: cs) ∧ ∃ line ∈ (Text.linesKept cs).tail, isFence line = true

instance (cs : List Char) : Decidable (HasBlock cs) :=
  inferInstanceAs (Decidable (_ ∧ _))

theorem isOpened_iff {cs : List Char} :
    isOpened cs = true ↔ ∃ opening ∈ openings, opening <+: cs := by
  constructor
  · intro h
    obtain ⟨opening, rest, hopening, rfl, -⟩ := linesKept_of_isOpened h
    refine ⟨opening, ?_, rest, rfl⟩
    rcases hopening with rfl | rfl
    · exact .head _
    · exact .tail _ (.head _)
  · rintro ⟨opening, hmem, rest, rfl⟩
    simp only [openings, List.mem_cons, List.not_mem_nil, or_false] at hmem
    rcases hmem with rfl | rfl <;> rfl

/-- A text with front matter is cut at its first fence. -/
theorem split?_of_hasBlock {cs : List Char} (h : HasBlock cs) :
    ∃ opening inner closing after, opening ∈ openings ∧
      Text.linesKept cs = opening :: (inner ++ closing :: after) ∧
      isFence closing = true ∧ (∀ line ∈ inner, isFence line = false) ∧
      split? cs = some (inner.flatten, after.flatten) := by
  obtain ⟨hopened, line, hline, hfence⟩ := h
  rw [← isOpened_iff] at hopened
  obtain ⟨opening, rest, hopening, -, hlines⟩ := linesKept_of_isOpened hopened
  rw [hlines, List.tail_cons] at hline
  cases hdrop : (Text.linesKept rest).dropWhile (!isFence ·) with
  | nil =>
      have hnone := List.dropWhile_eq_nil_iff.1 hdrop line hline
      rw [hfence] at hnone
      cases hnone
  | cons closing after =>
      refine ⟨opening, (Text.linesKept rest).takeWhile (!isFence ·), closing, after, ?_, ?_, ?_,
        fun line hline => ?_, ?_⟩
      · rcases hopening with rfl | rfl
        · exact .head _
        · exact .tail _ (.head _)
      · rw [hlines, ← Text.eq_takeWhile_append hdrop]
      · simpa using Text.head_dropWhile hdrop
      · simpa using List.mem_takeWhile_imp hline
      · simp only [split?, hopened, if_true, hlines, List.drop_one, List.tail_cons, hdrop]

theorem split?_of_not_hasBlock {cs : List Char} (h : ¬ HasBlock cs) : split? cs = none := by
  cases hsplit : split? cs with
  | none => rfl
  | some parts =>
      refine absurd ?_ h
      unfold split? at hsplit
      split at hsplit
      · next hopened =>
          refine ⟨isOpened_iff.1 hopened, ?_⟩
          dsimp only at hsplit
          split at hsplit
          · cases hsplit
          · next closing after hdrop =>
              rw [List.drop_one] at hdrop
              refine ⟨closing, ?_, by simpa using Text.head_dropWhile hdrop⟩
              rw [Text.eq_takeWhile_append hdrop]
              exact List.mem_append_right _ List.mem_cons_self
      · cases hsplit

/-- A block that ends with a line feed and holds no fence is what stands between
the fences around it. -/
theorem split?_fenced {block : List Char} (hend : block = [] ∨ ∃ line, block = line ++ ['\n'])
    (hfence : ∀ line ∈ Text.linesKept block, isFence line = false) (rest : List Char) :
    split? ("---\n".toList ++ block ++ "---\n".toList ++ rest) = some (block, rest) := by
  have hlines : Text.linesKept ("---\n".toList ++ block ++ "---\n".toList ++ rest) =
      "---\n".toList :: (Text.linesKept block ++ "---\n".toList :: Text.linesKept rest) := by
    have hfenceLine : Text.linesKept "---\n".toList = ["---\n".toList] := by decide
    have hline : ∀ cs, Text.linesKept ("---\n".toList ++ cs) =
        "---\n".toList :: Text.linesKept cs := fun cs => by
      rw [Text.linesKept_append (.inr ⟨['-', '-', '-'], by decide⟩), hfenceLine,
        List.singleton_append]
    rw [List.append_assoc, List.append_assoc, hline, Text.linesKept_append hend, hline]
  have hpass : ∀ line ∈ Text.linesKept block, (!isFence line) = true := fun line hline => by
    rw [hfence line hline]
    rfl
  have hclosing : (!isFence "---\n".toList) = false := by decide
  have htake : (Text.linesKept block ++ "---\n".toList :: Text.linesKept rest).takeWhile
      (!isFence ·) = Text.linesKept block := by
    rw [List.takeWhile_append_of_pos hpass, List.takeWhile_cons, if_neg (by rw [hclosing]; decide),
      List.append_nil]
  have hdrop : (Text.linesKept block ++ "---\n".toList :: Text.linesKept rest).dropWhile
      (!isFence ·) = "---\n".toList :: Text.linesKept rest := by
    rw [List.dropWhile_append_of_pos hpass, List.dropWhile_cons, if_neg (by rw [hclosing]; decide)]
  have hopened : isOpened ("---\n".toList ++ block ++ "---\n".toList ++ rest) = true := rfl
  simp only [split?, hopened, if_true, hlines, List.drop_one, List.tail_cons, htake, hdrop,
    Text.flatten_linesKept]

variable {options : MarkdownOptions} {text : String} {block rest : List Char}

theorem extract_of_split (hfront : options.frontMatter = true)
    (h : split? text.toList = some (block, rest)) :
    extract options text =
      (metadata block).andThen fun found => .succeed (String.ofList rest, found) := by
  rw [extract, if_pos hfront, h]

theorem extract_of_not_hasBlock (h : ¬ HasBlock text.toList) :
    extract options text = .succeed (text, []) := by
  rw [extract, split?_of_not_hasBlock h, ite_self]

end FrontMatter

namespace Pipeline

variable {options : MarkdownOptions} {access : Source.Access}

/-- Without front matter a text is the body of its document. -/
theorem parse_without_frontMatter (body : String) :
    (parse access (options.withFrontMatter false) (.text body)).result =
      .ok (bodyDocument options body []) := by
  rw [parse_text, extract, MarkdownOptions.withFrontMatter, if_neg Bool.false_ne_true]
  have hread := Markdown.read_withFrontMatter false options body
  rw [MarkdownOptions.withFrontMatter] at hread
  show Except.ok (bodyDocument _ body []) = _
  rw [bodyDocument, bodyDocument, hread]

/-- Behind a block that loads without a fault stands the body. -/
theorem parse_fenced (hfront : options.frontMatter = true) {block body : String}
    (hend : block = "" ∨ ∃ lines, block = lines ++ "\n")
    (hfence : ∀ line ∈ Text.linesKept block.toList, isFence line = false)
    (hload : ∀ fault, Yaml.load block.toList ≠ .error (.fault fault)) :
    ∃ metadata, (parse access options
      (.text ("---\n" ++ block ++ "---\n" ++ body))).result =
        .ok (bodyDocument options body metadata) := by
  have hendChars : block.toList = [] ∨ ∃ line, block.toList = line ++ ['\n'] := by
    rcases hend with rfl | ⟨lines, rfl⟩
    · exact .inl rfl
    · exact .inr ⟨lines.toList, String.toList_append⟩
  have hsplit : split? ("---\n" ++ block ++ "---\n" ++ body).toList =
      some (block.toList, body.toList) := by
    rw [String.toList_append, String.toList_append, String.toList_append]
    exact split?_fenced hendChars hfence body.toList
  obtain ⟨entries, hentries⟩ := metadata_isOk hload
  refine ⟨entries, ?_⟩
  rw [parse_text, extract_of_split hfront hsplit, Attempt.result_andThen, hentries]
  show Except.ok (bodyDocument options (String.ofList body.toList) entries) = _
  rw [String.ofList_toList]

end Pipeline

namespace FrontMatter

/-- A text with front matter is its opening line, its block, its first fence and
its rest in a row; the block is loaded, and the rest is read. A text without is
read whole. So a text behind a block that ends with a line feed, holds no fence
and loads without a fault compiles as if it stood alone and front matter were
switched off, whatever transforms are run that do not read metadata. -/
theorem extract_splits {options : MarkdownOptions} (hfront : options.frontMatter = true) :
    (∀ text : String, HasBlock text.toList →
      ∃ opening inner closing after, opening ∈ openings ∧
        Text.linesKept text.toList = opening :: (inner ++ closing :: after) ∧
        isFence closing = true ∧ (∀ line ∈ inner, isFence line = false) ∧
        opening ++ inner.flatten ++ closing ++ after.flatten = text.toList ∧
        extract options text =
          (metadata inner.flatten).andThen fun found =>
            .succeed (String.ofList after.flatten, found)) ∧
    (∀ text : String, ¬ HasBlock text.toList → extract options text = .succeed (text, [])) ∧
    ∀ (block body : String) (access : Source.Access) (compilerOptions : Option AnyOptions)
      (transforms : List Transform) (preamble : Option String),
      (block = "" ∨ ∃ lines, block = lines ++ "\n") →
      (∀ line ∈ Text.linesKept block.toList, isFence line = false) →
      (∀ fault, Yaml.load block.toList ≠ .error (.fault fault)) →
      (∀ t ∈ transforms, t.isBuiltIn = true ∨ IgnoresMetadata t.apply) →
      (Pipeline.run access (some (.markdown options)) compilerOptions transforms preamble
          (.text ("---\n" ++ block ++ "---\n" ++ body))).result =
        (Pipeline.run access (some (.markdown (options.withFrontMatter false))) compilerOptions
          transforms preamble (.text body)).result := by
  refine ⟨fun text h => ?_, fun text h => extract_of_not_hasBlock h, ?_⟩
  · obtain ⟨opening, inner, closing, after, hopening, hlines, hclosing, hinner, hsplit⟩ :=
      split?_of_hasBlock h
    refine ⟨opening, inner, closing, after, hopening, hlines, hclosing, hinner, ?_,
      extract_of_split hfront hsplit⟩
    have hflat := congrArg List.flatten hlines
    rw [Text.flatten_linesKept] at hflat
    rw [hflat]
    simp
  · intro block body access compilerOptions transforms preamble hend hfence hload hignores
    obtain ⟨entries, hparse⟩ :=
      @Pipeline.parse_fenced options access hfront block body hend hfence hload
    have hts : ∀ t ∈ Pipeline.allTransforms transforms preamble, IgnoresMetadata t.apply :=
      Pipeline.forall_mem_allTransforms (fun t => Transform.ignoresMetadata_of_isBuiltIn)
        fun t ht => (hignores t ht).elim Transform.ignoresMetadata_of_isBuiltIn id
    have hapart : Node.SameApart (Pipeline.bodyDocument options body entries)
        (Pipeline.bodyDocument options body []) := .branch _ _ _ _
    rw [Pipeline.run_of_parse hparse,
      Pipeline.run_of_parse (Pipeline.parse_without_frontMatter body)]
    exact Pipeline.compiled_of_apart hts compilerOptions hapart

/-- The three kinds of line end at once, a text that is never closed, and a block
that does not load in front of a body with a rule in it. -/
theorem extract_splits_mixed_lines :
    (∃ opening inner closing after, opening ∈ openings ∧
      Text.linesKept "---\r\nt: a\u2028 ---\t\nb\n---\n".toList =
        opening :: (inner ++ closing :: after) ∧
      isFence closing = true ∧ (∀ line ∈ inner, isFence line = false) ∧
      opening ++ inner.flatten ++ closing ++ after.flatten =
        "---\r\nt: a\u2028 ---\t\nb\n---\n".toList ∧
      extract {} "---\r\nt: a\u2028 ---\t\nb\n---\n" =
        (metadata inner.flatten).andThen fun found =>
          .succeed (String.ofList after.flatten, found)) ∧
    extract {} "---\nt: a\n--- b" = .succeed ("---\nt: a\n--- b", []) ∧
    ∀ access : Source.Access,
      (Pipeline.run access (some (.markdown {})) none [] none
          (.text ("---\n" ++ "title: [unclosed\n" ++ "---\n" ++ "a\n\n---\n"))).result =
        (Pipeline.run access (some (.markdown (MarkdownOptions.withFrontMatter {} false))) none []
          none (.text "a\n\n---\n")).result := by
  have hproblem : Yaml.problemOf? "title: [unclosed\n".toList =
      some (.malformed "a comma is expected") := by
    decide +kernel
  have hload : ∀ fault, Yaml.load "title: [unclosed\n".toList ≠ .error (.fault fault) := by
    rw [Yaml.load_of_problemOf? hproblem]
    exact nofun
  obtain ⟨hblock, hnone, hrun⟩ := @extract_splits {} rfl
  exact ⟨hblock _ (by decide), hnone _ (by decide), fun access =>
    hrun "title: [unclosed\n" "a\n\n---\n" access none [] none
      (.inr ⟨"title: [unclosed", by decide⟩) (by decide) hload nofun⟩

end FrontMatter

end TypstPress
