import TypstPress.Proofs.Typst.Scan

/-!
# Escaping is undone by scanning

Text is made ready for a literal by replacing five characters throughout the
whole text, one after the other, each by a backslash and a letter. Such a
sequence is easily wrong: every replacement also sees what the ones before it
have put in, and one that comes too late escapes an escape. `escape` goes
through the text once, and `replaceInTurn_eq_flatMap` says when the two are the
same: when no character that is still to be replaced is a backslash or a letter
already written behind one. In the order of `escapes` that holds because the
backslash comes first. With the quote in front of it, a text with a quote is
enough to end the literal early.

In the other direction stands a scanner that knows no more than these five
escapes. Behind any other backslash it has nothing to say, so that it says
anything about an escaped text is part of the claim. It reads the escape of one
character as that character (`scanChars_escapeChar`), so it reads an escaped
text as the text, comes to the quote behind it outside of any escape, and stops
there, with the rest untouched.
-/

namespace TypstPress.Typst

/-- The characters that are escaped, in the order in which they are replaced,
and what stands for them behind the backslash. -/
def escapes : List (Char × Char) :=
  [('\\', '\\'), ('"', '"'), ('\n', 'n'), ('\t', 't'), ('\r', 'r')]

/-! ## One replacement after the other -/

/-- Puts a backslash and a letter for every occurrence of a character. -/
def replaceChar (entry : Char × Char) (cs : List Char) : List Char :=
  cs.flatMap fun c => if c = entry.1 then ['\\', entry.2] else [c]

/-- Makes the replacements of a table, each in all that the one before it left. -/
def replaceInTurn (table : List (Char × Char)) (cs : List Char) : List Char :=
  table.foldl (fun cs entry => replaceChar entry cs) cs

/-- What a table puts for one character that is looked up once. -/
def substitute (table : List (Char × Char)) (c : Char) : List Char :=
  match table.lookup c with
  | some d => ['\\', d]
  | none => [c]

theorem substitute_of_not_key {table : List (Char × Char)} {c : Char}
    (h : ∀ entry ∈ table, entry.1 ≠ c) : substitute table c = [c] := by
  have hnone : table.lookup c = none := by
    rw [List.lookup_eq_none_iff]
    exact fun entry hentry => bne_iff_ne.2 (h entry hentry).symm
  rw [substitute, hnone]

theorem substitute_cons (entry : Char × Char) (table : List (Char × Char)) (c : Char) :
    substitute (entry :: table) c =
      if c = entry.1 then ['\\', entry.2] else substitute table c := by
  by_cases h : c = entry.1
  · rw [if_pos h, substitute, List.lookup_cons, beq_iff_eq.2 h]
  · rw [if_neg h, substitute, List.lookup_cons, beq_eq_false_iff_ne.2 h]
    rfl

/-- Replacements made in turn do not touch each other's work if no character
that is replaced later is one that was put in before. -/
theorem replaceInTurn_eq_flatMap {table : List (Char × Char)} (cs : List Char)
    (h : table.Pairwise fun entry later => later.1 ≠ '\\' ∧ later.1 ≠ entry.2) :
    replaceInTurn table cs = cs.flatMap (substitute table) := by
  induction table generalizing cs with
  | nil => exact (List.flatMap_singleton' cs).symm
  | cons entry table ih =>
      obtain ⟨hlater, htable⟩ := List.pairwise_cons.1 h
      have hkept : ['\\', entry.2].flatMap (substitute table) = ['\\', entry.2] := by
        rw [List.flatMap_cons, List.flatMap_singleton,
          substitute_of_not_key fun later hmem => (hlater later hmem).1,
          substitute_of_not_key fun later hmem => (hlater later hmem).2]
        rfl
      calc replaceInTurn (entry :: table) cs
          = (replaceChar entry cs).flatMap (substitute table) := ih (replaceChar entry cs) htable
        _ = cs.flatMap fun c =>
              (if c = entry.1 then ['\\', entry.2] else [c]).flatMap (substitute table) :=
            List.flatMap_assoc
        _ = cs.flatMap (substitute (entry :: table)) := by
            congr 1
            funext c
            rw [substitute_cons]
            split
            · exact hkept
            · exact List.flatMap_singleton _ c

theorem substitute_escapes (c : Char) : substitute escapes c = escapeChar c := by
  unfold escapeChar
  split
  case h_6 hslash hquote hfeed htab hreturn =>
    apply substitute_of_not_key
    simp only [escapes, List.forall_mem_cons]
    exact ⟨Ne.symm hslash, Ne.symm hquote, Ne.symm hfeed, Ne.symm htab, Ne.symm hreturn,
      fun _ h => nomatch h⟩
  all_goals rfl

theorem replaceInTurn_escapes (cs : List Char) : replaceInTurn escapes cs = escapeChars cs := by
  rw [replaceInTurn_eq_flatMap cs (by decide), escapeChars, funext substitute_escapes]

-- With the quote replaced before the backslash, a quote is read as the end of the literal.
example : replaceInTurn [('"', '"'), ('\\', '\\')] ['"'] = ['\\', '\\', '"'] := by decide

/-! ## Reading with the five escapes -/

/-- The character an escape stands for. -/
def unescape? (d : Char) : Option Char :=
  (escapes.find? fun entry => entry.2 = d).map (·.1)

/-- Reads from behind an opening quote up to the quote that ends the literal:
what was read, and what is left. -/
def scanChars : List Char → Option (List Char × List Char)
  | [] => none
  | '"' :: rest => some ([], rest)
  | ['\\'] => none
  | '\\' :: d :: rest =>
    match unescape? d with
    | some c => (scanChars rest).map fun read => (c :: read.1, read.2)
    | none => none
  | c :: rest => (scanChars rest).map fun read => (c :: read.1, read.2)

/-- Reads a string from behind an opening quote. -/
def scan (source : String) : Option (String × String) :=
  (scanChars source.toList).map fun read => (String.ofList read.1, String.ofList read.2)

theorem scanChars_escapeChar (c : Char) (rest : List Char) :
    scanChars (escapeChar c ++ rest) =
      (scanChars rest).map fun read => (c :: read.1, read.2) := by
  unfold escapeChar
  split
  case h_6 hslash hquote _ _ _ =>
    rw [List.cons_append, List.nil_append, scanChars]
    · exact hquote
    · exact fun h => absurd h hslash
    · exact fun _ _ h => absurd h hslash
  all_goals rfl

theorem scanChars_escapeChars (cs rest : List Char) :
    scanChars (escapeChars cs ++ '"' :: rest) = some (cs, rest) := by
  induction cs with
  | nil => rfl
  | cons c cs ih =>
      rw [escapeChars, List.flatMap_cons, ← escapeChars, List.append_assoc,
        scanChars_escapeChar, ih]
      rfl

theorem scan_escape (s t : String) : scan (escape s ++ "\"" ++ t) = some (s, t) := by
  have hchars : (escape s ++ "\"" ++ t).toList = escapeChars s.toList ++ '"' :: t.toList := by
    rw [String.toList_append, String.toList_append, escape, String.toList_ofList,
      List.append_assoc]
    rfl
  rw [scan, hchars, scanChars_escapeChars, Option.map_some, String.ofList_toList,
    String.ofList_toList]

/-! ## The escaper as a map -/

theorem escape_append (s t : String) : escape (s ++ t) = escape s ++ escape t := by
  rw [escape, String.toList_append, escapeChars, List.flatMap_append, String.ofList_append]
  rfl

/-- What an escape puts for a character has none of the control characters that
have an escape. -/
theorem not_mem_escapeChar (c : Char) :
    '\n' ∉ escapeChar c ∧ '\t' ∉ escapeChar c ∧ '\r' ∉ escapeChar c := by
  unfold escapeChar
  split
  case h_6 _ _ hfeed htab hreturn =>
    simp only [List.mem_singleton]
    exact ⟨Ne.symm hfeed, Ne.symm htab, Ne.symm hreturn⟩
  all_goals decide

theorem not_mem_escape (s : String) :
    '\n' ∉ (escape s).toList ∧ '\t' ∉ (escape s).toList ∧ '\r' ∉ (escape s).toList := by
  rw [escape, String.toList_ofList, escapeChars]
  simp only [List.mem_flatMap, not_exists, not_and]
  exact ⟨fun c _ => (not_mem_escapeChar c).1, fun c _ => (not_mem_escapeChar c).2.1,
    fun c _ => (not_mem_escapeChar c).2.2⟩

/-- Whatever the text and whatever follows, an escaped text is read back up to
the quote behind it. The replacements one after the other are a single map of
the characters, which keeps texts apart, carries over to what two texts make
together, and leaves no line feed, tab or carriage return. -/
theorem escaping_is_undone_by_scanning :
    (∀ s t : String, scan (escape s ++ "\"" ++ t) = some (s, t)) ∧
    (∀ s : String, String.ofList (replaceInTurn escapes s.toList) = escape s ∧
      (escape s).toList = s.toList.flatMap escapeChar) ∧
    Function.Injective escape ∧
    (escape "" = "" ∧ ∀ s t : String, escape (s ++ t) = escape s ++ escape t) ∧
    ∀ s : String,
      '\n' ∉ (escape s).toList ∧ '\t' ∉ (escape s).toList ∧ '\r' ∉ (escape s).toList := by
  refine ⟨scan_escape, fun s => ⟨?_, ?_⟩, ?_, ⟨rfl, escape_append⟩, not_mem_escape⟩
  · rw [replaceInTurn_escapes]
    rfl
  · exact String.toList_ofList
  · exact fun s t h => escape_injective h

end TypstPress.Typst
