import TypstPress.Document.Node
import TypstPress.Text.Blank

/-!
# Attribute blocks

A block of attributes such as `width=50%, height="3cm"` between braces may follow an image. It is
a row of entries, each ended by a comma or by the closing brace. An entry is a key, alone or with a
value after `=`. Keys and plain values are trimmed; a value between quotes is kept as it stands and
may hold any of the marks. An entry whose key is blank is skipped, and of two entries with one key
the later counts. Line feeds, carriage returns and tabs may stand nowhere in a block.

Each reader returns what it read and what follows, which is always shorter than what it was given.
-/

namespace TypstPress.AttributeBlock

/-- Characters that no block contains. -/
def isForbidden (c : Char) : Bool := c == '\n' || c == '\r' || c == '\t'

/-- Characters of keys and of values without quotes. -/
def isPlain (c : Char) : Bool := c != '=' && c != ',' && c != '\x7d' && !isForbidden c

/-- What ends an entry. -/
inductive Stop where
  | comma
  | brace
deriving DecidableEq, Repr

/-- An entry: its key and its value, if it has one. -/
abbrev Entry := List Char × Option (List Char)

/-- Reads the end of an entry. -/
def readStop : List Char → Option (Stop × List Char)
  | ',' :: rest => some (.comma, rest)
  | '\x7d' :: rest => some (.brace, rest)
  | _ => none

/-- Reads a value up to the given quote. -/
def readQuoted (quote : Char) (cs : List Char) : Option (List Char × List Char) :=
  let inside (c : Char) : Bool := c != quote && !isForbidden c
  match cs.dropWhile inside with
  | c :: rest => if c == quote then some (cs.takeWhile inside, rest) else none
  | [] => none

/-- Reads the part of an entry after `=`: spaces, a value and the end. -/
def readValue (cs : List Char) : Option (List Char × Stop × List Char) :=
  match cs.dropWhile (· == ' ') with
  | [] => none
  | c :: rest =>
    if c == '\'' || c == '"' then do
      let (value, rest) ← readQuoted c rest
      let (stop, rest) ← readStop (rest.dropWhile (· == ' '))
      some (value, stop, rest)
    else do
      let (stop, after) ← readStop ((c :: rest).dropWhile isPlain)
      some (Text.trim ((c :: rest).takeWhile isPlain), stop, after)

/-- Reads an entry with what ends it. -/
def readEntry (cs : List Char) : Option (Entry × Stop × List Char) :=
  let key := cs.takeWhile isPlain
  match cs.dropWhile isPlain with
  | '=' :: rest =>
    if key.isEmpty then none
    else do
      let (value, stop, rest) ← readValue rest
      some ((Text.trim key, some value), stop, rest)
  | rest => do
    let (stop, rest) ← readStop rest
    some ((Text.trim key, none), stop, rest)

theorem length_dropWhile_le (p : Char → Bool) (cs : List Char) :
    (cs.dropWhile p).length ≤ cs.length :=
  (List.dropWhile_suffix p).length_le

theorem readStop_length {cs rest : List Char} {stop : Stop} (h : readStop cs = some (stop, rest)) :
    rest.length < cs.length := by
  unfold readStop at h
  split at h <;> simp_all

theorem readQuoted_length {quote : Char} {cs value rest : List Char}
    (h : readQuoted quote cs = some (value, rest)) : rest.length < cs.length := by
  have hle := length_dropWhile_le (fun c => c != quote && !isForbidden c) cs
  simp only [readQuoted] at h
  split at h
  · next c r hc =>
    rw [hc, List.length_cons] at hle
    split at h
    · simp only [Option.some.injEq, Prod.mk.injEq] at h
      obtain ⟨-, rfl⟩ := h
      omega
    · simp at h
  · simp at h

theorem readValue_length {cs value rest : List Char} {stop : Stop}
    (h : readValue cs = some (value, stop, rest)) : rest.length < cs.length := by
  unfold readValue at h
  have hle := length_dropWhile_le (· == ' ') cs
  split at h
  · simp at h
  · next c r hc =>
    rw [hc] at hle
    split at h
    · simp only [Option.bind_eq_bind, Option.bind_eq_some_iff, Option.some.injEq, Prod.mk.injEq,
        Prod.exists] at h
      obtain ⟨v, r', hq, s, r'', hs, -, -, rfl⟩ := h
      have := readQuoted_length hq
      have := readStop_length hs
      have := length_dropWhile_le (· == ' ') r'
      simp only [List.length_cons] at hle
      omega
    · simp only [Option.bind_eq_bind, Option.bind_eq_some_iff, Option.some.injEq, Prod.mk.injEq,
        Prod.exists] at h
      obtain ⟨s, r', hs, -, -, rfl⟩ := h
      have := readStop_length hs
      have := length_dropWhile_le isPlain (c :: r)
      omega

theorem readEntry_length {cs rest : List Char} {entry : Entry} {stop : Stop}
    (h : readEntry cs = some (entry, stop, rest)) : rest.length < cs.length := by
  unfold readEntry at h
  have hle := length_dropWhile_le isPlain cs
  revert h
  simp only []
  split
  · next r hc =>
    rw [hc] at hle
    split
    · simp
    · intro h
      simp only [Option.bind_eq_bind, Option.bind_eq_some_iff, Option.some.injEq, Prod.mk.injEq,
        Prod.exists] at h
      obtain ⟨v, s, r', hv, -, -, rfl⟩ := h
      have := readValue_length hv
      simp only [List.length_cons] at hle
      omega
  · next r hc =>
    intro h
    simp only [Option.bind_eq_bind, Option.bind_eq_some_iff, Option.some.injEq, Prod.mk.injEq,
      Prod.exists] at h
    obtain ⟨s, r', hs, -, -, rfl⟩ := h
    have := readStop_length hs
    omega

/-- Reads entries up to the closing brace. -/
def readEntries (cs : List Char) : Option (List Entry × List Char) :=
  match _h : readEntry cs with
  | none => none
  | some (entry, .brace, rest) => some ([entry], rest)
  | some (entry, .comma, rest) => (readEntries rest).map fun r => (entry :: r.1, r.2)
termination_by cs.length
decreasing_by exact readEntry_length ‹_›

/-- The attributes after an entry; one with a blank key adds nothing. -/
def store (attributes : Attributes) (entry : Entry) : Attributes :=
  if entry.1.isEmpty then attributes
  else attributes.put (String.ofList entry.1) (entry.2.map String.ofList)

/-- The attributes of a row of entries. -/
def collect (entries : List Entry) : Attributes := entries.foldl store []

/-- Reads a block at the start of a text. -/
def readBlock : List Char → Option (Attributes × List Char)
  | '\x7b' :: rest => (readEntries rest).map fun r => (collect r.1, r.2)
  | _ => none

/-- Reads a block at the start of a string. -/
def parse (s : String) : Option (Attributes × String) :=
  (readBlock s.toList).map fun r => (r.1, String.ofList r.2)

end TypstPress.AttributeBlock
