import Mathlib.Data.List.Induction
import Mathlib.Data.List.Nodup
import TypstPress.Proofs.Text.Span
import TypstPress.Transform.AttributeBlock

/-!
# The grammar of attribute blocks

`readBlock` reads a block from the left and decides as it goes. This file says
what it accepts without reading: a block is a brace, items with commas between
them, and a brace, where an item is one of the written forms of an entry. A
text starts with a block in one way at most, and it is read as one exactly when
it does (`parse_iff_isBlock`).

The grammar looks ambiguous, because quotes and spaces may stand in keys and in
values without quotes. It is not: a key ends at the first mark, so what stands
before that mark is settled, and behind an `=` the first character that is no
space tells the three forms of a value apart. Both the reading and the
uniqueness come down to one fact about a text of one sort of characters with a
character of another sort behind it (`Text.eq_of_append_eq`).

What a block says is told in closed form as well: its keys in the order in
which they first appear, each with the value of its last entry.
-/

namespace TypstPress.AttributeBlock

open Text

/-! ## Blocks as they are written -/

/-- What may be written behind the `=` of an entry and the spaces after it. -/
inductive Value where
  | missing
  | plain (text : List Char)
  | quoted (quote : Char) (text : List Char) (spaces : Nat)

/-- An entry as it is written. -/
inductive Item where
  | bare (text : List Char)
  | valued (key : List Char) (spaces : Nat) (value : Value)

/-- A text without the marks that structure a block. -/
def Unmarked (cs : List Char) : Prop := ∀ c ∈ cs, c ≠ '=' ∧ c ≠ ',' ∧ c ≠ '\x7d'

/-- A text without the characters that no block contains. -/
def Allowed (cs : List Char) : Prop := ∀ c ∈ cs, isForbidden c = false

def isQuote (c : Char) : Bool := c == '\'' || c == '"'

namespace Value

def chars : Value → List Char
  | missing => []
  | plain text => text
  | quoted quote text spaces => quote :: text ++ quote :: List.replicate spaces ' '

/-- A value without quotes is not empty and starts with neither a space nor a
quote; one between quotes holds anything but its quote. -/
def IsWritten : Value → Prop
  | missing => True
  | plain text => Unmarked text ∧ ∃ c rest, text = c :: rest ∧ c ≠ ' ' ∧ isQuote c = false
  | quoted quote text _ => isQuote quote = true ∧ quote ∉ text

def isQuoted : Value → Bool
  | missing | plain _ => false
  | quoted .. => true

/-- What a value says. -/
def text : Value → List Char
  | missing => []
  | plain text => Text.trim text
  | quoted _ text _ => text

end Value

namespace Item

def chars : Item → List Char
  | bare text => text
  | valued key spaces value => key ++ '=' :: (List.replicate spaces ' ' ++ value.chars)

def IsWritten : Item → Prop
  | bare text => Unmarked text
  | valued key _ value => key ≠ [] ∧ Unmarked key ∧ value.IsWritten

/-- The entry that an item is read as. -/
def entry : Item → Entry
  | bare text => (Text.trim text, none)
  | valued key _ value => (Text.trim key, some value.text)

def key (item : Item) : String := String.ofList item.entry.1

def value? (item : Item) : Option String := item.entry.2.map String.ofList

end Item

/-- Items with commas between them. -/
def itemsChars (items : List Item) : List Char := [','].intercalate (items.map Item.chars)

/-- The block that holds the items. -/
def blockChars (items : List Item) : List Char := '\x7b' :: itemsChars items ++ ['\x7d']

/-- Whether a text is the block of some items and what follows it. -/
structure IsBlock (text : String) (items : List Item) (rest : String) : Prop where
  nonempty : items ≠ []
  written : ∀ item ∈ items, item.IsWritten
  allowed : Allowed (blockChars items)
  text_eq : text = String.ofList (blockChars items) ++ rest

/-- The keys of items in the order of their first appearance, blank ones left
out. -/
def keysOf (items : List Item) : List String :=
  ((items.map Item.key).filter (!·.isEmpty)).eraseDups

/-- The value of the last item with a key. -/
def lastValue? (items : List Item) (key : String) : Option String :=
  (items.filter (·.key == key)).getLast?.bind Item.value?

/-- What a block of items says. -/
def attributesOf (items : List Item) : Attributes :=
  (keysOf items).map fun key => (key, lastValue? items key)

/-! ## Spaces and unmarked texts -/

theorem exists_spaces_of_dropWhile {cs rest : List Char} {c : Char}
    (h : cs.dropWhile (· == ' ') = c :: rest) :
    ∃ n, cs = List.replicate n ' ' ++ c :: rest := by
  have hspaces : cs.takeWhile (· == ' ') =
      List.replicate (cs.takeWhile (· == ' ')).length ' ' :=
    List.eq_replicate_iff.2
      ⟨rfl, fun _ hc => eq_of_beq (List.mem_takeWhile_imp (p := (· == ' ')) hc)⟩
  exact ⟨_, hspaces ▸ eq_takeWhile_append h⟩

theorem eq_space_of_mem {n : Nat} : ∀ c ∈ List.replicate n ' ', (c == ' ') = true := by
  intro c hc
  rw [(List.mem_replicate.1 hc).2]
  rfl

theorem isPlain_iff {c : Char} :
    isPlain c = true ↔ (c ≠ '=' ∧ c ≠ ',' ∧ c ≠ '\x7d') ∧ isForbidden c = false := by
  simp [isPlain, and_assoc]

theorem forall_isPlain_iff {cs : List Char} :
    (∀ c ∈ cs, isPlain c = true) ↔ Unmarked cs ∧ Allowed cs := by
  simp only [isPlain_iff, Unmarked, Allowed]
  exact ⟨fun h => ⟨fun c hc => (h c hc).1, fun c hc => (h c hc).2⟩,
    fun h c hc => ⟨h.1 c hc, h.2 c hc⟩⟩

theorem Allowed.append_iff {cs ds : List Char} :
    Allowed (cs ++ ds) ↔ Allowed cs ∧ Allowed ds :=
  List.forall_mem_append

theorem Allowed.cons_iff {c : Char} {cs : List Char} :
    Allowed (c :: cs) ↔ isForbidden c = false ∧ Allowed cs :=
  List.forall_mem_cons

theorem allowed_nil : Allowed [] := fun _ hc => absurd hc List.not_mem_nil

theorem allowed_replicate (n : Nat) : Allowed (List.replicate n ' ') := by
  intro c hc
  rw [(List.mem_replicate.1 hc).2]
  rfl

/-! ## The end of an entry -/

def Stop.char : Stop → Char
  | .comma => ','
  | .brace => '\x7d'

theorem Stop.char_injective {stop stop' : Stop} (h : stop.char = stop'.char) : stop = stop' := by
  cases stop <;> cases stop' <;> first | rfl | exact absurd h (by decide)

theorem Stop.cons_inj {stop stop' : Stop} {rest rest' : List Char}
    (h : stop.char :: rest = stop'.char :: rest') : stop = stop' ∧ rest = rest' :=
  ⟨Stop.char_injective (List.cons.inj h).1, (List.cons.inj h).2⟩

theorem Stop.isPlain_char (stop : Stop) : isPlain stop.char = false := by
  cases stop <;> rfl

theorem Stop.char_ne (stop : Stop) : stop.char ≠ ' ' ∧ stop.char ≠ '=' := by
  cases stop <;> decide

theorem Stop.isQuote_char (stop : Stop) : isQuote stop.char = false := by
  cases stop <;> rfl

theorem readStop_eq_some_iff {cs rest : List Char} {stop : Stop} :
    readStop cs = some (stop, rest) ↔ cs = stop.char :: rest := by
  constructor
  · intro h
    unfold readStop at h
    split at h
    · cases h
      rfl
    · cases h
      rfl
    · cases h
  · rintro rfl
    cases stop <;> rfl

/-! ## Values -/

theorem readQuoted_eq_some_iff {quote : Char} {cs value rest : List Char} :
    readQuoted quote cs = some (value, rest) ↔
      cs = value ++ quote :: rest ∧ quote ∉ value ∧ Allowed value := by
  have hinside : ∀ value : List Char,
      (∀ c ∈ value, (c != quote && !isForbidden c) = true) ↔ quote ∉ value ∧ Allowed value := by
    intro value
    simp only [Bool.and_eq_true, bne_iff_ne, Bool.not_eq_true', Allowed]
    exact ⟨fun h => ⟨fun hq => (h quote hq).1 rfl, fun c hc => (h c hc).2⟩,
      fun h c hc => ⟨fun hcq => h.1 (hcq ▸ hc), h.2 c hc⟩⟩
  constructor
  · intro h
    simp only [readQuoted] at h
    split at h
    · next c after hdrop =>
        split at h
        · next hquote =>
            cases h
            obtain rfl := eq_of_beq hquote
            exact ⟨eq_takeWhile_append hdrop,
              (hinside _).1 fun d hd => List.mem_takeWhile_imp (l := cs) hd⟩
        · cases h
    · cases h
  · rintro ⟨rfl, hvalue⟩
    have hquote : (quote != quote && !isForbidden quote) = false := by simp
    have hall := (hinside value).2 hvalue
    simp only [readQuoted, dropWhile_append_cons hall hquote,
      takeWhile_append_cons hall hquote, beq_self_eq_true, if_true]

/-- What stands behind the spaces before a value is no space, and tells whether
the value is quoted. -/
theorem Value.exists_head {value : Value} (h : value.IsWritten) (stop : Stop)
    (rest : List Char) :
    ∃ c after, value.chars ++ stop.char :: rest = c :: after ∧ (c == ' ') = false ∧
      isQuote c = value.isQuoted := by
  cases value with
  | missing => exact ⟨stop.char, rest, rfl, by simp [stop.char_ne.1], stop.isQuote_char⟩
  | plain text =>
      obtain ⟨-, c, after, rfl, hspace, hquote⟩ := h
      exact ⟨c, _, rfl, by simp [hspace], hquote⟩
  | quoted quote text spaces =>
      refine ⟨quote, _, rfl, ?_, h.1⟩
      cases hq : quote == ' ' with
      | false => rfl
      | true =>
          rw [eq_of_beq hq] at h
          exact absurd h.1 (by decide)

theorem readValue_of_dropWhile {cs after : List Char} {c : Char}
    (h : cs.dropWhile (· == ' ') = c :: after) :
    readValue cs =
      if isQuote c then
        (readQuoted c after).bind fun read =>
          (readStop (read.2.dropWhile (· == ' '))).bind fun tail =>
            some (read.1, tail.1, tail.2)
      else
        (readStop ((c :: after).dropWhile isPlain)).bind fun tail =>
          some (Text.trim ((c :: after).takeWhile isPlain), tail.1, tail.2) := by
  rw [readValue, h]
  rfl

theorem readValue_chars {value : Value} (h : value.IsWritten) (hallowed : Allowed value.chars)
    (spaces : Nat) (stop : Stop) (rest : List Char) :
    readValue (List.replicate spaces ' ' ++ (value.chars ++ stop.char :: rest)) =
      some (value.text, stop, rest) := by
  obtain ⟨c, after, hhead, hspace, -⟩ := value.exists_head h stop rest
  have hstop : readStop (stop.char :: rest) = some (stop, rest) := readStop_eq_some_iff.2 rfl
  rw [hhead, readValue_of_dropWhile (dropWhile_append_cons eq_space_of_mem hspace after)]
  cases value with
  | missing =>
      obtain ⟨rfl, rfl⟩ := List.cons.inj hhead
      rw [stop.isQuote_char, if_neg Bool.false_ne_true, List.dropWhile_cons, List.takeWhile_cons,
        stop.isPlain_char, if_neg Bool.false_ne_true, if_neg Bool.false_ne_true, hstop]
      rfl
  | plain text =>
      obtain ⟨hunmarked, d, ds, rfl, -, hquote⟩ := h
      have hplain := forall_isPlain_iff.2 ⟨hunmarked, hallowed⟩
      obtain rfl : d = c := (List.cons.inj hhead).1
      rw [hquote, if_neg Bool.false_ne_true, ← hhead, Value.chars,
        dropWhile_append_cons hplain stop.isPlain_char,
        takeWhile_append_cons hplain stop.isPlain_char, hstop]
      rfl
  | quoted quote text n =>
      obtain ⟨hquote, hfree⟩ := h
      obtain ⟨rfl, rfl⟩ := List.cons.inj hhead
      rw [Value.chars, Allowed.append_iff, Allowed.cons_iff] at hallowed
      have hread : readQuoted quote
          ((text.append (quote :: List.replicate n ' ')).append (stop.char :: rest)) =
            some (text, List.replicate n ' ' ++ stop.char :: rest) :=
        readQuoted_eq_some_iff.2 ⟨by simp, hfree, hallowed.1.2⟩
      have hspaces : (List.replicate n ' ' ++ stop.char :: rest).dropWhile (· == ' ') =
          stop.char :: rest :=
        dropWhile_append_cons eq_space_of_mem (by simp [stop.char_ne.1]) rest
      rw [hquote, if_pos rfl, hread, Option.bind_some, hspaces, hstop]
      rfl

theorem exists_value_of_readValue {cs text rest : List Char} {stop : Stop}
    (h : readValue cs = some (text, stop, rest)) :
    ∃ (spaces : Nat) (value : Value),
      cs = List.replicate spaces ' ' ++ (value.chars ++ stop.char :: rest) ∧
        value.IsWritten ∧ Allowed value.chars ∧ value.text = text := by
  cases hdrop : cs.dropWhile (· == ' ') with
  | nil =>
      rw [readValue, hdrop] at h
      cases h
  | cons c after =>
      obtain ⟨spaces, rfl⟩ := exists_spaces_of_dropWhile hdrop
      have hspace := head_dropWhile hdrop
      rw [readValue_of_dropWhile hdrop] at h
      split at h
      · next hquote =>
          simp only [Option.bind_eq_some_iff, Prod.exists, Option.some.injEq, Prod.mk.injEq] at h
          obtain ⟨value, after', hread, stop', rest', hstop, rfl, rfl, rfl⟩ := h
          obtain ⟨rfl, hfree, hallowed⟩ := readQuoted_eq_some_iff.1 hread
          obtain ⟨n, rfl⟩ := exists_spaces_of_dropWhile (readStop_eq_some_iff.1 hstop)
          have hforbidden : isForbidden c = false := by
            rcases Bool.or_eq_true_iff.1 hquote with hc | hc
            · rw [eq_of_beq hc]
              rfl
            · rw [eq_of_beq hc]
              rfl
          refine ⟨spaces, .quoted c value n, by simp [Value.chars], ⟨hquote, hfree⟩, ?_, rfl⟩
          exact Allowed.append_iff.2 ⟨Allowed.cons_iff.2 ⟨hforbidden, hallowed⟩,
            Allowed.cons_iff.2 ⟨hforbidden, allowed_replicate n⟩⟩
      · next hquote =>
          simp only [Option.bind_eq_some_iff, Prod.exists, Option.some.injEq, Prod.mk.injEq] at h
          obtain ⟨stop', rest', hstop, rfl, rfl, rfl⟩ := h
          have hafter := eq_takeWhile_append (readStop_eq_some_iff.1 hstop)
          have hplain := forall_isPlain_iff.1
            fun d (hd : d ∈ (c :: after).takeWhile isPlain) => List.mem_takeWhile_imp hd
          -- the value without quotes starts at `c`, unless `c` is what ends it
          cases htext : (c :: after).takeWhile isPlain with
          | nil =>
              rw [htext] at hafter
              exact ⟨spaces, .missing, by rw [hafter]; rfl, trivial, allowed_nil, rfl⟩
          | cons d ds =>
              rw [htext] at hafter hplain
              obtain rfl : c = d := (List.cons.inj hafter).1
              exact ⟨spaces, .plain (c :: ds), by rw [hafter]; rfl,
                ⟨hplain.1, c, ds, rfl, by simpa using hspace, by simpa using hquote⟩,
                hplain.2, rfl⟩

theorem Value.isPlain_of_mem_chars {value : Value} (h : value.IsWritten)
    (hallowed : Allowed value.chars) (hunquoted : value.isQuoted = false) :
    ∀ c ∈ value.chars, isPlain c = true := by
  cases value with
  | missing => exact fun c hc => absurd hc List.not_mem_nil
  | plain text => exact forall_isPlain_iff.2 ⟨h.1, hallowed⟩
  | quoted quote text n => cases hunquoted

/-- A value without quotes is known by its characters. -/
theorem Value.eq_of_chars_eq {value value' : Value} (h : value.IsWritten)
    (h' : value'.IsWritten) (hunquoted : value.isQuoted = false)
    (hunquoted' : value'.isQuoted = false) (heq : value.chars = value'.chars) :
    value = value' := by
  cases value with
  | quoted => cases hunquoted
  | missing =>
      cases value' with
      | quoted => cases hunquoted'
      | missing => rfl
      | plain text =>
          obtain ⟨-, c, rest, rfl, -⟩ := h'
          cases heq
  | plain text =>
      cases value' with
      | quoted => cases hunquoted'
      | plain text' => exact congrArg plain heq
      | missing =>
          obtain ⟨-, c, rest, rfl, -⟩ := h
          cases heq

theorem quoted_inj {quote : Char} {text text' : List Char} {n n' : Nat} {stop stop' : Stop}
    {rest rest' : List Char} (hfree : quote ∉ text) (hfree' : quote ∉ text')
    (heq : text ++ quote :: (List.replicate n ' ' ++ stop.char :: rest) =
      text' ++ quote :: (List.replicate n' ' ' ++ stop'.char :: rest')) :
    text = text' ∧ n = n' ∧ stop.char :: rest = stop'.char :: rest' := by
  have hother : ∀ {text : List Char}, quote ∉ text → ∀ c ∈ text, (c != quote) = true := by
    intro text htext c hc
    rw [bne_iff_ne]
    exact fun hcq => htext (hcq ▸ hc)
  have hspace : ∀ stop : Stop, (stop.char == ' ') = false := fun stop => by
    simp [stop.char_ne.1]
  obtain ⟨htext, hafter⟩ :=
    eq_of_append_eq (hother hfree) (by simp) (hother hfree') (by simp) heq
  obtain ⟨hspaces, hrest⟩ := eq_of_append_eq eq_space_of_mem (hspace stop) eq_space_of_mem
    (hspace stop') (List.cons.inj hafter).2
  have hlength := congrArg List.length hspaces
  rw [List.length_replicate, List.length_replicate] at hlength
  exact ⟨htext, hlength, hrest⟩

/-- A value with the spaces before it and the end behind it is written in one
way. -/
theorem value_inj {spaces spaces' : Nat} {value value' : Value} {stop stop' : Stop}
    {rest rest' : List Char} (h : value.IsWritten) (h' : value'.IsWritten)
    (hallowed : Allowed value.chars) (hallowed' : Allowed value'.chars)
    (heq : List.replicate spaces ' ' ++ (value.chars ++ stop.char :: rest) =
      List.replicate spaces' ' ' ++ (value'.chars ++ stop'.char :: rest')) :
    spaces = spaces' ∧ value = value' ∧ stop.char :: rest = stop'.char :: rest' := by
  obtain ⟨c, after, hhead, hspace, hquoted⟩ := value.exists_head h stop rest
  obtain ⟨c', after', hhead', hspace', hquoted'⟩ := value'.exists_head h' stop' rest'
  rw [hhead, hhead'] at heq
  obtain ⟨hspaces, hvalue⟩ := eq_of_append_eq eq_space_of_mem hspace eq_space_of_mem hspace' heq
  have hlength := congrArg List.length hspaces
  rw [List.length_replicate, List.length_replicate] at hlength
  rw [(List.cons.inj hvalue).1, hquoted'] at hquoted
  rw [← hhead, ← hhead'] at hvalue
  refine ⟨hlength, ?_⟩
  cases hkind : value.isQuoted with
  | false =>
      have hkind' : value'.isQuoted = false := hquoted.trans hkind
      obtain ⟨hchars, hrest⟩ := eq_of_append_eq (Value.isPlain_of_mem_chars h hallowed hkind)
        stop.isPlain_char (Value.isPlain_of_mem_chars h' hallowed' hkind') stop'.isPlain_char hvalue
      exact ⟨Value.eq_of_chars_eq h h' hkind hkind' hchars, hrest⟩
  | true =>
      have hkind' : value'.isQuoted = true := hquoted.trans hkind
      cases value with
      | missing | plain => cases hkind
      | quoted quote text n =>
          cases value' with
          | missing | plain => cases hkind'
          | quoted quote' text' n' =>
              rw [Value.chars, Value.chars] at hvalue
              obtain rfl : quote = quote' := (List.cons.inj hvalue).1
              obtain ⟨rfl, rfl, hrest⟩ := quoted_inj h.2 h'.2
                (by simpa using (List.cons.inj hvalue).2)
              exact ⟨rfl, hrest⟩

/-! ## Items -/

theorem readEntry_of_equals {cs rest : List Char} (h : cs.dropWhile isPlain = '=' :: rest) :
    readEntry cs =
      if (cs.takeWhile isPlain).isEmpty then none
      else (readValue rest).bind fun read =>
        some ((Text.trim (cs.takeWhile isPlain), some read.1), read.2.1, read.2.2) := by
  rw [readEntry]
  simp only [h]
  rfl

theorem readEntry_of_not_equals {cs : List Char}
    (h : ∀ rest, cs.dropWhile isPlain ≠ '=' :: rest) :
    readEntry cs = (readStop (cs.dropWhile isPlain)).bind fun read =>
      some ((Text.trim (cs.takeWhile isPlain), none), read.1, read.2) := by
  rw [readEntry]
  split
  · next rest hrest => exact absurd hrest (h rest)
  · rfl

theorem readEntry_chars {item : Item} (h : item.IsWritten) (hallowed : Allowed item.chars)
    (stop : Stop) (rest : List Char) :
    readEntry (item.chars ++ stop.char :: rest) = some (item.entry, stop, rest) := by
  cases item with
  | bare text =>
      have hplain := forall_isPlain_iff.2 ⟨h, hallowed⟩
      have hdrop := dropWhile_append_cons hplain stop.isPlain_char rest
      rw [Item.chars, readEntry_of_not_equals, hdrop,
        takeWhile_append_cons hplain stop.isPlain_char, readStop_eq_some_iff.2 rfl]
      · rfl
      · intro rest' hrest
        rw [hdrop] at hrest
        exact stop.char_ne.2 (List.cons.inj hrest).1
  | valued key spaces value =>
      obtain ⟨hkey, hunmarked, hvalue⟩ := h
      rw [Item.chars, Allowed.append_iff, Allowed.cons_iff, Allowed.append_iff] at hallowed
      have hplain := forall_isPlain_iff.2 ⟨hunmarked, hallowed.1⟩
      have hread := readValue_chars hvalue hallowed.2.2.2 spaces stop rest
      rw [Item.chars, List.append_assoc, List.cons_append, List.append_assoc,
        readEntry_of_equals (dropWhile_append_cons hplain rfl _),
        takeWhile_append_cons hplain rfl, hread, if_neg (by simpa using hkey)]
      rfl

theorem exists_item_of_readEntry {cs rest : List Char} {entry : Entry} {stop : Stop}
    (h : readEntry cs = some (entry, stop, rest)) :
    ∃ item : Item, cs = item.chars ++ stop.char :: rest ∧ item.IsWritten ∧
      Allowed item.chars ∧ item.entry = entry := by
  have hplain := forall_isPlain_iff.1
    fun c (hc : c ∈ cs.takeWhile isPlain) => List.mem_takeWhile_imp hc
  by_cases hequals : ∃ after, cs.dropWhile isPlain = '=' :: after
  · obtain ⟨after, hdrop⟩ := hequals
    rw [readEntry_of_equals hdrop] at h
    split at h
    · cases h
    · next hkey =>
        simp only [Option.bind_eq_some_iff, Prod.exists, Option.some.injEq, Prod.mk.injEq] at h
        obtain ⟨text, stop', rest', hread, rfl, rfl, rfl⟩ := h
        obtain ⟨spaces, value, rfl, hwritten, hallowed, rfl⟩ := exists_value_of_readValue hread
        refine ⟨.valued (cs.takeWhile isPlain) spaces value, ?_,
          ⟨by simpa using hkey, hplain.1, hwritten⟩, ?_, rfl⟩
        · conv_lhs => rw [eq_takeWhile_append hdrop]
          simp [Item.chars]
        · exact Allowed.append_iff.2 ⟨hplain.2, Allowed.cons_iff.2
            ⟨rfl, Allowed.append_iff.2 ⟨allowed_replicate spaces, hallowed⟩⟩⟩
  · rw [readEntry_of_not_equals fun after hdrop => hequals ⟨after, hdrop⟩] at h
    simp only [Option.bind_eq_some_iff, Prod.exists, Option.some.injEq, Prod.mk.injEq] at h
    obtain ⟨stop', rest', hstop, rfl, rfl, rfl⟩ := h
    exact ⟨.bare (cs.takeWhile isPlain), eq_takeWhile_append (readStop_eq_some_iff.1 hstop),
      hplain.1, hplain.2, rfl⟩

theorem Item.isPlain_of_bare {text : List Char} (h : (bare text).IsWritten)
    (hallowed : Allowed (bare text).chars) : ∀ c ∈ text, isPlain c = true :=
  forall_isPlain_iff.2 ⟨h, hallowed⟩

theorem Item.isPlain_of_valued {key : List Char} {spaces : Nat} {value : Value}
    (h : (valued key spaces value).IsWritten) (hallowed : Allowed (valued key spaces value).chars) :
    ∀ c ∈ key, isPlain c = true :=
  forall_isPlain_iff.2 ⟨h.2.1, (Allowed.append_iff.1 hallowed).1⟩

theorem Item.chars_valued_append (key : List Char) (spaces : Nat) (value : Value)
    (rest : List Char) :
    (valued key spaces value).chars ++ rest =
      key ++ '=' :: (List.replicate spaces ' ' ++ (value.chars ++ rest)) := by
  simp [chars]

/-- An item with the end behind it is written in one way. -/
theorem item_inj (stop stop' : Stop) {item item' : Item} {rest rest' : List Char}
    (h : item.IsWritten) (h' : item'.IsWritten) (hallowed : Allowed item.chars)
    (hallowed' : Allowed item'.chars)
    (heq : item.chars ++ stop.char :: rest = item'.chars ++ stop'.char :: rest') :
    item = item' ∧ stop = stop' ∧ rest = rest' := by
  cases item with
  | bare text =>
      have hplain := Item.isPlain_of_bare h hallowed
      cases item' with
      | bare text' =>
          obtain ⟨htext, hrest⟩ := eq_of_append_eq hplain stop.isPlain_char
            (Item.isPlain_of_bare h' hallowed') stop'.isPlain_char heq
          exact ⟨congrArg Item.bare htext, Stop.cons_inj hrest⟩
      | valued key' spaces' value' =>
          -- the same text would end at a stop and at an equals sign
          rw [Item.chars_valued_append] at heq
          have hmark := (eq_of_append_eq hplain stop.isPlain_char
            (Item.isPlain_of_valued h' hallowed') rfl heq).2
          exact absurd (List.cons.inj hmark).1 stop.char_ne.2
  | valued key spaces value =>
      have hplain := Item.isPlain_of_valued h hallowed
      rw [Item.chars_valued_append] at heq
      cases item' with
      | bare text' =>
          have hmark := (eq_of_append_eq hplain rfl
            (Item.isPlain_of_bare h' hallowed') stop'.isPlain_char heq).2
          exact absurd (List.cons.inj hmark).1.symm stop'.char_ne.2
      | valued key' spaces' value' =>
          rw [Item.chars_valued_append] at heq
          obtain ⟨rfl, hvalue⟩ := eq_of_append_eq hplain rfl
            (Item.isPlain_of_valued h' hallowed') rfl heq
          rw [Item.chars, Allowed.append_iff, Allowed.cons_iff, Allowed.append_iff]
            at hallowed hallowed'
          obtain ⟨rfl, rfl, hrest⟩ := value_inj h.2.2 h'.2.2 hallowed.2.2.2 hallowed'.2.2.2
            (List.cons.inj hvalue).2
          exact ⟨rfl, Stop.cons_inj hrest⟩

/-! ## Rows of items -/

theorem itemsChars_singleton (item : Item) : itemsChars [item] = item.chars :=
  List.intercalate_singleton

theorem itemsChars_cons_cons (item next : Item) (items : List Item) :
    itemsChars (item :: next :: items) = item.chars ++ ',' :: itemsChars (next :: items) := by
  rw [itemsChars, List.map_cons, List.map_cons, List.intercalate_cons_cons, List.append_assoc]
  rfl

theorem readEntries_of_brace {cs rest : List Char} {entry : Entry}
    (h : readEntry cs = some (entry, .brace, rest)) : readEntries cs = some ([entry], rest) := by
  rw [readEntries]
  split
  · next hnone => rw [h] at hnone; cases hnone
  · next hsome => rw [h] at hsome; cases hsome; rfl
  · next hsome => rw [h] at hsome; cases hsome

theorem readEntries_of_comma {cs rest : List Char} {entry : Entry}
    (h : readEntry cs = some (entry, .comma, rest)) :
    readEntries cs = (readEntries rest).map fun read => (entry :: read.1, read.2) := by
  rw [readEntries]
  split
  · next hnone => rw [h] at hnone; cases hnone
  · next hsome => rw [h] at hsome; cases hsome
  · next hsome => rw [h] at hsome; cases hsome; rfl

theorem readEntries_chars {items : List Item} (hne : items ≠ [])
    (h : ∀ item ∈ items, item.IsWritten) (hallowed : Allowed (itemsChars items))
    (rest : List Char) :
    readEntries (itemsChars items ++ '\x7d' :: rest) = some (items.map Item.entry, rest) := by
  induction items with
  | nil => exact absurd rfl hne
  | cons item items ih =>
      rw [List.forall_mem_cons] at h
      cases items with
      | nil =>
          rw [itemsChars_singleton] at hallowed ⊢
          exact readEntries_of_brace (readEntry_chars h.1 hallowed .brace rest)
      | cons next items =>
          rw [itemsChars_cons_cons, Allowed.append_iff, Allowed.cons_iff] at hallowed
          have hentry : readEntry
              (item.chars ++ ',' :: (itemsChars (next :: items) ++ '\x7d' :: rest)) =
                some (item.entry, .comma, itemsChars (next :: items) ++ '\x7d' :: rest) :=
            readEntry_chars h.1 hallowed.1 .comma _
          rw [itemsChars_cons_cons, List.append_assoc, List.cons_append,
            readEntries_of_comma hentry, ih (List.cons_ne_nil next items) h.2 hallowed.2.2]
          rfl

theorem exists_items_of_readEntries {cs rest : List Char} {entries : List Entry}
    (h : readEntries cs = some (entries, rest)) :
    ∃ items : List Item, items ≠ [] ∧ (∀ item ∈ items, item.IsWritten) ∧
      Allowed (itemsChars items) ∧ cs = itemsChars items ++ '\x7d' :: rest ∧
      items.map Item.entry = entries := by
  induction cs using readEntries.induct generalizing entries with
  | case1 cs hentry =>
      rw [readEntries] at h
      split at h
      · cases h
      · next hsome => rw [hentry] at hsome; cases hsome
      · next hsome => rw [hentry] at hsome; cases hsome
  | case2 cs entry after hentry =>
      rw [readEntries_of_brace hentry] at h
      cases h
      obtain ⟨item, htext, hwritten, hallowed, rfl⟩ := exists_item_of_readEntry hentry
      refine ⟨[item], List.cons_ne_nil _ _, List.forall_mem_singleton.2 hwritten, ?_, ?_, rfl⟩
      · rwa [itemsChars_singleton]
      · rwa [itemsChars_singleton]
  | case3 cs entry after hentry ih =>
      rw [readEntries_of_comma hentry, Option.map_eq_some_iff] at h
      obtain ⟨⟨entries', after'⟩, hread, hpair⟩ := h
      cases hpair
      obtain ⟨item, htext, hwritten, hallowed, rfl⟩ := exists_item_of_readEntry hentry
      obtain ⟨items, hne, hitems, hallowed', rfl, rfl⟩ := ih hread
      obtain ⟨next, items, rfl⟩ := List.exists_cons_of_ne_nil hne
      refine ⟨item :: next :: items, List.cons_ne_nil _ _,
        List.forall_mem_cons.2 ⟨hwritten, hitems⟩, ?_, ?_, rfl⟩
      · rw [itemsChars_cons_cons]
        exact Allowed.append_iff.2 ⟨hallowed, Allowed.cons_iff.2 ⟨rfl, hallowed'⟩⟩
      · rw [itemsChars_cons_cons, List.append_assoc, List.cons_append]
        exact htext

/-- A row of items with the closing brace behind it is written in one way. -/
theorem items_inj (rest rest' : List Char) {items items' : List Item} (hne : items ≠ [])
    (hne' : items' ≠ []) (h : ∀ item ∈ items, item.IsWritten)
    (h' : ∀ item ∈ items', item.IsWritten) (hallowed : Allowed (itemsChars items))
    (hallowed' : Allowed (itemsChars items'))
    (heq : itemsChars items ++ '\x7d' :: rest = itemsChars items' ++ '\x7d' :: rest') :
    items = items' ∧ rest = rest' := by
  induction items generalizing items' with
  | nil => exact absurd rfl hne
  | cons item items ih =>
      obtain ⟨item', items', rfl⟩ := List.exists_cons_of_ne_nil hne'
      rw [List.forall_mem_cons] at h h'
      cases items with
      | nil =>
          rw [itemsChars_singleton] at hallowed heq
          cases items' with
          | nil =>
              rw [itemsChars_singleton] at hallowed' heq
              obtain ⟨rfl, -, rfl⟩ := item_inj .brace .brace h.1 h'.1 hallowed hallowed' heq
              exact ⟨rfl, rfl⟩
          | cons next' items' =>
              rw [itemsChars_cons_cons, Allowed.append_iff] at hallowed'
              rw [itemsChars_cons_cons, List.append_assoc, List.cons_append] at heq
              cases (item_inj .brace .comma h.1 h'.1 hallowed hallowed'.1 heq).2.1
      | cons next items =>
          rw [itemsChars_cons_cons, Allowed.append_iff, Allowed.cons_iff] at hallowed
          rw [itemsChars_cons_cons, List.append_assoc, List.cons_append] at heq
          cases items' with
          | nil =>
              rw [itemsChars_singleton] at hallowed' heq
              cases (item_inj .comma .brace h.1 h'.1 hallowed.1 hallowed' heq).2.1
          | cons next' items' =>
              rw [itemsChars_cons_cons, Allowed.append_iff, Allowed.cons_iff] at hallowed'
              rw [itemsChars_cons_cons, List.append_assoc, List.cons_append] at heq
              obtain ⟨rfl, -, hrest⟩ :=
                item_inj .comma .comma h.1 h'.1 hallowed.1 hallowed'.1 heq
              obtain ⟨hitems, rfl⟩ := ih (List.cons_ne_nil _ _) (List.cons_ne_nil _ _) h.2 h'.2
                hallowed.2.2 hallowed'.2.2 hrest
              exact ⟨by rw [hitems], rfl⟩

/-! ## What the items say -/

theorem eraseDups_concat (keys : List String) (key : String) :
    (keys ++ [key]).eraseDups =
      if key ∈ keys then keys.eraseDups else keys.eraseDups ++ [key] := by
  rw [List.eraseDups_append]
  by_cases hkey : key ∈ keys
  · simp [List.removeAll, hkey]
  · simp [List.removeAll, hkey, List.eraseDups_cons]

theorem nodup_eraseDups (keys : List String) : keys.eraseDups.Nodup := by
  induction keys using List.reverseRecOn with
  | nil => exact List.nodup_nil
  | append_singleton keys key ih =>
      rw [eraseDups_concat]
      split
      · exact ih
      · next hkey =>
          exact List.nodup_append.2 ⟨ih, List.nodup_singleton key, fun k hk k' hk' heq =>
            hkey (List.mem_singleton.1 hk' ▸ heq ▸ List.mem_eraseDups.1 hk)⟩

theorem put_of_notMem {keys : List String} {key : String} (h : key ∉ keys)
    (value : Option String) (values : String → Option String) :
    Attributes.put key value (keys.map fun k => (k, values k)) =
      (keys.map fun k => (k, values k)) ++ [(key, value)] := by
  induction keys with
  | nil => rfl
  | cons k keys ih =>
      rw [List.mem_cons, not_or] at h
      rw [List.map_cons, Attributes.put, if_neg (by simpa using Ne.symm h.1), ih h.2]
      rfl

theorem put_of_mem {keys : List String} {key : String} (hnodup : keys.Nodup) (h : key ∈ keys)
    (value : Option String) (values : String → Option String) :
    Attributes.put key value (keys.map fun k => (k, values k)) =
      keys.map fun k => (k, if k = key then value else values k) := by
  induction keys with
  | nil => cases h
  | cons k keys ih =>
      rw [List.nodup_cons] at hnodup
      rw [List.map_cons, List.map_cons, Attributes.put]
      by_cases hk : k = key
      · rw [if_pos (by simpa using hk), if_pos hk]
        refine congrArg (List.cons (k, value)) (List.map_congr_left fun k' hk' => ?_)
        have hne : k' ≠ key := fun heq => hnodup.1 (hk.trans heq.symm ▸ hk')
        rw [if_neg hne]
      · have hmem : key ∈ keys := List.mem_of_ne_of_mem (Ne.symm hk) h
        rw [if_neg (by simpa using hk), if_neg hk, ih hnodup.2 hmem]

theorem lastValue?_concat (items : List Item) (item : Item) (key : String) :
    lastValue? (items ++ [item]) key =
      if key = item.key then item.value? else lastValue? items key := by
  rw [lastValue?, List.filter_append]
  by_cases hkey : key = item.key
  · simp [hkey]
  · simp [lastValue?, hkey, Ne.symm hkey]

theorem mem_keysOf {items : List Item} {key : String} :
    key ∈ keysOf items ↔ key ∈ items.map Item.key ∧ key.isEmpty = false := by
  rw [keysOf, List.mem_eraseDups, List.mem_filter, Bool.not_eq_true']

theorem keysOf_concat_of_blank {items : List Item} {item : Item}
    (hblank : item.key.isEmpty = true) : keysOf (items ++ [item]) = keysOf items := by
  simp [keysOf, hblank]

theorem keysOf_concat {items : List Item} {item : Item} (hblank : item.key.isEmpty = false) :
    keysOf (items ++ [item]) =
      if item.key ∈ keysOf items then keysOf items else keysOf items ++ [item.key] := by
  have hmem : item.key ∈ (items.map Item.key).filter (!·.isEmpty) ↔ item.key ∈ keysOf items := by
    rw [keysOf, List.mem_eraseDups]
  have hlast : ([item].map Item.key).filter (!·.isEmpty) = [item.key] := by
    simp [hblank]
  rw [keysOf, List.map_append, List.filter_append, hlast, eraseDups_concat]
  by_cases hkey : item.key ∈ keysOf items
  · rw [if_pos (hmem.2 hkey), if_pos hkey]
    rfl
  · rw [if_neg (mt hmem.1 hkey), if_neg hkey]
    rfl

/-- What one more item adds: nothing if its key is blank, and otherwise its
value, at the place of its key. -/
theorem attributesOf_concat (items : List Item) (item : Item) :
    attributesOf (items ++ [item]) = store (attributesOf items) item.entry := by
  have hblank : item.entry.1.isEmpty = item.key.isEmpty := by
    cases h : item.entry.1 <;> simp [Item.key, h]
  rw [attributesOf, store, hblank]
  cases hkey : item.key.isEmpty with
  | true =>
      rw [keysOf_concat_of_blank hkey, if_pos rfl]
      refine List.map_congr_left fun key hmem => ?_
      have hne : key ≠ item.key := by
        rintro rfl
        rw [(mem_keysOf.1 hmem).2] at hkey
        cases hkey
      rw [lastValue?_concat, if_neg hne]
  | false =>
      rw [if_neg Bool.false_ne_true, keysOf_concat hkey]
      by_cases hmem : item.key ∈ keysOf items
      · have hput := put_of_mem (nodup_eraseDups _) hmem item.value? (lastValue? items)
        rw [if_pos hmem]
        exact Eq.trans (List.map_congr_left fun key _ => by rw [lastValue?_concat]) hput.symm
      · have hput := put_of_notMem hmem item.value? (lastValue? items)
        rw [if_neg hmem, List.map_append, List.map_singleton, lastValue?_concat, if_pos rfl]
        refine Eq.trans (congrArg (· ++ [(item.key, item.value?)]) ?_) hput.symm
        refine List.map_congr_left fun key hk => ?_
        have hne : key ≠ item.key := fun heq => hmem (heq ▸ hk)
        rw [lastValue?_concat, if_neg hne]

theorem collect_eq_attributesOf (items : List Item) :
    collect (items.map Item.entry) = attributesOf items := by
  induction items using List.reverseRecOn with
  | nil => rfl
  | append_singleton items item ih =>
      rw [List.map_append, collect, List.foldl_append, attributesOf_concat, ← ih]
      rfl

/-! ## The reading of a text -/

theorem readBlock_blockChars {items : List Item} (hne : items ≠ [])
    (h : ∀ item ∈ items, item.IsWritten) (hallowed : Allowed (blockChars items))
    (rest : List Char) :
    readBlock (blockChars items ++ rest) = some (attributesOf items, rest) := by
  rw [blockChars, List.cons_append, Allowed.cons_iff, Allowed.append_iff] at hallowed
  have hread := readEntries_chars hne h hallowed.2.1 rest
  have htext : blockChars items ++ rest = '\x7b' :: (itemsChars items ++ '\x7d' :: rest) := by
    simp [blockChars]
  rw [htext, readBlock, hread, ← collect_eq_attributesOf]
  rfl

theorem exists_items_of_readBlock {cs rest : List Char} {attributes : Attributes}
    (h : readBlock cs = some (attributes, rest)) :
    ∃ items : List Item, items ≠ [] ∧ (∀ item ∈ items, item.IsWritten) ∧
      Allowed (blockChars items) ∧ cs = blockChars items ++ rest ∧
      attributesOf items = attributes := by
  unfold readBlock at h
  split at h
  · next after =>
      rw [Option.map_eq_some_iff] at h
      obtain ⟨⟨entries, after'⟩, hread, hpair⟩ := h
      cases hpair
      obtain ⟨items, hne, hwritten, hallowed, rfl, rfl⟩ := exists_items_of_readEntries hread
      refine ⟨items, hne, hwritten, ?_, by simp [blockChars], (collect_eq_attributesOf items).symm⟩
      exact Allowed.cons_iff.2 ⟨rfl, Allowed.append_iff.2
        ⟨hallowed, Allowed.cons_iff.2 ⟨rfl, allowed_nil⟩⟩⟩
  · cases h

theorem parse_eq_some_iff {text rest : String} {attributes : Attributes} :
    parse text = some (attributes, rest) ↔
      readBlock text.toList = some (attributes, rest.toList) := by
  rw [parse, Option.map_eq_some_iff]
  constructor
  · rintro ⟨⟨attributes', rest'⟩, hread, hpair⟩
    cases hpair
    simpa using hread
  · intro h
    exact ⟨_, h, by simp⟩

theorem IsBlock.toList_eq {text rest : String} {items : List Item} (h : IsBlock text items rest) :
    text.toList = blockChars items ++ rest.toList := by
  rw [h.text_eq, String.toList_append, String.toList_ofList]

theorem parse_of_isBlock {text rest : String} {items : List Item} (h : IsBlock text items rest) :
    parse text = some (attributesOf items, rest) := by
  rw [parse_eq_some_iff, h.toList_eq]
  exact readBlock_blockChars h.nonempty h.written h.allowed rest.toList

theorem exists_isBlock_of_parse {text rest : String} {attributes : Attributes}
    (h : parse text = some (attributes, rest)) :
    ∃ items, IsBlock text items rest ∧ attributesOf items = attributes := by
  obtain ⟨items, hne, hwritten, hallowed, htext, hattributes⟩ :=
    exists_items_of_readBlock (parse_eq_some_iff.1 h)
  refine ⟨items, ⟨hne, hwritten, hallowed, ?_⟩, hattributes⟩
  rw [← String.toList_inj, String.toList_append, String.toList_ofList, htext]

theorem IsBlock.unique {text rest rest' : String} {items items' : List Item}
    (h : IsBlock text items rest) (h' : IsBlock text items' rest') :
    items = items' ∧ rest = rest' := by
  have hallowed := h.allowed
  have hallowed' := h'.allowed
  rw [blockChars, List.cons_append, Allowed.cons_iff, Allowed.append_iff] at hallowed hallowed'
  obtain ⟨hitems, hrest⟩ := items_inj rest.toList rest'.toList h.nonempty
    h'.nonempty h.written h'.written hallowed.2.1 hallowed'.2.1
    (by simpa [blockChars] using h.toList_eq.symm.trans h'.toList_eq)
  exact ⟨hitems, String.toList_inj.1 hrest⟩

/-- The reader of blocks accepts the blocks and nothing else. A text begins
with a block in at most one way; it is then read as what the items of that
block say, with the text behind the block, and any other text is not read. -/
theorem parse_iff_isBlock (text : String) :
    (∀ attributes rest, parse text = some (attributes, rest) ↔
      ∃ items, IsBlock text items rest ∧ attributes = attributesOf items) ∧
    (∀ items items' rest rest', IsBlock text items rest → IsBlock text items' rest' →
      items = items' ∧ rest = rest') ∧
    (parse text = none ↔ ∀ items rest, ¬ IsBlock text items rest) := by
  refine ⟨fun attributes rest => ?_, fun items items' rest rest' h h' => h.unique h', ?_⟩
  · constructor
    · intro h
      obtain ⟨items, hblock, rfl⟩ := exists_isBlock_of_parse h
      exact ⟨items, hblock, rfl⟩
    · rintro ⟨items, hblock, rfl⟩
      exact parse_of_isBlock hblock
  · constructor
    · intro h items rest hblock
      rw [parse_of_isBlock hblock] at h
      cases h
    · intro h
      cases hparse : parse text with
      | none => rfl
      | some read =>
          obtain ⟨items, hblock, -⟩ := exists_isBlock_of_parse hparse
          exact absurd hblock (h items read.2)

end TypstPress.AttributeBlock
