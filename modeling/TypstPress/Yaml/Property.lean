import TypstPress.Yaml.Cursor
import TypstPress.Yaml.Token

/-!
# Anchors, tags and directives

The marks before a node name it, refer to another one or give its tag; a directive at the start of
a line gives the version of the format or introduces a handle for tags. Percent signs in tags
escape the bytes of UTF-8.
-/

namespace TypstPress.Yaml.Property

/-- Reads a name that ends at a blank, a line end or one of a few marks. -/
def name (c : Cursor) : Except Problem (String × Cursor) :=
  let (letters, c) := c.span isNameChar
  let ends := atGap c.rest || startsWith (fun ch => "?:,]\x7d%@\x60".toList.contains ch) c.rest
  if letters.isEmpty || !ends then .error (.malformed "a name has other characters than letters")
  else .ok (String.ofList letters, c)

/-- Characters of tags that stand for themselves, and the percent sign. -/
def isTagChar (c : Char) : Bool :=
  c.isAlphanum || "-;/?:@&=+$,_.!~*'()[]%".toList.contains c

/-- Reads a run of escaped bytes. -/
def escapedBytes : Nat → Cursor → Except Problem (List UInt8 × Cursor)
  | 0, c => .ok ([], c)
  | fuel + 1, c =>
    if c.rest.head? == some '%' then
      match hexNumber? 2 (c.rest.drop 1) with
      | some n => (escapedBytes fuel (c.advance 3)).map fun (more, c) => (n.toUInt8 :: more, c)
      | none => .error (.malformed "an escape in a tag lacks digits")
    else .ok ([], c)

/-- Reads the characters of a tag. -/
def tagChars : Nat → Cursor → Except Problem (List Char × Cursor)
  | 0, c => .ok ([], c)
  | fuel + 1, c =>
    match c.rest with
    | [] => .ok ([], c)
    | ch :: _ =>
      if ch == '%' then do
        let (bytes, c) ← escapedBytes c.rest.length c
        match String.fromUTF8? (ByteArray.mk bytes.toArray) with
        | some s => (tagChars fuel c).map fun (more, c) => (s.toList ++ more, c)
        | none => .error (.malformed "the bytes escaped in a tag are no text")
      else if isTagChar ch then
        (tagChars fuel c.next).map fun (more, c) => (ch :: more, c)
      else .ok ([], c)

/-- Reads a tag or the part of one after its handle. -/
def tagSuffix (c : Cursor) : Except Problem (String × Cursor) := do
  let (cs, c) ← tagChars c.rest.length c
  if cs.isEmpty then .error (.malformed "a tag is empty") else .ok (String.ofList cs, c)

/-- Reads a handle: `!` alone, or letters between two of them. -/
def tagHandle (c : Cursor) : Except Problem (String × Cursor) :=
  match c.rest with
  | '!' :: ' ' :: _ => .ok ("!", c.next)
  | '!' :: rest =>
    let letters := rest.takeWhile isNameChar
    if (rest.drop letters.length).head? == some '!' then
      .ok (String.ofList ('!' :: letters ++ ['!']), c.advance (letters.length + 2))
    else .error (.malformed "a tag handle is not closed")
  | _ => .error (.malformed "a tag handle is expected")

/-- Whether a tag that starts with `!` has a handle: another `!` before the next gap. -/
def hasHandle (rest : List Char) : Bool :=
  (rest.takeWhile fun c => c == '\t' || !isGap c).contains '!'

/-- Reads a tag. -/
def tag (c : Cursor) : Except Problem (Token × Cursor) := do
  let (token, c) ← match c.rest.drop 1 with
    | '<' :: _ => do
      let (name, c) ← tagSuffix (c.advance 2)
      if c.rest.head? == some '>' then .ok (Token.tag none name, c.next)
      else .error (.malformed "a tag is not closed")
    | rest =>
      if atGap rest then .ok (Token.tag none "!", c.next)
      else do
        let (handle, c) ← if hasHandle rest then tagHandle c else .ok ("!", c.next)
        let (suffix, c) ← tagSuffix c
        .ok (Token.tag (some handle) suffix, c)
  if atSpaceOrBreak c.rest then .ok (token, c)
  else .error (.malformed "a tag has other characters than letters")

/-- Reads a number of a version. -/
def versionNumber (c : Cursor) : Except Problem (Nat × Cursor) :=
  let (digits, c) := c.span Char.isDigit
  if digits.isEmpty then .error (.malformed "a version lacks a number")
  else if Problem.digitLimit < digits.length then .error (.tooManyDigits digits.length)
  else .ok (digits.foldl (fun n d => 10 * n + (d.toNat - 0x30)) 0, c)

/-- Reads a version of the format: its major number is what counts. -/
def version (c : Cursor) : Except Problem (Directive × Cursor) := do
  let (major, c) ← versionNumber (c.skip (· == ' '))
  if c.rest.head? == some '.' then
    let (_, c) ← versionNumber c.next
    if atSpaceOrBreak c.rest then .ok (.version major, c)
    else .error (.malformed "a version has other characters than digits")
  else .error (.malformed "a version lacks its minor number")

/-- Reads the introduction of a tag handle. -/
def handleIntroduction (c : Cursor) : Except Problem (Directive × Cursor) := do
  let (handle, c) ← tagHandle (c.skip (· == ' '))
  if c.rest.head? == some ' ' then
    let (expansion, c) ← tagSuffix (c.skip (· == ' '))
    if atSpaceOrBreak c.rest then .ok (.tagHandle handle expansion, c)
    else .error (.malformed "a tag has other characters than letters")
  else .error (.malformed "a tag handle is not followed by a space")

/-- Reads a directive from its percent sign to the end of its line. -/
def directive (c : Cursor) : Except Problem (Directive × Cursor) := do
  let (letters, c) := c.next.span isNameChar
  if letters.isEmpty || !atSpaceOrBreak c.rest then
    .error (.malformed "a directive has other characters than letters")
  else
    let (d, c) ←
      if letters == "YAML".toList then version c
      else if letters == "TAG".toList then handleIntroduction c
      else .ok (Directive.reserved, c.skip (!isBreak ·))
    match c.ignoredLine? with
    | some c => .ok (d, c)
    | none => .error (.malformed "text follows a directive")

end TypstPress.Yaml.Property
