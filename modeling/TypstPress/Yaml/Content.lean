import TypstPress.Text.Case
import TypstPress.Yaml.Implicit
import TypstPress.Yaml.Node
import TypstPress.Yaml.Number

/-!
# The value of a node

Scalars are read by their tags, and collections by those of their items. Collections are filled
level by level: all scalars of one level are read before anything below, so of two problems the one
nearer to the root counts, and on one level the first. `Setback` keeps the level for that.

Keys are scalars. A key that comes again replaces the value and keeps its place.
-/

namespace TypstPress.Yaml

/-- A problem and how far below the node it arises. -/
structure Setback where
  depth : Nat
  problem : Problem
deriving Inhabited

/-- A value, or what prevents it. -/
abbrev Outcome (α : Type) := Except Setback α

namespace Outcome

/-- A problem of the node itself. -/
def here (r : Except Problem α) : Outcome α := r.mapError fun p => { depth := 0, problem := p }

/-- The node breaks a rule. -/
def refuse (rule : String) : Outcome α := here (.error (.malformed rule))

/-- The outcome as that of the node above. -/
def below (x : Outcome α) : Outcome α := x.mapError fun s => { s with depth := s.depth + 1 }

/-- Two values. Of two problems the one less deep counts, on one level the first. -/
def both (x : Outcome α) (y : Outcome β) : Outcome (α × β) :=
  match x, y with
  | .ok a, .ok b => .ok (a, b)
  | .ok _, .error t => .error t
  | .error s, .ok _ => .error s
  | .error s, .error t => .error (if s.depth ≤ t.depth then s else t)

end Outcome

/-- Whether nodes with the tag are collections. -/
def Tag.isCollection : Tag → Bool
  | .sequence | .mapping | .set | .orderedMap | .pairs => true
  | _ => false

namespace Node

/-- Whether the value of a node is a collection, which can be no key. -/
def isCollection : Node → Bool
  | .enclosing => true
  | node => node.tag.isCollection

/-- The truth value of a word. -/
def truthValue (text : String) : Except Problem Bool :=
  let word := Text.lowerString text
  if ["yes", "true", "on"].contains word then .ok true
  else if ["no", "false", "off"].contains word then .ok false
  else .error (.fault ⟨"KeyError", word⟩)

/-- The moment that a text writes. One line end after it does not count. -/
def moment (text : String) : Except Problem Value :=
  let cs := text.toList
  match Moment.read? (if cs.getLast? == some '\n' then cs.dropLast else cs) with
  | some m => m.value
  | none =>
    .error (.fault (Fault.missingPart "'NoneType' object has no attribute 'groupdict'"))

/-- The value of a digit of base sixty-four. -/
def base64Digit? (c : Char) : Option Nat :=
  if 'A' ≤ c && c ≤ 'Z' then some (c.toNat - 0x41)
  else if 'a' ≤ c && c ≤ 'z' then some (c.toNat - 0x61 + 26)
  else if '0' ≤ c && c ≤ '9' then some (c.toNat - 0x30 + 52)
  else if c == '+' then some 62
  else if c == '/' then some 63
  else none

/-- The bytes of a group of digits of base sixty-four. -/
def base64Group : List Nat → List UInt8
  | [a, b, c, d] =>
    let n := ((a * 64 + b) * 64 + c) * 64 + d
    [(n / 65536).toUInt8, (n / 256).toUInt8, n.toUInt8]
  | [a, b, c] =>
    let n := (a * 64 + b) * 64 + c
    [(n / 1024).toUInt8, (n / 4).toUInt8]
  | [a, b] => [((a * 64 + b) / 16).toUInt8]
  | _ => []

/-- The bytes of the digits of base sixty-four before the padding; other characters are skipped.
`held` is the group so far and `pads` the number of `=` after it. -/
def base64Bytes : List Char → List Nat → Nat → Option (List UInt8)
  | [], held, _ => if held.isEmpty then some [] else none
  | c :: rest, held, pads =>
    match base64Digit? c with
    | some d =>
      if held.length == 3 then
        (base64Bytes rest [] 0).map (base64Group (held ++ [d]) ++ ·)
      else base64Bytes rest (held ++ [d]) 0
    | none =>
      if c == '=' && 2 ≤ held.length then
        if 4 ≤ held.length + pads + 1 then some (base64Group held)
        else base64Bytes rest held (pads + 1)
      else base64Bytes rest held pads

/-- The value of a scalar. -/
def scalarValue (tag : Tag) (text : String) : Except Problem Value :=
  match tag with
  | .null => .ok .null
  | .bool => (truthValue text).map .bool
  | .int => (Number.int text).map .int
  | .float => (Number.float (Text.lowerString text)).map .float
  | .timestamp => moment text
  | .text => .ok (.text text)
  | .binary =>
    match base64Bytes text.toList [] 0 with
    | some bytes =>
      if text.toList.all (·.toNat < 128) then .ok (.bytes bytes)
      else .error (.malformed "binary data has other characters than those of ASCII")
    | none => .error (.malformed "binary data is not complete")
  | _ => .error (.malformed "a tag is not known")

mutual

/-- The text of a node where a scalar is asked for: a mapping stands for its default value. -/
def defaultText? : Node → Option String
  | .scalar _ text => some text
  | .mapping _ written _ => firstDefault? written
  | _ => none

@[inherit_doc defaultText?]
def firstDefault? : List (Node × Node) → Option String
  | [] => none
  | (key, value) :: rest =>
    if key.tag == .default then defaultText? value else firstDefault? rest

end

/-- The entries of a mapping by key. -/
def putAll (entries : List (Value × Value)) : Entries :=
  entries.foldl (fun es e => Entries.put e.1 e.2 es) []

mutual

/-- The value of a node. -/
def value : Node → Outcome Value
  | .enclosing => .ok .null
  | .scalar tag text =>
    if tag.isCollection then .below (.refuse "a scalar is no collection")
    else .here (scalarValue tag text)
  | .sequence tag items =>
    match tag with
    | .sequence => .below ((values items).map .list)
    | .orderedMap | .pairs => .below ((pairs items).map .list)
    | .mapping | .set => .below (.refuse "a sequence is no mapping")
    | _ => .refuse "a sequence is no scalar"
  | .mapping tag written merged =>
    match tag with
    | .mapping => .below ((mergedValues merged).map fun es => .map (putAll es))
    | .set => .below ((mergedValues merged).map fun es => .set ((putAll es).map (·.1)))
    | .sequence | .orderedMap | .pairs => .below (.refuse "a mapping is no sequence")
    | _ =>
      match firstDefault? written, tag with
      | none, _ => .refuse "a mapping is no scalar"
      | some _, .timestamp =>
        .here (.error (.fault (Fault.wrongType "expected string or bytes-like object, got 'list'")))
      | some text, _ => .here (scalarValue tag text)

/-- The values of the items of a sequence. -/
def values : List Node → Outcome (List Value)
  | [] => .ok []
  | node :: rest => (Outcome.both node.value (values rest)).map fun (v, vs) => v :: vs

/-- The values of a sequence of mappings with one entry each. -/
def pairs : List Node → Outcome (List Value)
  | [] => .ok []
  | node :: rest =>
    (Outcome.both (pair node) (pairs rest)).map fun (v, vs) => v :: vs

/-- The key and the value of a mapping with one entry. -/
def pair : Node → Outcome Value
  | .mapping _ [(key, value)] _ =>
    (Outcome.both key.value value.value).map fun (k, v) => .list [k, v]
  | _ => .refuse "a pair is expected"

/-- The values of the entries that a mapping has after merging. -/
def mergedValues : Option (List (Node × Node)) → Outcome (List (Value × Value))
  | none => .refuse "only mappings can be merged"
  | some entries => entryValues entries

/-- The values of keys and of what they stand for. -/
def entryValues : List (Node × Node) → Outcome (List (Value × Value))
  | [] => .ok []
  | (key, node) :: rest =>
    let k : Outcome Value :=
      if key.isCollection then .refuse "a collection cannot be a key" else key.value
    (Outcome.both (Outcome.both k node.value) (entryValues rest)).map fun (e, es) => e :: es

end

end Node

end TypstPress.Yaml
