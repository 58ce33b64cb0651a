import TypstPress.Decimal.Shortest

/-!
# Metadata

Front matter and nodes carry data that the compiler only hands on: numbers, texts, dates, lists
and mappings. A mapping is a list of entries in the order in which its keys were first given;
`Entries.put` keeps the place of a key that comes again and replaces its value.
-/

namespace TypstPress

/-- A value of front matter or of node metadata. -/
inductive Value where
  | null
  | bool (b : Bool)
  | int (n : Int)
  | float (x : Binary64)
  | text (s : String)
  /-- A day, in ISO notation. -/
  | date (iso : String)
  /-- A point in time, in ISO notation, with its microseconds in universal time if its zone is
  given. -/
  | timestamp (iso : String) (instant : Option Int)
  | bytes (bs : List UInt8)
  | list (items : List Value)
  | set (members : List Value)
  | map (entries : List (Value × Value))
deriving Inhabited

/-- The entries of a mapping in the order of their keys' first appearance. -/
abbrev Entries := List (Value × Value)

/-- Metadata of a node. -/
abbrev Metadata := Entries

namespace Value

/-- The number that a truth value or a whole number stands for. -/
def asInt? : Value → Option Int
  | .bool b => some (if b then 1 else 0)
  | .int n => some n
  | _ => none

/-- Whether two keys of a mapping are the same: numbers are compared by value, and the truth
values count as one and zero. Points in time are the same at one instant. Lists, sets and mappings
are no keys. -/
def sameKey : Value → Value → Bool
  | .null, .null => true
  | .text s, .text t => s == t
  | .date s, .date t => s == t
  | .timestamp s none, .timestamp t none => s == t
  | .timestamp _ (some i), .timestamp _ (some j) => i == j
  | .bytes s, .bytes t => s == t
  | .float x, .float y => x.equals y
  | .float x, v => (v.asInt?.map x.equalsInt).getD false
  | v, .float y => (v.asInt?.map y.equalsInt).getD false
  | v, w =>
    match v.asInt?, w.asInt? with
    | some m, some n => m == n
    | _, _ => false

/-- Whether the value can be a key of a mapping. -/
def isKey : Value → Bool
  | .list _ | .set _ | .map _ => false
  | _ => true

end Value

/-- The entries after giving a value to a key. A known key keeps its place. -/
def Entries.put (key value : Value) : Entries → Entries
  | [] => [(key, value)]
  | (k, v) :: rest =>
    if k.sameKey key then (k, value) :: rest else (k, v) :: Entries.put key value rest

end TypstPress
