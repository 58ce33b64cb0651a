import TypstPress.Yaml.Tag

/-!
# The nodes of a YAML document

A node is a scalar, a sequence or a mapping with its tag. A mapping may take over the entries of
other mappings through a merge key: `<<` with a mapping, or with a sequence of mappings of which
the first counts most. Entries taken over come first, so an entry of its own wins.
-/

namespace TypstPress.Yaml

/-- A node of a document. -/
inductive Node where
  | scalar (tag : Tag) (text : String)
  | sequence (tag : Tag) (items : List Node)
  /-- A mapping with its entries as they are written, and with what it takes over; the latter is
  missing if something other than a mapping is merged. -/
  | mapping (tag : Tag) (written : List (Node × Node)) (merged : Option (List (Node × Node)))
  /-- A collection inside itself. -/
  | enclosing
deriving Inhabited

namespace Node

/-- The tag of a node. -/
def tag : Node → Tag
  | .scalar tag _ => tag
  | .sequence tag _ => tag
  | .mapping tag _ _ => tag
  | .enclosing => .mapping

/-- The entries that a node adds to a mapping it is merged into. -/
def contribution : Node → Option (List (Node × Node))
  | .mapping _ _ merged => merged
  | .enclosing => some []
  | _ => none

/-- The entries that the value of a merge key adds. -/
def mergedEntries : Node → Option (List (Node × Node))
  | .sequence _ items => (items.mapM contribution).map fun parts => parts.reverse.flatten
  | node => node.contribution

/-- The node of a key in a mapping. The key of the default value is an ordinary text there. -/
def asKey : Node → Node
  | .scalar .default text => .scalar .text text
  | node => node

/-- The entries taken over and the entries of its own, of a mapping with the given entries. -/
def merge : List (Node × Node) → Option (List (Node × Node) × List (Node × Node))
  | [] => some ([], [])
  | (key, value) :: rest => do
    let (taken, own) ← merge rest
    if key.tag == .merge then
      let more ← value.mergedEntries
      some (more ++ taken, own)
    else some (taken, (key.asKey, value) :: own)

/-- The mapping with the given entries. -/
def ofEntries (tag : Tag) (written : List (Node × Node)) : Node :=
  .mapping tag written ((merge written).map fun parts => parts.1 ++ parts.2)

end Node

end TypstPress.Yaml
