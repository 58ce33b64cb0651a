/-!
# Tags

A tag says what a node stands for. The common tags are those of the YAML type repository; any
other is kept by its name and stands for nothing here.
-/

namespace TypstPress.Yaml

/-- The kind of value that a node stands for. -/
inductive Tag where
  | null
  | bool
  | int
  | float
  | timestamp
  | text
  | binary
  | sequence
  | mapping
  | set
  | orderedMap
  | pairs
  /-- The key whose value is merged into its mapping. -/
  | merge
  /-- The key of the default value of a mapping. -/
  | default
  | other (name : String)
deriving DecidableEq, Repr, Inhabited

namespace Tag

/-- The common part of the names of the common tags. -/
def repository : String := "tag:yaml.org,2002:"

/-- The common tags by their short names. -/
def common : List (String × Tag) :=
  [("null", .null), ("bool", .bool), ("int", .int), ("float", .float),
   ("timestamp", .timestamp), ("str", .text), ("binary", .binary), ("seq", .sequence),
   ("map", .mapping), ("set", .set), ("omap", .orderedMap), ("pairs", .pairs),
   ("merge", .merge), ("value", .default)]

/-- The tag of a name. -/
def ofName (name : String) : Tag :=
  match common.find? fun p => repository ++ p.1 == name with
  | some (_, tag) => tag
  | none => .other name

end Tag

end TypstPress.Yaml
