import TypstPress.Yaml.Problem

/-!
# Tokens of YAML

The tokens of a text carry its layout: the start and the end of an indented collection are tokens
of their own. Where reading cannot go on, the last token tells why, so that what stands before is
still judged first.
-/

namespace TypstPress.Yaml

/-- A line that tells how the document is to be read. -/
inductive Directive where
  | version (major : Nat)
  | tagHandle (handle expansion : String)
  | reserved
deriving Repr, Inhabited

/-- A token of a text. -/
inductive Token where
  | directive (directive : Directive)
  | documentStart
  | documentEnd
  | streamEnd
  | blockSequenceStart
  | blockMappingStart
  | blockEnd
  | flowSequenceStart
  | flowSequenceEnd
  | flowMappingStart
  | flowMappingEnd
  | flowEntry
  | blockEntry
  | key
  | value
  | anchor (name : String)
  | alias (name : String)
  /-- A tag as it is written: its handle, if it has one, and the rest. -/
  | tag (handle : Option String) (suffix : String)
  | scalar (text : String) (plain : Bool)
  /-- Reading stops here. -/
  | problem (problem : Problem)
deriving Repr, Inhabited

end TypstPress.Yaml
