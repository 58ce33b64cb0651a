import TypstPress.Document.Traverse
import TypstPress.Log

/-!
# Definitions of a document

References may stand before what they refer to, so definitions are collected from the whole tree
before anything is set. Of several definitions with one identifier the first counts, both for links
and for footnotes.
-/

namespace TypstPress


/-- What the references of a document refer to, in document order and without repetition. -/
structure Definitions where
  links : List (String × Url) := []
  notes : List (String × List Node) := []
deriving Inhabited

namespace Definitions

/-- The url that an identifier is defined as. -/
def url? (d : Definitions) (identifier : String) : Option Url := d.links.lookup identifier

/-- Whether a footnote with the identifier is defined. -/
def hasNote (d : Definitions) (identifier : String) : Bool := d.notes.any (·.1 == identifier)

/-- The definitions with those of one node; an identifier that is already defined stays. -/
def collectNode (d : Definitions) : Node → Definitions
  | .leaf (.definition identifier url _ _) _ =>
    if (d.url? identifier).isSome then d else { d with links := d.links ++ [(identifier, url)] }
  | .branch (.footnoteDefinition identifier) content _ =>
    if d.hasNote identifier then d else { d with notes := d.notes ++ [(identifier, content)] }
  | _ => d

/-- The definitions of a whole tree. -/
def collect (tree : Node) : Definitions := tree.walk.foldl collectNode {}

/-- The record that tells how much was collected. -/
def record (d : Definitions) : Record where
  severity := .debug
  speaker := "md2typst.renderers.typst"
  message := s!"Collected {d.links.length} definitions and {d.notes.length} footnote definitions"

end Definitions

end TypstPress
