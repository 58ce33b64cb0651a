import TypstPress.Document.Traverse
import TypstPress.Failure

/-!
# Rewriting a tree

Transforms change a tree step by step and may fail between two steps. What they leave behind then
is visible to whoever holds the tree, so a rewrite always has a tree: the one it arrived at.
-/

namespace TypstPress

/-- The outcome of rewriting: the tree it arrived at, the records it wrote and why it stopped, if
it did not finish. -/
structure Rewrite where
  tree : Node
  log : Log := []
  failure : Option Failure := none
deriving Inhabited

namespace Failure

/-- The failure of replacing the children of a node that does not let them be replaced. -/
def fixedChildren (kindName : String) : Failure :=
  .fault (Fault.wrongValue ("Cannot replace children of " ++ kindName ++ " nodes"))

/-- The failure of asking a node for a part that its kind does not have. -/
def noSuchPart (kindName part : String) : Failure :=
  .fault (Fault.missingPart ("'" ++ kindName ++ "' object has no attribute '" ++ part ++ "'"))

/-- The failure for a root that is not a document. -/
def notADocument (kindName stage : String) : Failure :=
  .malformedTree ("Expected a Document root, got " ++ kindName) (some kindName) (some stage)

end Failure

/-- Succeeds for a document; `stage` names who asks. -/
def ensureDocument (tree : Node) (stage : String) : Except Failure Unit :=
  if tree.isDocument then .ok () else .error (.notADocument tree.kindName stage)

end TypstPress
