import TypstPress.Transform.Rewrite

/-!
# Typst markup spliced into a document

A preamble is set in front of a document. Leaf directives with given names are replaced by Typst
markup, from the root down and children in order; inside a directive that was replaced nothing is
looked for any more. Replacing needs a node that lets its children be replaced, so a directive that
stands directly in a list, a table or a table row stops the rewriting there.
-/

namespace TypstPress

/-- The document with Typst source in front of its children; an empty text adds nothing. -/
def insertPreamble (source : String) : Node → Node
  | .branch k cs m => if source.isEmpty then .branch k cs m else .branch k (.ofTypst source :: cs) m
  | n => n

namespace DirectiveMarkup

/-- The markup for the controls of slides. -/
def slideControls : List (String × String) :=
  [("pause", "#pause\n"), ("meanwhile", "#meanwhile\n")]

/-- The markup for a node, if it is a leaf directive with a mapped name. -/
def markupFor? (markup : List (String × String)) : Node → Option String
  | .branch (.leafDirective name _) _ _ => markup.lookup name
  | _ => none

/-- How many of the nodes are to be replaced. -/
def countMapped (markup : List (String × String)) (ns : List Node) : Nat :=
  ns.countP fun n => (markupFor? markup n).isSome

/-- The outcome of replacing directives: the tree, how many were replaced, and the kind of the node
that refused, if one did. -/
structure Replaced where
  tree : Node
  count : Nat := 0
  refusal : Option String := none
deriving Inhabited

mutual

/-- Replaces the directives below a node. -/
def replaceBelow (markup : List (String × String)) : Node → Replaced
  | .leaf l m => { tree := .leaf l m }
  | .branch k cs m =>
    let mapped := countMapped markup cs
    if mapped != 0 && !k.acceptsChildren then { tree := .branch k cs m, refusal := some k.name }
    else
      let (children, count, refusal) := replaceAmong markup cs
      { tree := .branch k children m, count := mapped + count, refusal }

/-- Replaces the directives among and below the children of a node. The children themselves are
replaced all at once, those below them up to the first refusal. -/
def replaceAmong (markup : List (String × String)) :
    List Node → List Node × Nat × Option String
  | [] => ([], 0, none)
  | n :: ns =>
    match markupFor? markup n with
    | some source =>
      let (rest, count, refusal) := replaceAmong markup ns
      (.ofTypst source :: rest, count, refusal)
    | none =>
      let first := replaceBelow markup n
      match first.refusal with
      | some kindName =>
        let ns := ns.map fun n => ((markupFor? markup n).map Node.ofTypst).getD n
        (first.tree :: ns, first.count, some kindName)
      | none =>
        let (rest, count, refusal) := replaceAmong markup ns
        (first.tree :: rest, first.count + count, refusal)

end

/-- Replaces the mapped directives of a document. -/
def apply (markup : List (String × String)) (document : Node) : Rewrite :=
  let replaced := replaceBelow markup document
  match replaced.refusal with
  | some kindName => { tree := replaced.tree, failure := some (.fixedChildren kindName) }
  | none =>
    { tree := replaced.tree
      log :=
        if replaced.count == 0 then []
        else
          [⟨.debug, "md2typst.transforms.markup",
            s!"Replaced {replaced.count} directive(s) with Typst markup"⟩] }

end DirectiveMarkup

end TypstPress
