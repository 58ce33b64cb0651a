import TypstPress.Transform.AttributeBlock
import TypstPress.Transform.Rewrite

/-!
# Attributes of images

In every list of children, a text that directly follows an image and starts with an attribute
block gives the block to the image and keeps what follows it. A text that is used up is removed.
Removing needs a node that lets its children be replaced: for lists, tables and table rows it
fails, after the attributes were moved.

The tree is rewritten from the root down, children in order, and stops at the first failure.
-/

namespace TypstPress.ImageAttributes

/-- The image with attributes added; nothing for other nodes. -/
def addTo? (attributes : Attributes) : Node → Option Node
  | .leaf (.image url altText title old) m =>
    some (.leaf (.image url altText title (old.update attributes)) m)
  | .leaf (.imageReference identifier label form altText old) m =>
    some (.leaf (.imageReference identifier label form altText (old.update attributes)) m)
  | _ => none

/-- The block at the start of a text node, with the node that keeps what follows it. -/
def splitText? : Node → Option (Attributes × String × Node)
  | .leaf (.text content) m =>
    (AttributeBlock.parse content).map fun r => (r.1, r.2, .leaf (.text r.2) m)
  | _ => none

/-- A child after its block was moved: what it became and whether that used up its text. -/
structure Child where
  node : Node
  usedUp : Bool := false
deriving Inhabited

/-- Moves the blocks of a list of children and counts them. -/
def moveBlocks : List Node → List Child × Nat
  | [] => ([], 0)
  | [n] => ([{ node := n }], 0)
  | n :: next :: rest =>
    match splitText? next with
    | some (attributes, remaining, shortened) =>
      match addTo? attributes n with
      | some image =>
        let (children, moved) := moveBlocks rest
        ({ node := image } :: { node := shortened, usedUp := remaining.isEmpty } :: children,
          moved + 1)
      | none =>
        let (children, moved) := moveBlocks (next :: rest)
        ({ node := n } :: children, moved)
    | none =>
      let (children, moved) := moveBlocks (next :: rest)
      ({ node := n } :: children, moved)

/-- The outcome of moving blocks: the tree, how many were moved, and the kind of the node that
refused, if one did. -/
structure Moved where
  tree : Node
  count : Nat := 0
  refusal : Option String := none
deriving Inhabited

/-- Moves the blocks among the direct children of a node. -/
def attach (container : Node) : Moved :=
  match container with
  | .leaf _ _ => { tree := container }
  | .branch k cs m =>
    let (children, count) := moveBlocks cs
    if children.any (·.usedUp) then
      if k.acceptsChildren then
        { tree := .branch k ((children.filter (!·.usedUp)).map (·.node)) m, count }
      else { tree := .branch k (children.map (·.node)) m, refusal := some k.name }
    else { tree := .branch k (children.map (·.node)) m, count }

mutual

/-- Moves the blocks of a whole tree. The blocks are texts and images, which have no children, so
a node's own blocks may be moved around its finished children. -/
def attachTree : Node → Moved
  | .leaf l m => { tree := .leaf l m }
  | .branch k cs m =>
    let here := attach (.branch k cs m)
    match here.refusal with
    | some _ => here
    | none =>
      let (children, count, refusal) := attachTrees cs
      { tree := (attach (.branch k children m)).tree, count := here.count + count, refusal }

/-- Moves the blocks of several trees in order, up to the first refusal. -/
def attachTrees : List Node → List Node × Nat × Option String
  | [] => ([], 0, none)
  | n :: ns =>
    let first := attachTree n
    match first.refusal with
    | some kindName => (first.tree :: ns, first.count, some kindName)
    | none =>
      let (rest, count, refusal) := attachTrees ns
      (first.tree :: rest, first.count + count, refusal)

end

/-- Moves the blocks of a document. -/
def apply (document : Node) : Rewrite :=
  let moved := attachTree document
  match moved.refusal with
  | some kindName => { tree := moved.tree, failure := some (.fixedChildren kindName) }
  | none =>
    { tree := moved.tree
      log :=
        if moved.count == 0 then []
        else
          [⟨.debug, "md2typst.transforms.image_attributes",
            s!"Applied {moved.count} image attribute block(s)"⟩] }

end TypstPress.ImageAttributes
