import TypstPress.Typst.Compile

/-!
# A renderer

A renderer is made once with its options and then called any number of times. While it sets a
document it fills a context: the pieces of output, the images, the definitions found in the tree,
and a mark on every footnote that something referred to. The context stays where it is when a call
is over, and a call that fails leaves it half filled.

`Renderer.compile` therefore works on whatever context it is given. It is compared with
`Typst.compile`, which has no context, in `TypstPress.Proofs.Typst.Renderer`.
-/

namespace TypstPress.Typst

/-- A collected footnote, and whether anything referred to it. -/
structure NoteState where
  identifier : String
  content : List Node
  visited : Bool := false
deriving Inhabited

/-- What a renderer writes to while it sets a document. -/
structure Context where
  /-- The pieces of source in order. -/
  output : List String := []
  /-- The images in order of appearance. -/
  assets : List Asset := []
  /-- The first url of every identifier that is defined. -/
  links : List (String × Url) := []
  /-- The first footnote of every identifier, in document order. -/
  notes : List NoteState := []
deriving Inhabited

namespace Context

/-- The definitions that references are resolved with. -/
def definitions (c : Context) : Definitions where
  links := c.links
  notes := c.notes.map fun note => (note.identifier, note.content)

/-- What nodes are set with. -/
def setting (options : TypstOptions) (c : Context) : Setting :=
  { options, definitions := c.definitions }

/-- Records the definition that a node is, unless its identifier is taken. -/
def collectNode (c : Context) : Node → Context
  | .leaf (.definition identifier url _ _) _ =>
    if (c.links.lookup identifier).isSome then c
    else { c with links := c.links ++ [(identifier, url)] }
  | .branch (.footnoteDefinition identifier) content _ =>
    if c.notes.any (·.identifier == identifier) then c
    else { c with notes := c.notes ++ [{ identifier, content }] }
  | _ => c

/-- Records the definitions found anywhere in a tree. -/
def collect (c : Context) (tree : Node) : Context := tree.walk.foldl collectNode c

/-- Writes a piece of source. -/
def write (c : Context) (piece : String) : Context := { c with output := c.output ++ [piece] }

/-- Lists an image. -/
def use (c : Context) (url : String) : Context :=
  { c with assets := c.assets ++ [Asset.ofUrl url] }

/-- Marks the footnote with the identifier, if there is one, as referred to. -/
def visit (c : Context) (identifier : String) : Context :=
  { c with notes := c.notes.map fun note =>
      { note with visited := note.visited || note.identifier == identifier } }

/-- Whether a footnote is marked. -/
def isVisited (c : Context) (identifier : String) : Bool :=
  c.notes.any fun note => note.identifier == identifier && note.visited

end Context

/-- Where setting got to: the context as it was left, and the defect it stopped at, if it did. -/
structure Emission where
  context : Context
  log : Log := []
  defect : Option Defect := none

/-- One emission followed by another on the context it leaves, unless the first stopped. -/
def Emission.andThen (first : Emission) (second : Context → Emission) : Emission :=
  match first.defect with
  | some _ => first
  | none =>
    let rest := second first.context
    { rest with log := first.log ++ rest.log }

/-- Sets fragments in a context; `bodies` sets the footnote bodies. -/
def emit (bodies : Context → Emission) (c : Context) : List Fragment → Emission
  | [] => { context := c }
  | .source s :: rest => emit bodies (c.write s) rest
  | .asset url :: rest => emit bodies (c.use url) rest
  | .cite identifier :: rest => emit bodies (c.visit identifier) rest
  | .record r :: rest =>
    let emission := emit bodies c rest
    { emission with log := r :: emission.log }
  | .noteBodies :: rest => (bodies c).andThen fun c => emit bodies c rest
  | .defect d :: _ => { context := c, defect := some d }

/-- Sets the bodies of the given footnotes in order, as far as each is marked when its turn
comes. -/
def emitBodies (options : TypstOptions) (bodies : Context → Emission) (c : Context) :
    List (String × List Node) → Emission
  | [] => { context := c }
  | (identifier, content) :: rest =>
    if c.isVisited identifier then
      (emit bodies c (bodyFragments (c.setting options) identifier content)).andThen fun c =>
        emitBodies options bodies c rest
    else emitBodies options bodies c rest

/-- Sets the bodies of all marked footnotes, with as many levels of documents inside footnote
bodies. -/
def emitNotes (options : TypstOptions) : Nat → Context → Emission
  | 0, c => { context := c, defect := some .endless }
  | levels + 1, c => emitBodies options (emitNotes options levels) c c.definitions.notes

/-- A renderer: its options, and the context of the call it is in or was in last. -/
structure Renderer where
  options : TypstOptions
  context : Context := {}
deriving Inhabited

namespace Renderer

/-- Sets a tree in the context as it is. -/
def set (r : Renderer) (tree : Node) : Emission :=
  emit (emitNotes r.options (r.context.notes.length + 2)) r.context
    (fragments (r.context.setting r.options) tree)

/-- Compiles a document. A root of another kind is refused before the context is touched; else the
call starts a context of its own, collects the definitions into it and sets the document. -/
def compile (r : Renderer) (document : Node) : Attempt Compiled × Renderer :=
  if document.isDocument then
    let r := { r with context := {} }
    let r := { r with context := r.context.collect document }
    let emission := r.set document
    let log := r.context.definitions.record :: emission.log
    let r := { r with context := emission.context }
    match emission.defect with
    | some d => ({ result := .error d.failure, log }, r)
    | none =>
      ({ result := .ok { source := String.join r.context.output, assets := r.context.assets }
         log := log ++
          [⟨.debug, speaker, s!"Compiled document with {r.context.assets.length} assets"⟩] }, r)
  else (.fail (Defect.notADocument document.kindName).failure, r)

/-- Compiles a document and keeps the source only. -/
def renderToString (r : Renderer) (document : Node) : Attempt String × Renderer :=
  let (compiled, r) := r.compile document
  ({ result := compiled.result.map (·.source), log := compiled.log }, r)

/-- A call of a renderer. -/
inductive Call where
  | compile (document : Node)
  | renderToString (document : Node)

/-- What a call answers. -/
inductive Answer where
  | compiled (answer : Attempt Compiled)
  | rendered (answer : Attempt String)

/-- Makes one call. -/
def answer (r : Renderer) : Call → Answer × Renderer
  | .compile document => (r.compile document).map .compiled id
  | .renderToString document => (r.renderToString document).map .rendered id

/-- Makes calls one after the other on the same renderer. -/
def answers (r : Renderer) : List Call → List Answer × Renderer
  | [] => ([], r)
  | call :: calls =>
    let (answer, r) := r.answer call
    let (rest, r) := r.answers calls
    (answer :: rest, r)

end Renderer

end TypstPress.Typst
