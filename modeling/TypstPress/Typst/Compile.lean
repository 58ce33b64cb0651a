import TypstPress.Attempt
import TypstPress.Typst.Fragment

/-!
# Compiling a document

The fragments of a document are run from left to right. What a run carries along is the list of
footnotes referred to so far; at the end of the body the bodies of those footnotes are set, in the
order of their definitions, and a reference inside a body can still bring in the notes that come
after it. A run that meets a defect stops there.

A document inside a footnote body asks for the bodies again. The list of references only grows, so
either such nesting ends within as many levels as there are notes, or it never does: `noteBodies`
counts the levels and reports the second case.
-/

namespace TypstPress.Typst

/-- What a run of fragments amounts to. -/
structure Outcome where
  /-- The pieces of source in order. -/
  source : List String := []
  /-- The images in order of appearance; one used twice is listed twice. -/
  assets : List Asset := []
  /-- The footnotes referred to, before and during the run. -/
  cited : List String := []
  log : Log := []
  /-- Where the run stopped, if it did. -/
  defect : Option Defect := none
deriving Inhabited

/-- The first outcome followed by the second, unless the first stopped. -/
def Outcome.followedBy (first : Outcome) (second : List String → Outcome) : Outcome :=
  match first.defect with
  | some _ => first
  | none =>
    let rest := second first.cited
    { source := first.source ++ rest.source
      assets := first.assets ++ rest.assets
      cited := rest.cited
      log := first.log ++ rest.log
      defect := rest.defect }

/-- Runs fragments after references to `cited`; `bodies` sets the footnote bodies. -/
def run (bodies : List String → Outcome) (cited : List String) : List Fragment → Outcome
  | [] => { cited }
  | .source s :: rest =>
    let outcome := run bodies cited rest
    { outcome with source := s :: outcome.source }
  | .asset url :: rest =>
    let outcome := run bodies cited rest
    { outcome with assets := Asset.ofUrl url :: outcome.assets }
  | .cite identifier :: rest =>
    run bodies (if cited.contains identifier then cited else cited ++ [identifier]) rest
  | .record r :: rest =>
    let outcome := run bodies cited rest
    { outcome with log := r :: outcome.log }
  | .noteBodies :: rest => (bodies cited).followedBy fun cited => run bodies cited rest
  | .defect d :: _ => { cited, defect := some d }

/-- The fragments of a footnote body with its label. -/
def bodyFragments (s : Setting) (identifier : String) (content : List Node) : List Fragment :=
  .source "#footnote[\n" :: fragmentsAll s content ++
    [.source "]#label(\"", .source (noteLabel s identifier), .source "\")\n"]

/-- Sets the bodies of the given footnotes in order, as far as each is referred to when its turn
comes. -/
def runBodies (s : Setting) (bodies : List String → Outcome) (cited : List String) :
    List (String × List Node) → Outcome
  | [] => { cited }
  | (identifier, content) :: rest =>
    if cited.contains identifier then
      (run bodies cited (bodyFragments s identifier content)).followedBy fun cited =>
        runBodies s bodies cited rest
    else runBodies s bodies cited rest

/-- Sets the bodies of all footnotes referred to, with as many levels of documents inside footnote
bodies. -/
def noteBodies (s : Setting) : Nat → List String → Outcome
  | 0, cited => { cited, defect := some .endless }
  | levels + 1, cited => runBodies s (noteBodies s levels) cited s.definitions.notes

/-- Runs the fragments of a tree with nothing referred to yet. -/
def runTree (s : Setting) (tree : Node) : Outcome :=
  run (noteBodies s (s.definitions.notes.length + 2)) [] (fragments s tree)

/-- Typst source and the images it refers to. -/
structure Compiled where
  source : String
  assets : List Asset
deriving DecidableEq, Repr, Inhabited

/-- Compiles a document: collects its definitions, then sets it. -/
def compile (options : TypstOptions) (document : Node) : Attempt Compiled :=
  if document.isDocument then
    let definitions := Definitions.collect document
    let outcome := runTree { options, definitions } document
    let log := definitions.record :: outcome.log
    match outcome.defect with
    | some d => { result := .error d.failure, log }
    | none =>
      { result := .ok { source := String.join outcome.source, assets := outcome.assets }
        log := log ++
          [⟨.debug, speaker, s!"Compiled document with {outcome.assets.length} assets"⟩] }
  else .fail (Defect.notADocument document.kindName).failure

end TypstPress.Typst
