import TypstPress.FrontMatter
import TypstPress.Markdown.Nodes
import TypstPress.Markdown.Read
import TypstPress.Options
import TypstPress.Source
import TypstPress.Transform
import TypstPress.Typst.Compile

/-!
# From Markdown to Typst

A source is read and parsed into a document, transforms rewrite the document, and the compiler
turns it into Typst source with a list of images. Only failures of the library leave the pipeline:
a failure of any other kind is wrapped, by the reader as a failed conversion and by the transforms
with the name of the one that failed.
-/

namespace TypstPress.Pipeline

/-- Parses a source with the given options; failures are passed on as they are. -/
def parse (access : Source.Access) (options : MarkdownOptions) (source : Source) :
    Attempt Node := do
  let text ← source.load access
  let (content, metadata) ← FrontMatter.extract options text
  let reading := Markdown.read options content
  Attempt.notes (Markdown.blockLogAll reading.tokens)
  return .branch .document (Markdown.documentNodes reading.tokens reading.links) metadata

/-- A failure of the reader as it leaves the pipeline. -/
def parseFailure (f : Failure) : Failure :=
  if f.isLibrary then f
  else .parsing ("AST conversion failed: " ++ f.mention) (some "ast_conversion") (some f)

/-- The document of a source. -/
def document (access : Source.Access) (options : Option AnyOptions) (source : Source) :
    Attempt Node :=
  Attempt.mapFailure parseFailure do
    let options ← .ofExcept (AnyOptions.forMarkdown options)
    parse access options source

/-- Rewrites a document with transforms in order. -/
def rewrite (transforms : List Transform) (document : Node) : Attempt Node :=
  let r := Transform.runAll transforms document
  { result := match r.failure with
      | some f => .error f
      | none => .ok r.tree
    log := r.log }

/-- Compiles a document. -/
def compile (options : Option AnyOptions) (document : Node) : Attempt Typst.Compiled := do
  let options ← .ofExcept (AnyOptions.forTypst options)
  Typst.compile options document

/-- The transform that puts Typst source in front; none for an empty source. -/
def preambleTransforms (preamble : Option String) : List Transform :=
  match preamble with
  | some source => if source.isEmpty then [] else [.preamble source]
  | none => []

/-- Compiles a source: the usual transforms run first, then the given ones, then the preamble is
put in front. -/
def run (access : Source.Access) (parserOptions compilerOptions : Option AnyOptions)
    (transforms : List Transform) (preamble : Option String) (source : Source) :
    Attempt Typst.Compiled := do
  let tree ← document access parserOptions source
  let tree ← rewrite (Transform.defaults ++ transforms ++ preambleTransforms preamble) tree
  compile compilerOptions tree

end TypstPress.Pipeline
