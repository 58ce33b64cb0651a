import TypstPress.Attempt
import TypstPress.Transform.ImageAttributes
import TypstPress.Transform.TableSpans
import TypstPress.Transform.TypstMarkup

/-!
# Transforms

A transform rewrites a document between reading and compiling. Transforms run in order and only on
documents; the first failure ends the run. A failure of the library is passed on as it is, any
other is reported as a failure of the transform by name.
-/

namespace TypstPress

/-- A rewriting of documents. -/
inductive Transform where
  | imageAttributes
  | tableSpans
  | preamble (source : String)
  | directives (markup : List (String × String))
  /-- A rewriting of the caller's own, with its name. -/
  | custom (name : String) (rewrite : Node → Rewrite)

namespace Transform

/-- The name that records and failures show. -/
def name : Transform → String
  | .imageAttributes => "ImageAttributeTransform"
  | .tableSpans => "TableSpanTransform"
  | .preamble _ => "PreambleTransform"
  | .directives _ => "DirectiveMarkupTransform"
  | .custom name _ => name

/-- The rewriting itself, for a document. -/
def apply : Transform → Node → Rewrite
  | .imageAttributes, document => ImageAttributes.apply document
  | .tableSpans, document => TableSpans.apply document
  | .preamble source, document => { tree := insertPreamble source document }
  | .directives markup, document => DirectiveMarkup.apply markup document
  | .custom _ rewrite, document => rewrite document

/-- A transform that always fails. -/
def failing (name : String) (failure : Failure) : Transform :=
  .custom name fun document => { tree := document, failure := some failure }

/-- The transforms of every compilation. -/
def defaults : List Transform := [.imageAttributes, .tableSpans]

/-- Rewrites a tree, provided that it is a document. -/
def run (t : Transform) (tree : Node) : Rewrite :=
  match ensureDocument tree t.name with
  | .ok () => t.apply tree
  | .error f => { tree, failure := some f }

/-- A failure as the pipeline reports it. -/
def report (t : Transform) (failure : Failure) : Failure :=
  if failure.isLibrary then failure
  else
    .transform ("Transform " ++ t.name ++ " failed: " ++ failure.mention) (some t.name)
      (some failure)

/-- Runs transforms in order. -/
def runAll : List Transform → Node → Rewrite
  | [], tree => { tree }
  | t :: ts, tree =>
    let start : Record := ⟨.debug, "md2typst.api", "Applying transform: " ++ t.name⟩
    let first := t.run tree
    match first.failure with
    | some f =>
      { tree := first.tree, log := start :: first.log, failure := some (t.report f) }
    | none =>
      let rest := runAll ts first.tree
      { rest with log := start :: first.log ++ rest.log }

end Transform

end TypstPress
