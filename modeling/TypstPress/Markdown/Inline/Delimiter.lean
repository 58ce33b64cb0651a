import TypstPress.Markdown.Inline.Piece

/-!
# Emphasis

A run of `*` or `_` may open emphasis, close it, or both. Closing runs look back for the nearest
run that can open; two marks of each make strong emphasis, one makes emphasis, and what the runs
have left goes on. What is left of a run in the end is text, and a run that is used up is an empty
text.

Two things end the search early. A run left inside finished emphasis can no longer be paired, but
where it could open and close it still hides the runs before it from what it would pair with. And
once a closing run has found nothing, runs of its kind that come later do not look further back
than its place: what stands there has been tried.
-/

namespace TypstPress.Markdown

namespace Run

/-- Whether the first run can open what the second closes. Runs that can do both only match when
their widths do not add up to a multiple of three, or both are one. -/
def pairsWith (opener closer : Run) : Bool :=
  opener.mark == closer.mark && opener.opens &&
    !((opener.closes || closer.opens) && (opener.width + closer.width) % 3 == 0 &&
      !(opener.width % 3 == 0 && closer.width % 3 == 0))

/-- What closing runs have in common that stop looking back at the same place. -/
def closingKind (r : Run) : Char × Bool × Nat := (r.mark, r.opens, r.size % 3)

/-- A run after its last use: text if it is used up, otherwise a run still. -/
def leftover (r : Run) : Piece := if r.size == 0 then .token r.toToken else .run r

end Run

/-- The runs that a piece leaves inside emphasis around it, the last one first. -/
def Piece.leftRuns : Piece → List Run
  | .run r => if r.opens && r.closes then [r] else []
  | .emphasis _ left => left
  | _ => []

/-- Looks back from a closing run as far as `bottom` for the run that opens: what stands between
them, the opening run, and what stands before it, each with the nearest first. -/
def findOpener (closer : Run) (bottom : Nat) :
    List Piece → Option (List Piece × Run × List Piece)
  | [] => none
  | piece :: before =>
    let further (_ : Unit) :=
      (findOpener closer bottom before).map fun f => (piece :: f.1, f.2)
    match piece with
    | .run r =>
      if r.place < bottom then none
      else if r.pairsWith closer then some ([], r, before)
      else further ()
    | .emphasis _ left =>
      if left.any fun r => bottom ≤ r.place && r.pairsWith closer then none else further ()
    | _ => further ()

/-- How far the runs of a text are resolved. -/
structure Resolution where
  /-- The pieces so far, the last one first. -/
  pieces : List Piece := []
  /-- For each kind of closing run that has found nothing, where the next one stops looking. -/
  bottoms : List ((Char × Bool × Nat) × Nat) := []

namespace Resolution

/-- Where a closing run stops looking back. -/
def bottomOf (s : Resolution) (closer : Run) : Nat :=
  (s.bottoms.lookup closer.closingKind).getD 0

/-- The state after one more piece. -/
def push (s : Resolution) (piece : Piece) : Resolution := { s with pieces := piece :: s.pieces }

/-- The state after a closing run that has found nothing. -/
def giveUp (s : Resolution) (closer : Run) : Resolution :=
  let bottoms :=
    (closer.closingKind, closer.place) :: s.bottoms.filter (·.1 != closer.closingKind)
  { s with bottoms }.push (if closer.opens then .run closer else .token closer.toToken)

end Resolution

/-- The emphasis around pieces, the last one first, for one or two marks on each side; none if it
would be nested too deeply. -/
def emphasisOf? (between : List Piece) (marks : Nat) : Option Piece :=
  let kind := if marks == 2 then TokenKind.strong else .emphasis
  let t := Token.branch kind (between.reverse.map Piece.toToken)
  if deepestToken < t.depth then none else some (.emphasis t (between.flatMap Piece.leftRuns))

/-- Takes a run with at most `fuel` marks into account. -/
def closeRun : Nat → Resolution → Run → Resolution
  | 0, s, r => s.push r.leftover
  | fuel + 1, s, r =>
    if r.closes && r.size != 0 then
      let pair := do
        let (between, opener, earlier) ← findOpener r (s.bottomOf r) s.pieces
        let marks := if 2 ≤ opener.size && 2 ≤ r.size then 2 else 1
        let node ← emphasisOf? between marks
        some (node :: { opener with size := opener.size - marks }.leftover :: earlier, marks)
      match pair with
      | some (pieces, marks) => closeRun fuel { s with pieces } { r with size := r.size - marks }
      | none => s.giveUp r
    else s.push r.leftover

/-- The tokens of a row of pieces with their runs resolved. -/
def resolveRuns (pieces : List Piece) : List Token :=
  let resolved := pieces.foldl (fun s piece =>
    match piece with
    | .run r => closeRun (r.size + 1) s r
    | piece => s.push piece) ({} : Resolution)
  resolved.pieces.reverse.map Piece.toToken

/-- The tokens of a row of pieces. Texts are joined only where there is a run among the pieces. -/
def finishPieces (pieces : List Piece) : List Token :=
  let pieces := joinLiterals [] pieces
  if pieces.any Piece.isRun then joinTexts none (resolveRuns pieces) else pieces.map Piece.toToken

end TypstPress.Markdown
