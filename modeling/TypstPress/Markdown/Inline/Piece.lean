import TypstPress.Markdown.Entity
import TypstPress.Markdown.Token

/-!
# Pieces of a text

While a text is read it is a row of pieces: literal text, finished tokens, and runs of emphasis
marks, which are decided last. Literal text that stands side by side is one text in the end, except
where joining two texts would make a character reference of an `&` and what follows it.
-/

namespace TypstPress.Markdown

/-- How many tokens may stand inside each other within a text. -/
def deepestToken : Nat := 20

/-- A run of emphasis marks. -/
structure Run where
  mark : Char
  /-- How many runs come before. -/
  place : Nat
  /-- How many marks are left. -/
  size : Nat
  /-- How many marks there were. -/
  width : Nat
  opens : Bool
  closes : Bool
deriving DecidableEq, Repr, Inhabited

/-- The marks that are left, as text. -/
def Run.toToken (r : Run) : Token := Token.ofText (List.replicate r.size r.mark)

/-- A part of a text. -/
inductive Piece where
  | literal (text : List Char)
  | token (t : Token)
  /-- An address with the text it is written as. -/
  | address (t : Token) (source : List Char)
  /-- Emphasis with the runs left inside that could open and close, the last one first. -/
  | emphasis (t : Token) (left : List Run)
  /-- A run that is not decided yet. -/
  | run (r : Run)
deriving Inhabited

namespace Piece

/-- The token that a piece amounts to when nothing follows it any more. -/
def toToken : Piece → Token
  | .literal text => Token.ofText text
  | .token t | .address t _ | .emphasis t _ => t
  | .run r => r.toToken

/-- Whether the piece is a run. -/
def isRun : Piece → Bool
  | .run _ => true
  | _ => false

/-- The piece inside a link, where addresses are text. -/
def inLink : Piece → Piece
  | .address _ source => .token (Token.ofText source)
  | piece => piece

end Piece

/-- Whether a text can be joined to one that ends in `last`: no character reference arises where
they meet. -/
def canJoin (last : Option Char) (text : List Char) : Bool :=
  !(last == some '&' && (reference? text).isSome)

/-- Pieces with adjacent literal texts joined; `before` is the literal text before them, its last
character first. -/
def joinLiterals (before : List Char) : List Piece → List Piece
  | [] => flush before []
  | .literal text :: rest =>
    if canJoin before.head? text then joinLiterals (text.reverseAux before) rest
    else flush before (joinLiterals text.reverse rest)
  | piece :: rest => flush before (piece :: joinLiterals [] rest)
where
  /-- The pieces behind a literal text, if it is not empty. -/
  flush (before : List Char) (rest : List Piece) : List Piece :=
    if before.isEmpty then rest else .literal before.reverse :: rest

/-- Tokens with adjacent texts joined and without empty texts; `before` is the text before them, if
there is one. -/
def joinTexts (before : Option String) : List Token → List Token
  | [] => (before.map (Token.flat .text)).toList
  | t :: ts =>
    if !t.isText then (before.map (Token.flat .text)).toList ++ t :: joinTexts none ts
    else if t.raw.isEmpty then joinTexts before ts
    else
      match before with
      | none => joinTexts (some t.raw) ts
      | some text =>
        if canJoin text.toList.getLast? t.raw.toList then joinTexts (some (text ++ t.raw)) ts
        else .flat .text text :: joinTexts (some t.raw) ts

end TypstPress.Markdown
