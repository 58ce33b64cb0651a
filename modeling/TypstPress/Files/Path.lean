import TypstPress.Failure

/-!
# File names

A file name is a sequence of components between slashes, from the root or from the current
directory. Empty components and single points do not count; the name of no component at all is a
point. What the system makes of `..` depends on the files, so `Path.ofText` keeps it;
`Path.absolute` takes the component before it away.
-/

namespace TypstPress

/-- A file name. -/
structure Path where
  /-- The slashes at the start that count: none, one or two. -/
  root : Nat
  components : List String
deriving DecidableEq, Repr, Inhabited

namespace Path

/-- The parts of a text between slashes. -/
def parts : List Char → List (List Char)
  | [] => [[]]
  | c :: rest =>
    match parts rest with
    | [] => [[c]]
    | part :: more => if c == '/' then [] :: part :: more else (c :: part) :: more

/-- The slashes at the start of a text that count: two are kept, more count as one. -/
def rootOf (cs : List Char) : Nat :=
  match (cs.takeWhile (· == '/')).length with
  | 0 => 0
  | 2 => 2
  | _ => 1

/-- Reads a file name. -/
def ofText (text : String) : Path where
  root := rootOf text.toList
  components := ((parts text.toList).map String.ofList).filter fun c => c != "" && c != "."

/-- The file name as messages show it. -/
def text (p : Path) : String :=
  let start := String.ofList (List.replicate p.root '/')
  let name := start ++ "/".intercalate p.components
  if name.isEmpty then "." else name

/-- The components with `..` and what stands before it taken away; `done` holds those so far, the
last one first. -/
def collapse (done : List String) : List String → List String
  | [] => done.reverse
  | ".." :: rest => collapse (done.drop 1) rest
  | c :: rest => collapse (c :: done) rest

/-- The name from the root, for a current directory. -/
def absolute (here : String) (p : Path) : Path :=
  if p.root == 0 then
    { root := 1, components := collapse (ofText here).components.reverse p.components }
  else { p with components := collapse [] p.components }

end Path

end TypstPress
