import TypstPress.Package.Version

/-!
# Version requirements

A requirement is a list of clauses separated by commas, and a version meets it when it meets every
clause. Local builds only count where a clause names one. `~=` asks for the same release up to its
last number, `== 1.2.*` for a release that starts with the given numbers.
-/

namespace TypstPress

/-- How a clause compares. -/
inductive Comparison where
  | compatible
  | equal
  | different
  | atMost
  | atLeast
  | less
  | greater
  /-- The normal text of the version is the one given. -/
  | identical
deriving DecidableEq, Repr

/-- A clause of a requirement. -/
structure Specifier where
  comparison : Comparison
  /-- The version as it is written. -/
  text : List Char
deriving DecidableEq, Repr

namespace Specifier

/-- The marks of comparisons, in the order in which they are tried. -/
def marks : List (String × Comparison) :=
  [("~=", .compatible), ("===", .identical), ("==", .equal), ("!=", .different), ("<=", .atMost),
   (">=", .atLeast), ("<", .less), (">", .greater)]

/-- The version of a clause without its wild card. -/
def withoutWildcard (text : List Char) : Option (List Char) :=
  match text.reverse with
  | '*' :: '.' :: rest => some rest.reverse
  | _ => none

/-- The numbers of a release that has nothing else but an epoch. -/
def plainRelease? (text : List Char) : Option Version :=
  match Version.parse? (String.ofList text) with
  | some v => if v == v.base && !(text.any Text.isBlank) then some v else none
  | none => none

/-- Whether a clause has a version that its comparison admits. -/
def isValid (s : Specifier) : Bool :=
  let version := Version.parse? (String.ofList s.text)
  match s.comparison with
  | .identical => s.text.all fun c => !(Text.isBlank c || c == ';' || c == ')')
  | .equal | .different =>
    version.isSome || ((withoutWildcard s.text).bind plainRelease?).isSome
  | .compatible => version.any fun v => v.build.isNone && 2 ≤ v.release.length
  | _ => version.any fun v => v.build.isNone

/-- Reads a clause. -/
def parse (text : String) : Except Fault Specifier :=
  let cs := Text.trim text.toList
  let found := marks.findSome? fun (mark, comparison) =>
    if mark.toList.isPrefixOf cs then
      some { comparison, text := Text.trim (cs.drop mark.length) : Specifier }
    else none
  match found.filter isValid with
  | some s => .ok s
  | none => .error ⟨"InvalidSpecifier", "Invalid specifier: " ++ Text.quoted text⟩

/-- Whether the release of a version starts with that of another one. -/
def startsWith (v start : Version) : Bool :=
  let count := start.release.length
  v.epoch == start.epoch &&
    (v.release ++ List.replicate (count - v.release.length) 0).take count == start.release

/-- The release that compatible versions share: all its numbers but the last. -/
def sharedRelease (bound : Version) : Version :=
  { bound.base with release := bound.release.dropLast }

/-- Whether a version meets a clause with a comparison of order. What comes before or after the
bound itself, or is a local build of it, is neither less nor greater, unless the bound is a
pre-release or a post-release too. -/
def meetsOrder (v : Version) (comparison : Comparison) (bound : Version) : Bool :=
  let order := v.withoutBuild.compare bound
  match comparison with
  | .compatible => order != .lt && startsWith v (sharedRelease bound)
  | .atMost => order != .gt
  | .atLeast => order != .lt
  | .less =>
    v.compare bound == .lt &&
      !(!bound.isPreRelease && v.isPreRelease && v.compare bound.firstPreRelease != .lt)
  | .greater =>
    v.compare bound == .gt &&
      !(bound.post.isNone && v.post.isSome && v.withoutPost.same bound) &&
      !(v.build.isSome && v.withoutBuild.same bound)
  | _ => false

/-- Whether a version is the one of a clause. -/
def meetsEqual (v : Version) (text : List Char) : Bool :=
  match (withoutWildcard text).bind plainRelease? with
  | some start => startsWith v start
  | none =>
    match Version.parse? (String.ofList text) with
    | some bound => (if bound.build.isNone then v.withoutBuild else v).same bound
    | none => false

/-- Whether a version meets a clause. -/
def admits (s : Specifier) (v : Version) : Bool :=
  match s.comparison with
  | .identical => v.text.toList == s.text.map Char.toLower
  | .equal => meetsEqual v s.text
  | .different => !meetsEqual v s.text
  | comparison =>
    match Version.parse? (String.ofList s.text) with
    | none => false
    | some bound => meetsOrder v comparison bound

/-- The parts of a text between commas. -/
def clauses : List Char → List (List Char)
  | [] => [[]]
  | c :: rest =>
    match clauses rest with
    | [] => [[c]]
    | clause :: more => if c == ',' then [] :: clause :: more else (c :: clause) :: more

/-- Reads a requirement. -/
def parseAll (text : String) : Except Fault (List Specifier) :=
  (((clauses text.toList).map Text.trim).filter (!·.isEmpty)).mapM fun cs =>
    parse (String.ofList cs)

end Specifier

end TypstPress
