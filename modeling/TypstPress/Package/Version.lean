import TypstPress.Failure
import TypstPress.Text.Blank

/-!
# Versions of packages

A version has an epoch, the numbers of its release, and may be a pre-release, a post-release, a
development release and a local build. Many spellings are read; `Version.text` writes the normal
one. Versions are ordered by their parts: a development release of a release comes first, then its
pre-releases, the release itself and its post-releases; trailing zeros of the release do not count.
-/

namespace TypstPress

/-- The kind of a pre-release. -/
inductive PreRelease where
  | alpha
  | beta
  | candidate
deriving DecidableEq, Repr

/-- A part of the name of a local build. -/
inductive LocalPart where
  | number (n : Nat)
  | word (w : List Char)
deriving DecidableEq, Repr

/-- A version of a package. -/
structure Version where
  epoch : Nat
  release : List Nat
  pre : Option (PreRelease × Nat)
  post : Option Nat
  dev : Option Nat
  build : Option (List LocalPart)
deriving DecidableEq, Repr

namespace Version

/-- The number of ASCII digits. -/
def number (cs : List Char) : Nat := cs.foldl (fun n c => 10 * n + (c.toNat - 0x30)) 0

/-- Reads a number, if there is one. -/
def number? (cs : List Char) : Option (Nat × List Char) :=
  let digits := cs.takeWhile Char.isDigit
  if digits.isEmpty then none else some (number digits, cs.dropWhile Char.isDigit)

/-- Whether a character separates parts of a version. -/
def isSeparator (c : Char) : Bool := c == '-' || c == '_' || c == '.'

/-- The text without a separator at its start. -/
def dropSeparator : List Char → List Char
  | c :: rest => if isSeparator c then rest else c :: rest
  | [] => []

/-- Reads the first of several words that the text starts with. -/
def word? (words : List (String × α)) (cs : List Char) : Option (α × List Char) :=
  words.findSome? fun (word, meaning) =>
    if word.toList.isPrefixOf cs then some (meaning, cs.drop word.length) else none

/-- Reads a marked part: a separator, one of several words, a separator and a number. Without a
number it is zero. -/
def marked? (words : List (String × α)) (cs : List Char) : Option ((α × Nat) × List Char) :=
  (word? words (dropSeparator cs)).map fun (meaning, rest) =>
    let rest := dropSeparator rest
    match number? rest with
    | some (n, rest) => ((meaning, n), rest)
    | none => ((meaning, 0), rest)

/-- The spellings of pre-releases. -/
def preWords : List (String × PreRelease) :=
  [("alpha", .alpha), ("a", .alpha), ("beta", .beta), ("b", .beta), ("preview", .candidate),
   ("pre", .candidate), ("c", .candidate), ("rc", .candidate)]

/-- The spellings of post-releases. -/
def postWords : List (String × Unit) := [("post", ()), ("rev", ()), ("r", ())]

/-- Reads a post-release: a hyphen and a number, or a marked part. -/
def post? (cs : List Char) : Option (Nat × List Char) :=
  match cs with
  | '-' :: rest =>
    match number? rest with
    | some found => some found
    | none => (marked? postWords cs).map fun (p, rest) => (p.2, rest)
  | _ => (marked? postWords cs).map fun (p, rest) => (p.2, rest)

/-- Reads a part that may be missing. -/
def optional (read : List Char → Option (α × List Char)) (cs : List Char) :
    Option α × List Char :=
  match read cs with
  | some (a, rest) => (some a, rest)
  | none => (none, cs)

/-- Reads the numbers of a release after its first, with a point before each. -/
def releaseRest : Nat → List Char → List Nat × List Char
  | 0, cs => ([], cs)
  | fuel + 1, cs =>
    match cs with
    | '.' :: rest =>
      match number? rest with
      | some (n, rest) =>
        let (more, rest) := releaseRest fuel rest
        (n :: more, rest)
      | none => ([], cs)
    | _ => ([], cs)

/-- Reads an epoch with its mark. -/
def epoch? (cs : List Char) : Option (Nat × List Char) :=
  match number? cs with
  | some (n, '!' :: rest) => some (n, rest)
  | _ => none

/-- The parts of a text between separators. -/
def splitParts : List Char → List (List Char)
  | [] => [[]]
  | c :: rest =>
    match splitParts rest with
    | [] => [[c]]
    | part :: more => if isSeparator c then [] :: part :: more else (c :: part) :: more

/-- Reads the name of a local build to the end of the text. -/
def build? (cs : List Char) : Option (List LocalPart) :=
  let parts := splitParts cs
  if parts.any fun p => p.isEmpty || p.any (!·.isAlphanum) then none
  else
    some (parts.map fun p => if p.all Char.isDigit then .number (number p) else .word p)

/-- Reads everything before the local build, in lower case. -/
def public? (cs : List Char) : Option (Version × List Char) := do
  let cs := if cs.head? == some 'v' then cs.drop 1 else cs
  let (epoch, cs) := optional epoch? cs
  let (first, cs) ← number? cs
  let (more, cs) := releaseRest cs.length cs
  let (pre, cs) := optional (marked? preWords) cs
  let (post, cs) := optional post? cs
  let (dev, cs) := optional (marked? [("dev", ())]) cs
  some
    ({ epoch := epoch.getD 0, release := first :: more, pre, post, dev := dev.map (·.2),
       build := none }, cs)

/-- Reads a version; blanks around it do not count. -/
def parse? (text : String) : Option Version := do
  let (version, rest) ← public? ((Text.trim text.toList).map Char.toLower)
  match rest with
  | [] => some version
  | '+' :: rest => (build? rest).map fun parts => { version with build := some parts }
  | _ => none

/-- Reads a version or fails. -/
def parse (text : String) : Except Fault Version :=
  match parse? text with
  | some version => .ok version
  | none => .error ⟨"InvalidVersion", "Invalid version: " ++ Text.quoted text⟩

/-- The short name of a kind of pre-release. -/
def preName : PreRelease → String
  | .alpha => "a"
  | .beta => "b"
  | .candidate => "rc"

/-- The text of a part of a local build. -/
def partText : LocalPart → String
  | .number n => toString n
  | .word w => String.ofList w

/-- The normal text of a version. -/
def text (v : Version) : String :=
  (if v.epoch == 0 then "" else toString v.epoch ++ "!") ++
    ".".intercalate (v.release.map toString) ++
    (match v.pre with
    | some (kind, n) => preName kind ++ toString n
    | none => "") ++
    (match v.post with
    | some n => ".post" ++ toString n
    | none => "") ++
    (match v.dev with
    | some n => ".dev" ++ toString n
    | none => "") ++
    (match v.build with
    | some parts => "+" ++ ".".intercalate (parts.map partText)
    | none => "")

/-- Whether the version comes before its release. -/
def isPreRelease (v : Version) : Bool := v.pre.isSome || v.dev.isSome

/-- The version without its local build. -/
def withoutBuild (v : Version) : Version := { v with build := none }

/-- The release itself, without anything before or after it. -/
def base (v : Version) : Version :=
  { epoch := v.epoch, release := v.release, pre := none, post := none, dev := none, build := none }

/-- The version that this one is a post-release of. -/
def withoutPost (v : Version) : Version := { v with post := none, dev := none, build := none }

/-- The first of the pre-releases of the version. -/
def firstPreRelease (v : Version) : Version := { v with dev := some 0, build := none }

/-- The release without zeros at its end. -/
def significant (release : List Nat) : List Nat := (release.reverse.dropWhile (· == 0)).reverse

/-- Compares lists in the order of dictionaries. -/
def compareLists (compare : α → α → Ordering) : List α → List α → Ordering
  | [], [] => .eq
  | [], _ => .lt
  | _, [] => .gt
  | a :: as, b :: bs => (compare a b).then (compareLists compare as bs)

/-- The rank of the pre-release: a development release alone is below all, a release above all. -/
def preRank (v : Version) : Nat × Nat :=
  match v.pre with
  | some (.alpha, n) => (1, n)
  | some (.beta, n) => (2, n)
  | some (.candidate, n) => (3, n)
  | none => if v.post.isNone && v.dev.isSome then (0, 0) else (4, 0)

/-- Compares pairs, the first component first. -/
def comparePairs (a b : Nat × Nat) : Ordering := (compare a.1 b.1).then (compare a.2 b.2)

/-- Compares parts of local builds: words come before numbers. -/
def compareParts : LocalPart → LocalPart → Ordering
  | .number m, .number n => compare m n
  | .word v, .word w => compareLists compare v w
  | .word _, .number _ => .lt
  | .number _, .word _ => .gt

/-- Compares versions. -/
def compare (a b : Version) : Ordering :=
  (Ord.compare a.epoch b.epoch).then <|
  (compareLists Ord.compare (significant a.release) (significant b.release)).then <|
  (comparePairs (preRank a) (preRank b)).then <|
  (Ord.compare (a.post.elim 0 (· + 1)) (b.post.elim 0 (· + 1))).then <|
  (comparePairs (a.dev.elim (1, 0) (0, ·)) (b.dev.elim (1, 0) (0, ·))).then <|
  match a.build, b.build with
  | none, none => .eq
  | none, some _ => .lt
  | some _, none => .gt
  | some x, some y => compareLists compareParts x y

/-- Whether two versions are equal in the order. -/
def same (a b : Version) : Bool := compare a b == .eq

end Version

end TypstPress
