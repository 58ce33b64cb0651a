import TypstPress.Document.Url
import TypstPress.Hash.XXH64

/-!
# Image assets

The source refers to an image by an asset id that depends on nothing but its url: `img-` followed
by the sixteen hexadecimal digits of a hash of the url. The seed of the hash is fixed, because ids
have to stay the same from one compilation to the next. A url that cannot be encoded has none.
-/

namespace TypstPress.Typst

/-- An image that the source refers to: where it comes from and the name it is stored under. -/
structure Asset where
  sourceUrl : String
  id : String
deriving DecidableEq, Repr, Inhabited

/-- The seed of the hash in asset ids. -/
def assetSeed : UInt64 := 147154220

/-- The sixteen lower case hexadecimal digits of a word. -/
def wordDigits (n : UInt64) : String :=
  let digits := Nat.toDigits 16 n.toNat
  String.ofList (List.replicate (16 - digits.length) '0' ++ digits)

/-- The asset id of an image url that has a UTF-8 form. -/
def assetId (url : String) : String :=
  "img-" ++ wordDigits (XXH64.hash assetSeed url.toUTF8.toList)

/-- The asset id of any url, or the fault of encoding it. -/
def assetIdFor (url : Url) : Except Fault String :=
  match url.encodable with
  | .ok url => .ok (assetId url)
  | .error t => .error t.fault

/-- The asset of an image url. -/
def Asset.ofUrl (url : String) : Asset := ⟨url, assetId url⟩

end TypstPress.Typst
