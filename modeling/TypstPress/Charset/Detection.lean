import TypstPress.Attempt
import TypstPress.Charset
import TypstPress.Decimal.Fixed

/-!
# Reading bytes of unknown encoding

Bytes are read as UTF-8 when they are UTF-8. Otherwise a detector is shown a sample, and its guess
is tried first if it is sure enough, then the fallback encodings in order; when all fail, what is
not UTF-8 is replaced. An encoding is passed over if it is unknown or the bytes do not fit it;
anything else that goes wrong is a failure. A byte order mark of UTF-8 settles the encoding at
once: then a defect is a failure.
-/

namespace TypstPress.Charset

/-- The part of the library that tells how bytes were read. -/
def speaker : String := "md2typst.utils.encoding"

/-- What a detector says: the name of an encoding and how sure it is. -/
structure Guess where
  encoding : Option String
  confidence : Option Binary64

/-- A detector looks at a sample. -/
abbrev Detector := List UInt8 → Option Guess

/-- The detector that never has a guess. -/
def noDetector : Detector := fun _ => none

/-- The bytes that a detector is shown: the first `size`, or all but the last ones if the size is
negative. -/
def sample (size : Int) (bytes : List UInt8) : List UInt8 :=
  if 0 ≤ size then bytes.take size.toNat else bytes.take (bytes.length - size.natAbs)

/-- The usual size of a sample. -/
def sampleSize : Int := 8192

/-- The confidence from which on a guess usually counts. -/
def threshold : Binary64 := .ofDecimal false 7 (-1)

/-- The encodings that are tried after the guess. -/
def defaultFallbacks : List String := ["utf-8-sig", "utf-8", "latin-1"]

/-- A record about reading bytes. -/
def trace (message : String) : Record := ⟨.debug, speaker, message⟩

/-- The name of the guessed encoding, if the guess is sure enough. -/
def accepted (least : Binary64) (guess : Option Guess) : Option String × Log :=
  match guess.bind fun g => (g.encoding.filter (· != "")).map fun name => (name, g.confidence) with
  | none => (none, [trace "chardet: No encoding detected"])
  | some (name, confidence) =>
    let sure := confidence.getD (.finite false 0 Binary64.minExponent)
    let seen := trace ("chardet detected encoding: " ++ name ++ " (confidence: " ++
      sure.fixed 2 ++ ")")
    if sure.less least then
      (none, [seen, trace ("chardet confidence " ++ sure.fixed 2 ++ " below threshold " ++
        least.fixed 2)])
    else (some name, [seen])

/-- A text that was read, and the samples that the detector was shown. -/
structure Decoding where
  text : String
  samples : List (List UInt8) := []

/-- Whether an encoding that fails so is passed over: bytes that do not fit, and failed look-ups,
of which there are several kinds. -/
def isPassedOver (fault : Fault) : Bool :=
  ["UnicodeDecodeError", "LookupError", "IndexError", "KeyError", "CodecRegistryError"].contains
    fault.name

/-- The text in the first of several encodings that all bytes fit. -/
def firstFitting (further : Registry) (bytes : List UInt8) :
    List String → Attempt (Option String)
  | [] => return none
  | name :: names => do
    match decodeNamed further name bytes with
    | .ok cs =>
      Attempt.notes [trace ("Successfully decoded with encoding: " ++ name)]
      return some (String.ofList cs)
    | .error fault =>
      if isPassedOver fault then
        Attempt.notes [trace ("Failed to decode with " ++ name ++ ": " ++ fault.message)]
        firstFitting further bytes names
      else .fail (.fault fault)

/-- Asks the detector for an encoding: the name, and the sample it was shown. -/
def detect (detector : Detector) (size : Int) (least : Binary64) (bytes : List UInt8) :
    Attempt (Option String × List UInt8) :=
  let shown := sample size bytes
  let (name, log) := accepted least (detector shown)
  { result := .ok (name, shown), log }

/-- The encodings that are tried: the guess, then the fallbacks, or the usual ones. -/
def candidates (guess : Option String) (fallbacks : List String) : List String :=
  guess.toList ++ if fallbacks.isEmpty then defaultFallbacks else fallbacks

/-- Reads bytes that are not UTF-8. -/
def readForeign (detector : Detector) (fallbacks : List String) (bytes : List UInt8)
    (further : Registry) : Attempt Decoding := do
  Attempt.notes [trace "Input is not valid UTF-8, detecting encoding"]
  let (guess, shown) ← detect detector sampleSize threshold bytes
  match ← firstFitting further bytes (candidates guess fallbacks) with
  | some text => return { text, samples := [shown] }
  | none =>
    Attempt.note .warning speaker
      "All encoding attempts failed, using utf-8 with error replacement"
    return { text := String.ofList (Utf8.decodeLossy bytes), samples := [shown] }

/-- Reads bytes. -/
def readBytes (detector : Detector) (fallbacks : List String) (bytes : List UInt8)
    (further : Registry := noFurther) : Attempt Decoding :=
  if bytes.take 3 == Utf8.mark then
    match Utf8.decode (bytes.drop 3) with
    | .ok cs => .succeed { text := String.ofList cs }
    | .error d => .fail (.fault d.fault)
  else
    match Utf8.decode bytes with
    | .ok cs => .succeed { text := String.ofList cs }
    | .error _ => readForeign detector fallbacks bytes further

end TypstPress.Charset
