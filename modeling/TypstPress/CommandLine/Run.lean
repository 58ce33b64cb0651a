import TypstPress.CommandLine.Arguments
import TypstPress.CommandLine.Manifest
import TypstPress.Log.Output
import TypstPress.Pipeline

/-!
# A run of the command line

A run reads its arguments, sets the log up, reads the input and the preamble, compiles, and writes
the source and the list of images. It ends with success or with the first thing that went wrong: a
mistake in the arguments, a failure of the library, a refusal of the system. Anything else that
goes wrong, such as a file name with a zero character, be it that of the log, or a preamble that is
no UTF-8, escapes.
-/

namespace TypstPress

/-- How a run ends. -/
inductive Ending where
  | success
  | compilationError
  | usageError
  | fileError
  /-- A failure that the command line does not handle. -/
  | escaped (failure : Failure)
deriving Inhabited

/-- The exit code of a run, unless a failure escapes from it. -/
def Ending.code? : Ending → Option Nat
  | .success => some 0
  | .compilationError => some 1
  | .usageError => some 2
  | .fileError => some 3
  | .escaped _ => none

namespace CommandLine

/-- Why a text cannot be read or written. -/
inductive Obstacle where
  /-- A file is refused. -/
  | file (path : Path) (error : FileError)
  /-- A text is not encoded as it has to be. -/
  | encoding (defect : Charset.Defect)
deriving Repr, Inhabited

namespace Obstacle

/-- The obstacle as an error from outside. -/
def fault : Obstacle → Fault
  | .file path error => error.fault path.text
  | .encoding defect => defect.fault

/-- Whether the system itself is the cause. -/
def isSystemError : Obstacle → Bool
  | .file _ error => error.isSystemError
  | .encoding _ => false

end Obstacle

/-- The part of the library that the command line speaks as. -/
def speaker : String := "md2typst.cli"

/-- The transforms that the arguments ask for. -/
def transforms (a : Arguments) (preamble : Option String) : List Transform :=
  (if a.imageAttributes then [.imageAttributes] else []) ++
    (if a.tableSpans then [.tableSpans] else []) ++ Pipeline.preambleTransforms preamble

/-- Compiles the bytes of the input as the arguments ask for. -/
def compiled (detector : Charset.Detector) (further : Charset.Registry) (a : Arguments)
    (bytes : List UInt8) (preamble : Option String) : Attempt Typst.Compiled := do
  let document ← Pipeline.document (.withoutFiles detector further) none (.bytes bytes)
  let document ← Pipeline.rewrite (transforms a preamble) document
  Pipeline.compile none document

/-- What is said after a compilation. -/
def summary (a : Arguments) (result : Typst.Compiled) : String :=
  "Compiled " ++ a.input ++ " with " ++ toString result.assets.length ++ " image asset(s)"

/-- The name that is given, unless it is empty. -/
def givenName? (name : Option String) : Option String := name.filter (!·.isEmpty)

variable {m : Type → Type} [Monad m] (system : System m)

/-- The bytes of a file. -/
def readFile (name : String) : m (Except Obstacle (List UInt8)) := do
  let path := Path.ofText name
  return (← system.read path).mapError (.file path)

/-- Puts a text in a file. -/
def writeFile (name text : String) : m (Except Obstacle Unit) := do
  let path := Path.ofText name
  return (← system.write path (Charset.Utf8.encode text.toList)).mapError (.file path)

/-- The bytes of the input: a dash stands for standard input. -/
def readInput (a : Arguments) : m (Except Obstacle (List UInt8)) := do
  if a.input == "-" then return .ok (← system.input)
  else readFile system a.input

/-- The text of a file in UTF-8, with line feeds as its line ends. -/
def preambleText (bytes : List UInt8) : Except Obstacle String :=
  match Charset.Utf8.decode bytes with
  | .ok cs => .ok (String.ofList (Text.normalizeLines cs))
  | .error defect => .error (.encoding defect)

/-- The preamble, from a file if one is given. -/
def readPreamble (a : Arguments) : m (Except Obstacle (Option String)) := do
  match givenName? a.preambleFile with
  | none => return .ok a.preamble
  | some name =>
    match ← readFile system name with
    | .error e => return .error e
    | .ok bytes => return (preambleText bytes).map some

/-- What is compiled: the bytes of the input and the preamble. -/
def readSources (a : Arguments) : m (Except Obstacle (List UInt8 × Option String)) := do
  match ← readInput system a with
  | .error e => return .error e
  | .ok bytes =>
    match ← readPreamble system a with
    | .error e => return .error e
    | .ok preamble => return .ok (bytes, preamble)

/-- Writes compiled source to the given file or to standard output. -/
def writeSource (a : Arguments) (source : String) : m (Except Obstacle Unit) :=
  match givenName? a.output with
  | some name => writeFile system name source
  | none => do
    system.print source
    return .ok ()

/-- Writes the list of images if a file for it is given. -/
def writeManifest (a : Arguments) (assets : List Typst.Asset) : m (Except Obstacle Unit) :=
  match givenName? a.manifest with
  | some name => writeFile system name (Manifest.render assets)
  | none => pure (.ok ())

/-- Writes what a compilation gave. -/
def writeResult (a : Arguments) (result : Typst.Compiled) : m (Except Obstacle Unit) := do
  match ← writeSource system a result.source with
  | .error e => return .error e
  | .ok () => writeManifest system a result.assets

/-- Ends a run at an obstacle: a refusal of the system is recorded, anything else escapes. -/
def stop (log : LogOutput) (what : String) (e : Obstacle) : m Ending := do
  if e.isSystemError then
    log.emit system ⟨.error, speaker, what ++ ": " ++ e.fault.message⟩
    return .fileError
  else return .escaped (.fault e.fault)

/-- Ends a run at a failure: one of the library is recorded, anything else escapes. -/
def fail (log : LogOutput) (failure : Failure) : m Ending := do
  if failure.isLibrary then
    log.emit system ⟨.error, speaker, "Compilation failed: " ++ failure.message⟩
    return .compilationError
  else return .escaped failure

/-- Compiles as the arguments ask for, with the log set up. -/
def compile (log : LogOutput) (a : Arguments) : m Ending := do
  match ← readSources system a with
  | .error e => stop system log "Could not read input" e
  | .ok (bytes, preamble) =>
    let attempt := compiled system.detector system.further a bytes preamble
    log.emitAll system attempt.log
    match attempt.result with
    | .error failure => fail system log failure
    | .ok result =>
      log.emit system ⟨.info, speaker, summary a result⟩
      match ← writeResult system a result with
      | .error e => stop system log "Could not write output" e
      | .ok () => return .success

/-- Runs the command line with the given words. -/
def run (words : List String) : m Ending := do
  match Arguments.read words with
  | .error e =>
    system.complain (Usage.complaint e)
    return .usageError
  | .ok .help =>
    system.print Usage.help
    return .success
  | .ok .version =>
    system.print Usage.version
    return .success
  | .ok (.compile a) =>
    match ← LogOutput.start system (.word a.logLevel) a.logFile a.trace with
    | .error failure => return .escaped failure
    | .ok log => compile system log a

end CommandLine

end TypstPress
