import TypstPress.Charset.Utf8
import TypstPress.Log.Format
import TypstPress.Log.Level
import TypstPress.System

/-!
# Where records go

Records at or above a level go to standard error and, if one was asked for and could be opened, to
the end of a file. The file is named from the root as soon as it is opened and created at once. A
file that the system refuses is done without; a name with a zero character, which the system never
gets to see, is a fault. Parts of other origin speak too often: unless tracing is on, they are heard
from warnings on only.
-/

namespace TypstPress

/-- Where records go and how they look there. -/
structure LogOutput where
  level : Int
  traced : Bool
  /-- The file that gets the records too. -/
  file : Option Path := none
deriving Repr, Inhabited

namespace LogOutput

/-- The form in which records are shown. -/
def form (o : LogOutput) : RecordForm := if o.traced then .traced else .plain

/-- The level of the parts of other origin. -/
def backgroundLevel (o : LogOutput) : Int :=
  if o.traced then o.level else max o.level Severity.warning.level

/-- The kinds of receivers that get records, in order. -/
def receivers (o : LogOutput) : List String :=
  "StreamHandler" :: if o.file.isSome then ["FileHandler"] else []

variable {m : Type → Type} [Monad m]

/-- Shows a record if it is at or above the level. -/
def emit (system : System m) (o : LogOutput) (record : Record) : m Unit := do
  if o.level ≤ record.severity.level then
    let line := o.form.line (← system.time) record
    system.complain line
    if let some path := o.file then
      let _ ← system.append path (Charset.Utf8.encode line.toList)

/-- Shows records in order. -/
def emitAll (system : System m) (o : LogOutput) : Log → m Unit
  | [] => pure ()
  | record :: rest => do
    o.emit system record
    o.emitAll system rest

/-- The part of the library that speaks about the log itself. -/
def speaker : String := "root"

/-- Adds a file as a receiver and says so, or warns that the system refused it. Anything else that
stands in the way of the file is passed on. -/
def addFile (system : System m) (o : LogOutput) (name : String) : m (Except Failure LogOutput) := do
  let path := (Path.ofText name).absolute (← system.here)
  match ← system.append path [] with
  | .ok () =>
    let o := { o with file := some path }
    o.emit system ⟨.info, speaker, "Logging to file: " ++ name⟩
    return .ok o
  | .error e =>
    let fault := e.fault path.text
    if e.isSystemError then
      o.emit system
        ⟨.warning, speaker, "Could not create log file " ++ name ++ ": " ++ fault.message⟩
      return .ok o
    else return .error (.fault fault)

/-- Sets the log up. -/
def start (system : System m) (request : LevelRequest) (file : Option String) (traced : Bool) :
    m (Except Failure LogOutput) := do
  match request.resolve, file with
  | .error fault, _ => return .error (.fault fault)
  | .ok level, none => return .ok { level, traced }
  | .ok level, some name =>
    if name.isEmpty then return .ok { level, traced }
    else addFile system { level, traced } name

end LogOutput

end TypstPress
