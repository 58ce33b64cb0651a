import Std.Time.Format
import TypstPress.CommandLine.Run

/-!
# The program

The command line in the real world: files are the files of the system, and records show the local
time.
-/

namespace TypstPress

/-- The number and the description of a system error, if it has a number. -/
def systemErrorNumber? : IO.Error → Option (Nat × String)
  | .alreadyExists _ code details | .otherError code details | .resourceBusy code details
  | .resourceVanished code details | .unsupportedOperation code details
  | .hardwareFault code details | .unsatisfiedConstraints code details
  | .illegalOperation code details | .protocolError code details | .timeExpired code details
  | .interrupted _ code details | .noFileOrDirectory _ code details
  | .invalidArgument _ code details | .permissionDenied _ code details
  | .resourceExhausted _ code details | .inappropriateType _ code details
  | .noSuchThing _ code details => some (code.toNat, details)
  | .unexpectedEof | .userError _ => none

/-- Why the system refuses a file. -/
def fileErrorOf (e : IO.Error) : FileError :=
  match systemErrorNumber? e with
  | some (2, _) => .missing
  | some (13, _) => .denied
  | some (20, _) => .notADirectory
  | some (21, _) => .directory
  | some (36, _) => .nameTooLong
  | some (code, details) => .other code details
  | none => .other 5 (toString e)

/-- Opens a file and uses it. -/
def useFile (path : Path) (mode : IO.FS.Mode) (use : IO.FS.Handle → IO α) :
    IO (Except FileError α) := do
  if path.text.toList.contains '\x00' then return .error .zeroInName
  match ← (IO.FS.withFile path.text mode use).toBaseIO with
  | .ok a => return .ok a
  | .error e => return .error (fileErrorOf e)

/-- The bytes as they are handed to the system. -/
def packed (bytes : List UInt8) : ByteArray := ⟨bytes.toArray⟩

/-- The effects of the command line on the real world. -/
def realSystem : System IO where
  here := return (← IO.currentDir).toString
  time := return (← Std.Time.PlainDateTime.now).format "uuuu-MM-dd HH:mm:ss"
  input := return (← (← IO.getStdin).readBinToEnd).toList
  read path := useFile path .read fun h => return (← h.readBinToEnd).toList
  write path bytes := useFile path .write fun h => h.write (packed bytes)
  append path bytes := useFile path .append fun h => h.write (packed bytes)
  print s := IO.print s
  complain s := IO.eprint s
  detector := Charset.noDetector

end TypstPress

open TypstPress in
/-- Runs the program and gives its exit code. A failure that escapes is shown with its kind. -/
def main (words : List String) : IO UInt32 := do
  match ← CommandLine.run realSystem words with
  | .escaped failure =>
    IO.eprintln (failure.name ++ ": " ++ failure.message)
    return 1
  | ending => return (ending.code?.getD 1).toUInt32
