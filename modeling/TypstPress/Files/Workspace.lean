import TypstPress.Files.FileTree
import TypstPress.System

/-!
# A workspace

All that a run of the command line can read or change: the files below the current directory,
standard input, and what was written to the two output streams so far.
-/

namespace TypstPress

/-- The part of the world that a run of the command line can see. -/
structure Workspace where
  files : FileTree := []
  /-- The components of the name of the current directory. -/
  here : List String := []
  input : List UInt8 := []
  output : String := ""
  complaints : String := ""
  /-- The time; it stands still. -/
  time : String := ""
deriving Inhabited

namespace Workspace

/-- Changes the bytes of a file. -/
def changeFile (path : Path) (change : List UInt8 → List UInt8) :
    StateM Workspace (Except FileError Unit) := fun w =>
  match w.files.update w.here path change with
  | .ok files => (.ok (), { w with files })
  | .error e => (.error e, w)

/-- The effects of the command line on a workspace. -/
def system (detector : Charset.Detector)
    (further : Charset.Registry := Charset.noFurther) : System (StateM Workspace) where
  here := fun w => ("/" ++ "/".intercalate w.here, w)
  time := fun w => (w.time, w)
  input := fun w => (w.input, { w with input := [] })
  read path := fun w => (w.files.read w.here path, w)
  write path bytes := changeFile path fun _ => bytes
  append path bytes := changeFile path (· ++ bytes)
  print s := fun w => ((), { w with output := w.output ++ s })
  complain s := fun w => ((), { w with complaints := w.complaints ++ s })
  detector
  further

end Workspace

end TypstPress
