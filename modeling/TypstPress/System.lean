import TypstPress.Charset.Detection
import TypstPress.Files.FileError

/-!
# What the command line can do to the world

The command line reads and writes files, standard input and the two output streams, and asks for
the time. It does so through a `System` only, over any monad: the program runs in the real world,
and whatever is said about the command line is said of a `Workspace`.
-/

namespace TypstPress

/-- The effects of the command line. -/
structure System (m : Type → Type) where
  /-- The name of the current directory from the root. -/
  here : m String
  /-- The time as records show it. -/
  time : m String
  /-- All of standard input. -/
  input : m (List UInt8)
  /-- Reads a file. -/
  read : Path → m (Except FileError (List UInt8))
  /-- Puts bytes in place of what a file holds; the file is created if there is none. -/
  write : Path → List UInt8 → m (Except FileError Unit)
  /-- Adds bytes to a file, which is created if there is none. -/
  append : Path → List UInt8 → m (Except FileError Unit)
  /-- Writes to standard output. -/
  print : String → m Unit
  /-- Writes to standard error. -/
  complain : String → m Unit
  /-- What guesses the encoding of bytes that are no UTF-8. -/
  detector : Charset.Detector
  /-- The encodings besides those of the library. -/
  further : Charset.Registry := Charset.noFurther

end TypstPress
