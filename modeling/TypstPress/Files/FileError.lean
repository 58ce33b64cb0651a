import TypstPress.Files.Path

/-!
# Why files cannot be used

The system refuses a file for a reason of its own, and messages show the reason with its number and
the file name. A name with a zero character is refused before the system sees it; that is no error
of the system.
-/

namespace TypstPress

/-- Why a file cannot be read or written. -/
inductive FileError where
  | missing
  | directory
  | notADirectory
  | nameTooLong
  | denied
  | zeroInName
  /-- Another error of the system, with its number and its description. -/
  | other (code : Nat) (description : String)
deriving DecidableEq, Repr, Inhabited

namespace FileError

/-- Whether the system itself refused the file. -/
def isSystemError : FileError → Bool
  | .zeroInName => false
  | _ => true

/-- The error as a fault, for a file name as it is shown. -/
def fault (shown : String) : FileError → Fault
  | .missing => system "FileNotFoundError" 2 "No such file or directory"
  | .directory => system "IsADirectoryError" 21 "Is a directory"
  | .notADirectory => system "NotADirectoryError" 20 "Not a directory"
  | .nameTooLong => system "OSError" 36 "File name too long"
  | .denied => system "PermissionError" 13 "Permission denied"
  | .zeroInName => Fault.wrongValue "embedded null byte"
  | .other code description => system "OSError" code description
where
  /-- An error of the system. -/
  system (name : String) (code : Nat) (description : String) : Fault :=
    ⟨name, "[Errno " ++ toString code ++ "] " ++ description ++ ": " ++ Text.quoted shown⟩

end FileError

end TypstPress
