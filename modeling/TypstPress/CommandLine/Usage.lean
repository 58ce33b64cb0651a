import TypstPress.CommandLine.Flag
import TypstPress.Text.Quoted

/-!
# Usage

How the program is called, as it tells on request and with every mistake, and the mistakes that
can be made in calling it.
-/

namespace TypstPress

/-- The program as it calls itself. -/
def programName : String := "md2typst"

/-- The version of the program. -/
def programVersion : String := "0.1.0"

/-- A mistake in calling the program. -/
inductive UsageError where
  /-- A shortened name that fits several flags. -/
  | ambiguous (word : String) (names : List String)
  | missingValue (flag : Flag)
  /-- A value for a flag that takes none. -/
  | ignoredValue (flag : Flag) (value : String)
  | invalidChoice (flag : Flag) (value : String) (choices : List String)
  /-- Two flags that exclude each other, the later one first. -/
  | conflict (flag other : Flag)
  | missingInput
  | unrecognized (words : List String)
deriving DecidableEq, Repr, Inhabited

namespace UsageError

/-- What is wrong with a flag. -/
def about (flag : Flag) (what : String) : String := "argument " ++ flag.title ++ ": " ++ what

/-- The message for a mistake. -/
def message : UsageError → String
  | .ambiguous word names =>
    "ambiguous option: " ++ word ++ " could match " ++ ", ".intercalate names
  | .missingValue flag => about flag "expected one argument"
  | .ignoredValue flag value => about flag ("ignored explicit argument " ++ Text.quoted value)
  | .invalidChoice flag value choices =>
    about flag ("invalid choice: " ++ Text.quoted value ++ " (choose from " ++
      ", ".intercalate (choices.map Text.quoted) ++ ")")
  | .conflict flag other => about flag ("not allowed with argument " ++ other.title)
  | .missingInput => "the following arguments are required: input"
  | .unrecognized words => "unrecognized arguments: " ++ " ".intercalate words

end UsageError

namespace Usage

/-- How the program is called. -/
def summary : String :=
  "usage: md2typst [-h] [-o OUTPUT] [--assets-manifest PATH]\n" ++
  "                [--preamble TEXT | --preamble-file PATH]\n" ++
  "                [--no-image-attributes] [--no-table-spans]\n" ++
  "                [--log-level \x7bDEBUG,INFO,WARNING,ERROR,CRITICAL\x7d]\n" ++
  "                [--log-file PATH] [--trace] [--version]\n" ++
  "                input\n"

/-- The column in which explanations start, and their width. -/
def column : Nat := 24

@[inherit_doc column]
def width : Nat := 54

/-- Fills lines with words; `line` is the one under way. -/
def fillFrom (line : String) : List String → List String
  | [] => [line]
  | word :: rest =>
    if line.length + 1 + word.length ≤ width then fillFrom (line ++ " " ++ word) rest
    else line :: fillFrom word rest

/-- A text in lines that are not too wide. -/
def fill (text : String) : List String :=
  match text.splitOn " " with
  | [] => []
  | word :: rest => fillFrom word rest

/-- Spaces. -/
def blank (n : Nat) : String := String.ofList (List.replicate n ' ')

/-- An entry of the help: what is called, and what it is for beside or below it. -/
def entry (called purpose : String) : String :=
  let head := "  " ++ called
  let start :=
    if head.length + 2 ≤ column then head ++ blank (column - head.length)
    else head ++ "\n" ++ blank column
  start ++ ("\n" ++ blank column).intercalate (fill purpose) ++ "\n"

/-- A flag as the help shows it. -/
def flagCall (flag : Flag) : String :=
  match flag.valueName? with
  | some value => ", ".intercalate (flag.names.map fun name => name ++ " " ++ value)
  | none => ", ".intercalate flag.names

/-- All that the program tells about its use. -/
def help : String :=
  summary ++ "\nCompile a Markdown document to Typst markup.\n" ++
    "\npositional arguments:\n" ++
    entry "input" "Markdown file to compile, or '-' to read stdin" ++
    "\noptions:\n" ++
    String.join (Flag.all.map fun flag => entry (flagCall flag) flag.purpose)

/-- What the program tells about its version. -/
def version : String := programName ++ " " ++ programVersion ++ "\n"

/-- What the program tells about a mistake. -/
def complaint (e : UsageError) : String :=
  summary ++ programName ++ ": error: " ++ e.message ++ "\n"

end Usage

end TypstPress
