import TypstPress.Failure
import TypstPress.Text.Case

/-!
# Levels

A level is a number, and records below it are not shown. It is asked for as a number or by a word
in any case. A word that names no level asks for the level of information; two words are taken by
other things that records have, and asking for them is a mistake.
-/

namespace TypstPress

/-- A level as it is asked for. -/
inductive LevelRequest where
  | number (n : Int)
  | word (s : String)
deriving DecidableEq, Repr, Inhabited

namespace LevelRequest

/-- The levels that have a word. -/
def words : List (String × Int) :=
  [("CRITICAL", 50), ("FATAL", 50), ("ERROR", 40), ("WARNING", 30), ("WARN", 30), ("INFO", 20),
   ("DEBUG", 10), ("NOTSET", 0)]

/-- The level for words that name none. -/
def fallback : Int := Severity.info.level

/-- The mistake of asking for something that is no level, if the word does so. -/
def mistake? (upper : String) : Option Fault :=
  if upper == "BASIC_FORMAT" then
    some (.wrongValue "Unknown level: '%(levelname)s:%(name)s:%(message)s'")
  else if upper == "_STYLES" then some (.wrongType "Level not an integer or a valid string")
  else none

/-- The level that is asked for. -/
def resolve : LevelRequest → Except Fault Int
  | .number n => .ok n
  | .word s =>
    let upper := String.ofList (Text.upper s.toList)
    match words.lookup upper, mistake? upper with
    | some level, _ => .ok level
    | none, some fault => .error fault
    | none, none => .ok fallback

end LevelRequest

end TypstPress
