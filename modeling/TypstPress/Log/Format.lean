import TypstPress.Log

/-!
# Shown records

How a record looks when it is shown: a row of pieces, some of them fixed text and the others taken
from the record. The pattern of a form writes the latter as `%(name)s`.
-/

namespace TypstPress

/-- A piece of a shown record. -/
inductive RecordPiece where
  | text (s : String)
  | time
  | severity
  | speaker
  | message
deriving DecidableEq, Repr, Inhabited

namespace RecordPiece

/-- The piece in the pattern of a form. -/
def pattern : RecordPiece → String
  | .text s => s
  | .time => "%(asctime)s"
  | .severity => "%(levelname)s"
  | .speaker => "%(name)s"
  | .message => "%(message)s"

/-- The piece of a record that is written at a time. -/
def shown (time : String) (record : Record) : RecordPiece → String
  | .text s => s
  | .time => time
  | .severity => record.severity.name
  | .speaker => record.speaker
  | .message => record.message

end RecordPiece

/-- The form in which records are shown. -/
abbrev RecordForm := List RecordPiece

namespace RecordForm

/-- The severity and the message. -/
def plain : RecordForm := [.severity, .text ": ", .message]

/-- All that there is to a record. -/
def traced : RecordForm :=
  [.text "[", .time, .text "] [", .severity, .text "] [", .speaker, .text "] ", .message]

/-- The pattern of a form. -/
def pattern (form : RecordForm) : String := String.join (form.map RecordPiece.pattern)

/-- The pattern of the times that a form shows, if it shows times. -/
def timePattern? (form : RecordForm) : Option String :=
  if form.contains .time then some "%Y-%m-%d %H:%M:%S" else none

/-- The line that shows a record. -/
def line (form : RecordForm) (time : String) (record : Record) : String :=
  String.join (form.map (RecordPiece.shown time record)) ++ "\n"

end RecordForm

end TypstPress
