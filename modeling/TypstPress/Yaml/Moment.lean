import TypstPress.Decimal.Fixed
import TypstPress.Metadata
import TypstPress.Text.Digit
import TypstPress.Yaml.Problem
import TypstPress.Yaml.Tag

/-!
# Days and points in time

A scalar such as `2024-01-02` is a day and `2024-01-02 03:04:05.5 +01:00` a point in time. Its form
does not tell whether the calendar has such a day; that is decided when its value is asked for, and
a day that does not exist is a fault. Values are written in ISO notation, with six digits of a
second if there is a fraction.
-/

namespace TypstPress.Yaml

/-- The difference to universal time. -/
inductive Zone where
  | universal
  | offset (negative : Bool) (hours minutes : Nat)
deriving Repr

/-- A time of day as it is written. -/
structure ClockTime where
  hour : Nat
  minute : Nat
  second : Nat
  /-- The digits of the fraction of the second. -/
  fraction : List Char
  zone : Option Zone
deriving Repr

/-- A day, possibly with a time, as it is written. -/
structure Moment where
  year : Nat
  month : Nat
  day : Nat
  /-- Whether month and day have two digits each. -/
  padded : Bool
  time : Option ClockTime
deriving Repr

namespace Moment

/-- Reads between `least` and `most` decimal digits. -/
def digits? (least most : Nat) (cs : List Char) : Option (List Char × List Char) :=
  let taken := (cs.take most).takeWhile Char.isDigit
  if taken.length < least then none else some (taken, cs.drop taken.length)

/-- Reads a certain character. -/
def mark? (mark : Char) : List Char → Option (List Char)
  | c :: rest => if c == mark then some rest else none
  | [] => none

/-- Reads the difference to universal time up to the end of the text. -/
def zone? (cs : List Char) : Option Zone :=
  match cs with
  | ['Z'] => some .universal
  | sign :: rest => do
    if sign != '-' && sign != '+' then none
    let (hours, rest) ← digits? 1 2 rest
    let minutes ←
      if rest.isEmpty then some []
      else do
        let (minutes, rest) ← digits? 2 2 (← mark? ':' rest)
        if rest.isEmpty then some minutes else none
    some (.offset (sign == '-') (Text.numeral hours) (Text.numeral minutes))
  | [] => none

/-- Reads a time of day up to the end of the text. -/
def clockTime? (cs : List Char) : Option ClockTime := do
  let (hour, rest) ← digits? 1 2 cs
  let (minute, rest) ← digits? 2 2 (← mark? ':' rest)
  let (second, rest) ← digits? 2 2 (← mark? ':' rest)
  let (fraction, rest) :=
    match rest with
    | '.' :: rest => (rest.takeWhile Char.isDigit, rest.dropWhile Char.isDigit)
    | _ => ([], rest)
  let zone ←
    if rest.isEmpty then some none
    else (zone? (rest.dropWhile fun c => c == ' ' || c == '\t')).map some
  some
    { hour := Text.numeral hour
      minute := Text.numeral minute
      second := Text.numeral second
      fraction
      zone }

/-- Reads a day or a point in time. -/
def read? (cs : List Char) : Option Moment := do
  let (year, rest) ← digits? 4 4 cs
  let (month, rest) ← digits? 1 2 (← mark? '-' rest)
  let (day, rest) ← digits? 1 2 (← mark? '-' rest)
  let time ←
    match rest with
    | [] => some none
    | 'T' :: rest => (clockTime? rest).map some
    | 't' :: rest => (clockTime? rest).map some
    | c :: rest =>
      if c == ' ' || c == '\t' then
        (clockTime? (rest.dropWhile fun c => c == ' ' || c == '\t')).map some
      else none
  some
    { year := Text.numeral year
      month := Text.numeral month
      day := Text.numeral day
      padded := month.length == 2 && day.length == 2
      time }

/-- Whether a plain scalar of this form is a moment: a day alone needs two digits for its month
and its day. -/
def isImplicit (m : Moment) : Bool := m.time.isSome || m.padded

/-- Whether a year has a day more. -/
def isLeapYear (year : Nat) : Bool := year % 4 == 0 && (year % 100 != 0 || year % 400 == 0)

/-- The number of days of a month. -/
def daysIn (year month : Nat) : Nat :=
  if month == 2 then if isLeapYear year then 29 else 28
  else if [4, 6, 9, 11].contains month then 30
  else 31

/-- Checks that a number lies between two bounds. -/
def between (low high n : Nat) (mistake : String) : Except Problem Unit :=
  if low ≤ n && n ≤ high then .ok () else .error (.wrongValue mistake)

/-- Checks that the calendar has the day. -/
def checkDay (m : Moment) : Except Problem Unit := do
  between 1 9999 m.year ("year " ++ toString m.year ++ " is out of range")
  between 1 12 m.month "month must be in 1..12"
  between 1 (daysIn m.year m.month) m.day "day is out of range for month"

/-- Checks that the clock shows the time. -/
def checkTime (t : ClockTime) : Except Problem Unit := do
  between 0 23 t.hour "hour must be in 0..23"
  between 0 59 t.minute "minute must be in 0..59"
  between 0 59 t.second "second must be in 0..59"

/-- A span of minutes as messages show it. -/
def spanText (minutes : Int) : String :=
  let days := minutes.fdiv 1440
  let seconds := 60 * minutes.fmod 1440
  "datetime.timedelta(days=" ++ toString days ++
    (if seconds == 0 then "" else ", seconds=" ++ toString seconds) ++ ")"

/-- The difference to universal time in minutes; it is less than a day. -/
def zoneMinutes : Zone → Except Problem Int
  | .universal => .ok 0
  | .offset negative hours minutes =>
    let total : Int := 60 * hours + minutes
    let total := if negative then -total else total
    if total.natAbs < 1440 then .ok total
    else
      .error (.wrongValue ("offset must be a timedelta strictly between " ++
        "-timedelta(hours=24) and timedelta(hours=24), not " ++ spanText total ++ "."))

/-- A number with zeros in front, in at least `width` digits. -/
def paddedText (width n : Nat) : String := String.ofList (Decimal.zeroPadded width n)

/-- The day in ISO notation. -/
def dayText (m : Moment) : String :=
  paddedText 4 m.year ++ "-" ++ paddedText 2 m.month ++ "-" ++ paddedText 2 m.day

/-- The fraction of the second in whole microseconds. -/
def microseconds (t : ClockTime) : Nat :=
  Text.numeral (t.fraction.take 6) * Nat.pow 10 (6 - t.fraction.length)

/-- The time of day in ISO notation. -/
def timeText (t : ClockTime) : String :=
  paddedText 2 t.hour ++ ":" ++ paddedText 2 t.minute ++ ":" ++ paddedText 2 t.second ++
    (if microseconds t == 0 then "" else "." ++ paddedText 6 (microseconds t))

/-- The difference to universal time in ISO notation. -/
def zoneText (minutes : Int) : String :=
  (if minutes < 0 then "-" else "+") ++ paddedText 2 (minutes.natAbs / 60) ++ ":" ++
    paddedText 2 (minutes.natAbs % 60)

/-- The number of the day, counted from the first day of the year one. -/
def dayNumber (m : Moment) : Nat :=
  let years := m.year - 1
  365 * years + years / 4 - years / 100 + years / 400 +
    ((List.range (m.month - 1)).map fun i => daysIn m.year (i + 1)).foldl (· + ·) 0 + m.day

/-- The microseconds in universal time, for a time of day in a zone. -/
def instant (m : Moment) (t : ClockTime) (zone : Int) : Int :=
  let minutes : Int := 1440 * m.dayNumber + 60 * t.hour + t.minute - zone
  1000000 * (60 * minutes + t.second) + microseconds t

/-- The value of a moment. -/
def value (m : Moment) : Except Problem Value :=
  match m.time with
  | none => (checkDay m).map fun _ => .date m.dayText
  | some t => do
    let zone ← t.zone.mapM zoneMinutes
    checkDay m
    checkTime t
    let text := m.dayText ++ "T" ++ timeText t ++ (zone.map zoneText).getD ""
    .ok (.timestamp text (zone.map (instant m t)))

end Moment

end TypstPress.Yaml
