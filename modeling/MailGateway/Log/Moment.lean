import MailGateway.Text.Basic

/-!
# Moments

A moment is a date and a time of day in universal time.  It is found from the milliseconds since the
start of 1970 by counting days in periods of four hundred years, which start in March so that the leap
day is the last day of a year.
-/

namespace MailGateway.Log

structure Moment where
  year : Int
  month : Int
  day : Int
  hour : Int
  minute : Int
  second : Int
  microsecond : Int
deriving DecidableEq, Repr

namespace Moment

/-- The date of a day, counted from the first of January 1970: year, month and day. -/
def date (days : Int) : Int × Int × Int :=
  let days := days + 719468
  let period := days / 146097
  let inPeriod := days % 146097
  let year := (inPeriod - inPeriod / 1460 + inPeriod / 36524 - inPeriod / 146096) / 365
  let inYear := inPeriod - (365 * year + year / 4 - year / 100)
  let month := (5 * inYear + 2) / 153
  let day := inYear - (153 * month + 2) / 5 + 1
  let early := month < 10
  (year + period * 400 + (if early then 0 else 1), if early then month + 3 else month - 9, day)

/-- The moment a number of milliseconds after the start of 1970. -/
def ofMillis (millis : Int) : Moment :=
  let seconds := millis / 1000
  let (year, month, day) := date (seconds / 86400)
  let inDay := seconds % 86400
  ⟨year, month, day, inDay / 3600, inDay / 60 % 60, inDay % 60, millis % 1000 * 1000⟩

/-- A number in at least `width` digits. -/
def digits (width : Nat) (n : Int) : Text :=
  Text.padLeft '0' width (Text.ofInt n)

def dateText (m : Moment) : Text :=
  digits 4 m.year ++ '-' :: digits 2 m.month ++ '-' :: digits 2 m.day

def timeText (m : Moment) : Text :=
  digits 2 m.hour ++ ':' :: digits 2 m.minute ++ ':' :: digits 2 m.second

/-- The moment for machines.  A whole second has no digits behind the point. -/
def machineText (m : Moment) : Text :=
  m.dateText ++ 'T' :: m.timeText ++
    (if m.microsecond = 0 then [] else '.' :: digits 6 m.microsecond) ++ ['Z']

/-- The moment for people, in milliseconds. -/
def humanText (m : Moment) : Text :=
  m.dateText ++ ' ' :: m.timeText ++ ',' :: digits 3 (m.microsecond / 1000)

end Moment

end MailGateway.Log
