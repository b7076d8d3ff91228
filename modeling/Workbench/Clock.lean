/-!
# The clock

A moment in universal time, and the ways in which it is shown. The day of the week follows from the
number of days since the start of the calendar.
-/

namespace Workbench

/-- A moment in universal time. -/
structure Clock where
  year : Nat
  month : Nat
  day : Nat
  hour : Nat
  minute : Nat
  second : Nat
  deriving Repr, DecidableEq, Inhabited

namespace Clock

def dayNames : List String := ["Sun", "Mon", "Tue", "Wed", "Thu", "Fri", "Sat"]

def monthNames : List String :=
  ["Jan", "Feb", "Mar", "Apr", "May", "Jun", "Jul", "Aug", "Sep", "Oct", "Nov", "Dec"]

/-- The number of days from a fixed Sunday to a date. January and February count as the last months
of the year before, so that a leap day ends its year. -/
def dayNumber (c : Clock) : Nat :=
  let early := c.month ≤ 2
  let year := if early then c.year - 1 else c.year
  let month := if early then c.month + 12 else c.month
  365 * year + year / 4 - year / 100 + year / 400 + (153 * (month - 3) + 2) / 5 + c.day + 2

/-- The name of the day of the week. -/
def weekday (c : Clock) : String :=
  dayNames.getD (c.dayNumber % 7) ""

/-- A number in two digits. -/
def twoDigits (n : Nat) : String :=
  if n < 10 then s!"0{n}" else s!"{n}"

/-- Day of the week, month, day and time. -/
def dayAndTime (c : Clock) : String :=
  let month := monthNames.getD (c.month - 1) ""
  s!"{c.weekday} {month} {twoDigits c.day} " ++
    s!"{twoDigits c.hour}:{twoDigits c.minute}:{twoDigits c.second}"

/-- The moment with the name of its zone before the year. -/
def dated (c : Clock) : String :=
  s!"{c.dayAndTime} UTC {c.year}"

/-- The moment with the offset of its zone after the year. -/
def stamped (c : Clock) : String :=
  s!"{c.dayAndTime} {c.year} +0000"

end Clock

end Workbench
