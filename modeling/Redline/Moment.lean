import Redline.Number.Decimal

set_option autoImplicit false
set_option relaxedAutoImplicit false

/-!
Moments: a date and a time of day, as the write log, the names of log files and log lines show them.
-/

namespace Redline

/-- A date and a time of day, in universal time. -/
structure Moment where
  year : Nat
  month : Nat
  day : Nat
  hour : Nat
  minute : Nat
  second : Nat
  deriving Repr, DecidableEq

namespace Moment

open Number (padded)

def clock (m : Moment) : Text :=
  padded 2 m.hour ++ ':' :: padded 2 m.minute ++ ':' :: padded 2 m.second

/-- Date and time with the offset from universal time. -/
def stamp (m : Moment) : Text :=
  padded 4 m.year ++ '-' :: padded 2 m.month ++ '-' :: padded 2 m.day ++ 'T' :: m.clock ++ "+00:00"

/-- Date and time in digits, for the name of a file. -/
def fileStamp (m : Moment) : Text :=
  padded 4 m.year ++ padded 2 m.month ++ padded 2 m.day ++ '_' :: padded 2 m.hour ++
    padded 2 m.minute ++ padded 2 m.second

/-- The days from the first of March of the year zero to the first of January 1970. -/
def epochDays : Nat := 719468

/--
The moment so many seconds after the start of 1970. Years are counted from March, so that a leap day
ends one; four centuries have 146097 days.
-/
def ofSeconds (seconds : Nat) : Moment :=
  let days := seconds / 86400 + epochDays
  let dayOfEra := days % 146097
  let yearOfEra :=
    (dayOfEra - dayOfEra / 1460 + dayOfEra / 36524 - dayOfEra / 146096) / 365
  let dayOfYear := dayOfEra - (365 * yearOfEra + yearOfEra / 4 - yearOfEra / 100)
  let marchMonth := (5 * dayOfYear + 2) / 153
  let month := if marchMonth < 10 then marchMonth + 3 else marchMonth - 9
  { year := yearOfEra + days / 146097 * 400 + (if month ≤ 2 then 1 else 0), month
    day := dayOfYear - (153 * marchMonth + 2) / 5 + 1
    hour := seconds % 86400 / 3600, minute := seconds % 3600 / 60, second := seconds % 60 }

end Moment

end Redline
