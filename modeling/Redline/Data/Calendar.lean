import Redline.Number.Decimal

set_option autoImplicit false
set_option relaxedAutoImplicit false

/-!
Calendar dates and timestamps. A timestamp with an offset from universal time names an instant, and
two of them are the same when their instants are. A faulty one is refused for its offset first, then
for its greatest part that is out of range.
-/

namespace Redline.Data

open Number (padded showInt showNat)

structure Date where
  year : Nat
  month : Nat
  day : Nat
  deriving Repr, DecidableEq

/-- A date with a time of day, down to the microsecond. -/
structure Timestamp where
  date : Date
  hour : Nat
  minute : Nat
  second : Nat
  micro : Nat
  /-- The offset from universal time in minutes, if one is given. -/
  offset : Option Int
  deriving Repr, DecidableEq

/-- Why numbers are no date or no timestamp. -/
inductive CalendarFault where
  /-- The offset, in minutes, is a day or more. -/
  | offset (minutes : Int)
  | year
  | month
  | day
  | hour
  | minute
  | second
  deriving Repr, DecidableEq

/-- A span of minutes in a call, as days and the seconds after them; zeros are left out. -/
def spanCall (minutes : Int) : Text :=
  let days := Int.fdiv minutes 1440
  let seconds := Int.fmod minutes 1440 * 60
  let numbers : List Text :=
    (if days = 0 then [] else ["days=" ++ showInt days]) ++
      (if seconds = 0 then [] else ["seconds=" ++ showInt seconds])
  "datetime.timedelta(" ++ (if numbers.isEmpty then ['0'] else Text.joinWith ", " numbers) ++ ")"

def CalendarFault.message : CalendarFault → Text
  | .offset minutes =>
    "offset must be a timedelta strictly between -timedelta(hours=24) and timedelta(hours=24), " ++
      "not " ++ spanCall minutes ++ "."
  | .year => "year 0 is out of range"
  | .month => "month must be in 1..12"
  | .day => "day is out of range for month"
  | .hour => "hour must be in 0..23"
  | .minute => "minute must be in 0..59"
  | .second => "second must be in 0..59"

namespace Date

def isLeap (year : Nat) : Bool := year % 4 = 0 && (year % 100 ≠ 0 || year % 400 = 0)

def daysInMonth (year month : Nat) : Nat :=
  if month = 2 then if isLeap year then 29 else 28
  else if month ∈ [4, 6, 9, 11] then 30 else 31

def check (d : Date) : Except CalendarFault Date :=
  if d.year = 0 then .error .year
  else if d.month = 0 ∨ 12 < d.month then .error .month
  else if d.day = 0 ∨ daysInMonth d.year d.month < d.day then .error .day
  else .ok d

def dayNumber (d : Date) : Nat :=
  let before := d.year - 1
  365 * before + before / 4 - before / 100 + before / 400 +
    (List.range (d.month - 1)).foldl (fun days m => days + daysInMonth d.year (m + 1)) d.day

def text (d : Date) : Text := padded 4 d.year ++ '-' :: padded 2 d.month ++ '-' :: padded 2 d.day

def call (d : Date) : Text :=
  "datetime.date(" ++ Text.joinWith ", " ([d.year, d.month, d.day].map showNat) ++ ")"

end Date

namespace Timestamp

def check (t : Timestamp) : Except CalendarFault Timestamp := do
  match t.offset with
  | some minutes => if 1440 ≤ minutes.natAbs then .error (.offset minutes)
  | none => pure ()
  discard t.date.check
  if 24 ≤ t.hour then .error .hour
  else if 60 ≤ t.minute then .error .minute
  else if 60 ≤ t.second then .error .second
  else return t

/-- The minutes from the start of the year one in universal time, if an offset is given. -/
def instant? (t : Timestamp) : Option Int :=
  t.offset.map fun minutes =>
    ((t.date.dayNumber * 1440 + t.hour * 60 + t.minute : Nat) : Int) - minutes

/-- Whether two timestamps are the same: those with an offset by their instants. -/
def same (s t : Timestamp) : Bool :=
  match s.instant?, t.instant? with
  | some m, some n => m == n && s.second == t.second && s.micro == t.micro
  | none, none => s == t
  | _, _ => false

def offsetText (minutes : Int) : Text :=
  (if minutes < 0 then '-' else '+') :: padded 2 (minutes.natAbs / 60) ++
    ':' :: padded 2 (minutes.natAbs % 60)

/-- A date and a time of day; microseconds are written only when there are some. -/
def text (t : Timestamp) : Text :=
  t.date.text ++ ' ' :: padded 2 t.hour ++ ':' :: padded 2 t.minute ++ ':' :: padded 2 t.second ++
    (if t.micro = 0 then [] else '.' :: padded 6 t.micro) ++
      match t.offset with
      | some minutes => offsetText minutes
      | none => []

def offsetCall (minutes : Int) : Text :=
  if minutes = 0 then "datetime.timezone.utc" else "datetime.timezone(" ++ spanCall minutes ++ ")"

/-- The call that makes a timestamp; seconds and microseconds are left out where zeros end them. -/
def call (t : Timestamp) : Text :=
  let clock : List Nat :=
    if t.micro ≠ 0 then [t.second, t.micro] else if t.second ≠ 0 then [t.second] else []
  let numbers := [t.date.year, t.date.month, t.date.day, t.hour, t.minute] ++ clock
  let offset : List Text :=
    match t.offset with
    | some minutes => ["tzinfo=" ++ offsetCall minutes]
    | none => []
  "datetime.datetime(" ++ Text.joinWith ", " (numbers.map showNat ++ offset) ++ ")"

end Timestamp

end Redline.Data
