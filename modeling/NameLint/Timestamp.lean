import NameLint.Numeral

/-!
# Dates and times

A timestamp is a calendar date, and possibly a time of day with an offset from
universal time. `Timestamp.isValid` says which of them exist.
-/

namespace NameLint

/-- A time of day; `offset` counts minutes east of universal time. -/
structure TimeOfDay where
  hour : Nat
  minute : Nat
  second : Nat
  micro : Nat
  offset : Option Int
  deriving DecidableEq, Repr

/-- A date, and a time of day where one is given. -/
structure Timestamp where
  year : Nat
  month : Nat
  day : Nat
  time : Option TimeOfDay
  deriving DecidableEq, Repr

namespace Timestamp

/-- Every fourth year is longer, except three of four that begin a century. -/
def isLeapYear (year : Nat) : Bool :=
  year % 4 == 0 && (year % 100 != 0 || year % 400 == 0)

def daysIn (year month : Nat) : Nat :=
  if month == 2 then (if isLeapYear year then 29 else 28)
  else if month == 4 || month == 6 || month == 9 || month == 11 then 30 else 31

/-- Whether the time of day exists; an offset stays below a day. -/
def isValidTime (t : TimeOfDay) : Bool :=
  t.hour < 24 && t.minute < 60 && t.second < 60 &&
    (match t.offset with
     | none => true
     | some o => -1440 < o && o < 1440)

def isValid (t : Timestamp) : Bool :=
  1 ≤ t.year && 1 ≤ t.month && t.month ≤ 12 && 1 ≤ t.day && t.day ≤ daysIn t.year t.month &&
    (match t.time with
     | none => true
     | some time => isValidTime time)

def daysBeforeYear (year : Nat) : Nat :=
  let past := year - 1
  365 * past + past / 4 - past / 100 + past / 400

def daysBeforeMonth (year month : Nat) : Nat :=
  (List.range (month - 1)).foldl (fun days m => days + daysIn year (m + 1)) 0

/-- The moment of a time of day with an offset, in microseconds of universal time. -/
def moment (t : Timestamp) (time : TimeOfDay) (offset : Int) : Int :=
  let days := daysBeforeYear t.year + daysBeforeMonth t.year t.month + t.day
  let minutes : Int := ((days * 24 + time.hour) * 60 + time.minute : Nat) - offset
  (minutes * 60 + time.second) * 1000000 + time.micro

/-- Whether two timestamps are equal: with offsets they are where they name one moment, and
otherwise part by part. -/
def same (s t : Timestamp) : Bool :=
  match s.time, t.time with
  | some a, some b =>
    match a.offset, b.offset with
    | some o, some p => s.moment a o == t.moment b p
    | _, _ => s == t
  | _, _ => s == t

def padded (width n : Nat) : String :=
  let ds := NumeralFormat.digitsOf n
  String.ofList (NumeralFormat.zeros (width - ds.length) ++ ds)

/-- An offset as hours and minutes with a sign. -/
def offsetText (o : Int) : String :=
  (if o < 0 then "-" else "+") ++ padded 2 (o.natAbs / 60) ++ ":" ++ padded 2 (o.natAbs % 60)

/-- The date with dashes, then the time with colons. -/
def shown (t : Timestamp) : String :=
  let date := padded 4 t.year ++ "-" ++ padded 2 t.month ++ "-" ++ padded 2 t.day
  match t.time with
  | none => date
  | some time =>
    date ++ " " ++ padded 2 time.hour ++ ":" ++ padded 2 time.minute ++ ":" ++
      padded 2 time.second ++ (if time.micro == 0 then "" else "." ++ padded 6 time.micro) ++
      (match time.offset with
       | none => ""
       | some o => offsetText o)

/-- An offset as a duration of days and seconds. -/
def offsetWritten (o : Int) : String :=
  if o == 0 then "datetime.timezone.utc"
  else
    let duration :=
      if o < 0 then "days=-1, seconds=" ++ toString (86400 + o * 60).toNat
      else "seconds=" ++ toString (o * 60).toNat
    "datetime.timezone(datetime.timedelta(" ++ duration ++ "))"

/-- The timestamp as a list of its parts. Microseconds, and then seconds, are left out when zero. -/
def written (t : Timestamp) : String :=
  let date := toString t.year ++ ", " ++ toString t.month ++ ", " ++ toString t.day
  match t.time with
  | none => "datetime.date(" ++ date ++ ")"
  | some time =>
    let fraction :=
      if time.micro != 0 then ", " ++ toString time.second ++ ", " ++ toString time.micro
      else if time.second != 0 then ", " ++ toString time.second
      else ""
    let zone :=
      match time.offset with
      | none => ""
      | some o => ", tzinfo=" ++ offsetWritten o
    "datetime.datetime(" ++ date ++ ", " ++ toString time.hour ++ ", " ++ toString time.minute ++
      fraction ++ zone ++ ")"

/-- How many calls the list of the parts nests. -/
def writtenDepth (t : Timestamp) : Nat :=
  match t.time.bind TimeOfDay.offset with
  | none => 1
  | some o => if o == 0 then 2 else 3

/-- How many calls the date with its time nests. -/
def shownDepth (t : Timestamp) : Nat :=
  if (t.time.bind TimeOfDay.offset).isSome then 3 else 2

theorem shownDepth_le (t : Timestamp) : t.shownDepth ≤ t.writtenDepth + 1 := by
  unfold shownDepth writtenDepth
  cases t.time.bind TimeOfDay.offset with
  | none => exact Nat.le_refl _
  | some o => by_cases zero : (o == 0) = true <;> simp [zero]

end Timestamp

end NameLint
