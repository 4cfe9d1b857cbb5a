/-!
# Calendar dates

`UtcTime.ofUnix?` turns a count of seconds since the first of January 1970 into a date of the
Gregorian calendar, extended without end into the past, and a time of day. `UtcTime.text` writes it
as a timestamp with seconds. A leap second is the second 60 of its minute.
-/

namespace AgentBus

/-- A date and a time of day. -/
structure UtcTime where
  year : Int
  month : Nat
  day : Nat
  hour : Nat
  minute : Nat
  second : Nat
  deriving DecidableEq

namespace UtcTime

/-- The days from the first of March of the year 0 to the first of January 1970. -/
def epochShift : Int := 719468

/-- Year, month and day of a day counted from the first of January 1970.

Years are counted from March, so that the leap day is the last one of its year; 400 such years make
a cycle of 146097 days. -/
def dateOfDay (day : Int) : Int × Nat × Nat :=
  let shifted := day + epochShift
  let cycle := shifted / 146097
  let dayOfCycle := (shifted % 146097).toNat
  let yearOfCycle :=
    (dayOfCycle - dayOfCycle / 1460 + dayOfCycle / 36524 - dayOfCycle / 146096) / 365
  let dayOfYear := dayOfCycle - (365 * yearOfCycle + yearOfCycle / 4 - yearOfCycle / 100)
  let monthFromMarch := (5 * dayOfYear + 2) / 153
  let day := dayOfYear - (153 * monthFromMarch + 2) / 5 + 1
  let month := if monthFromMarch < 10 then monthFromMarch + 3 else monthFromMarch - 9
  (cycle * 400 + yearOfCycle + (if month ≤ 2 then 1 else 0), month, day)

/-- The first and the last year of the calendar. -/
def minYear : Int := -262143

def maxYear : Int := 262142

/-- The moment `nanos` nanoseconds after a second since 1970. Nanoseconds beyond one second are a
leap second and can only follow the second 59 of a minute. -/
def ofUnix? (seconds : Int) (nanos : Nat) : Option UtcTime :=
  let secondOfDay := (seconds % 86400).toNat
  let (year, month, day) := dateOfDay (seconds / 86400)
  let second := secondOfDay % 60
  let isLeap := 1000000000 ≤ nanos
  if year < minYear ∨ maxYear < year ∨ 2000000000 ≤ nanos ∨ (isLeap ∧ second ≠ 59) then none
  else
    some
      { year, month, day
        hour := secondOfDay / 3600
        minute := secondOfDay / 60 % 60
        second := if isLeap then second + 1 else second }

/-- A number with zeros in front up to the given width. -/
def padded (width n : Nat) : String :=
  let digits := Nat.toDigits 10 n
  String.ofList (List.replicate (width - digits.length) '0' ++ digits)

/-- A year: four digits, and beyond those years a sign. -/
def yearText (year : Int) : String :=
  if 0 ≤ year ∧ year ≤ 9999 then padded 4 year.toNat
  else (if year < 0 then "-" else "+") ++ padded 4 year.natAbs

/-- The date alone. -/
def dateText (t : UtcTime) : String :=
  yearText t.year ++ "-" ++ padded 2 t.month ++ "-" ++ padded 2 t.day

/-- The timestamp, with seconds and without a fraction. -/
def text (t : UtcTime) : String :=
  t.dateText ++ "T" ++ padded 2 t.hour ++ ":" ++ padded 2 t.minute ++ ":" ++ padded 2 t.second ++
    "Z"

end UtcTime

end AgentBus
