/-!
# Dates

Points in time, in seconds since the start of 1970, as the date of an HTTP header. Years run
from -9999 to 9999.

* `Civil.ofDays`: the day of the Gregorian calendar so many days after the start of 1970.
* `httpDate?`: the text of a point in time.
-/

namespace WebScript.Http

/-- A day of the Gregorian calendar, continued to years before its introduction. -/
structure Civil where
  year : Int
  month : Nat
  day : Nat
  deriving DecidableEq

/-- The calendar day. Years are counted from March, so that a leap day ends one, and in eras of
400 years, which all have 146097 days; day 719468 of year zero begins 1970. -/
def Civil.ofDays (days : Int) : Civil :=
  let z := days + 719468
  let era := z / 146097
  let dayOfEra := (z % 146097).toNat
  let yearOfEra := (dayOfEra - dayOfEra / 1460 + dayOfEra / 36524 - dayOfEra / 146096) / 365
  let dayOfYear := dayOfEra - (365 * yearOfEra + yearOfEra / 4 - yearOfEra / 100)
  let m := (5 * dayOfYear + 2) / 153
  let month := if m < 10 then m + 3 else m - 9
  { year := yearOfEra + era * 400 + if month ≤ 2 then 1 else 0
    month := month
    day := dayOfYear - (153 * m + 2) / 5 + 1 }

/-- The days of the week, from the day on which 1970 began. -/
def weekdays : List String := ["Thu", "Fri", "Sat", "Sun", "Mon", "Tue", "Wed"]

/-- The months of the year. -/
def months : List String :=
  ["Jan", "Feb", "Mar", "Apr", "May", "Jun", "Jul", "Aug", "Sep", "Oct", "Nov", "Dec"]

/-- A number with zeros in front up to a width. -/
def padded (width n : Nat) : String :=
  let ds := Nat.toDigits 10 n
  String.ofList (List.replicate (width - ds.length) '0' ++ ds)

/-- A year in four digits, with a sign before zero. -/
def yearText (y : Int) : String := (if y < 0 then "-" else "") ++ padded 4 y.natAbs

/-- The text of a point in time, if its year is between -9999 and 9999. -/
def httpDate? (seconds : Int) : Option String :=
  if seconds < -377705116800 ∨ 253402300799 < seconds then none
  else
    let days := seconds / 86400
    let second := (seconds % 86400).toNat
    let date := Civil.ofDays days
    some (String.join
      [weekdays[(days % 7).toNat]?.getD "", ", ", padded 2 date.day, " ",
        months[date.month - 1]?.getD "", " ", yearText date.year, " ", padded 2 (second / 3600),
        ":", padded 2 (second / 60 % 60), ":", padded 2 (second % 60), " GMT"])

end WebScript.Http
