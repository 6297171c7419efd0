/-
**Instants in milliseconds since the start of 1970, read in the proleptic Gregorian calendar at UTC.**

* `Calendar.ofMillis` takes an instant apart;
* `Calendar.stored` is the text with three fraction digits and a `Z`, `Calendar.rfc3339` the one with
  as many fraction digits as are needed, and `Calendar.display` the one for messages;
* each of the three has its own range of years.
-/

namespace Polystore.Calendar

/-- An instant by year, month, day and time of day. -/
structure Moment where
  year : Int
  month : Nat
  day : Nat
  hour : Nat
  minute : Nat
  second : Nat
  millisecond : Nat
  deriving DecidableEq, Repr

def millisPerDay : Int := 86400000

/-- Year, month and day of a day counted from the start of 1970. Years are taken to begin in March, so
that the leap day is the last one of its year, and are grouped in cycles of four centuries. -/
def dateOfDay (day : Int) : Int × Nat × Nat :=
  let shifted := day + 719468
  let cycle := shifted / 146097
  let dayOfCycle := (shifted % 146097).toNat
  let yearOfCycle :=
    (dayOfCycle - dayOfCycle / 1460 + dayOfCycle / 36524 - dayOfCycle / 146096) / 365
  let dayOfYear := dayOfCycle - (365 * yearOfCycle + yearOfCycle / 4 - yearOfCycle / 100)
  let shiftedMonth := (5 * dayOfYear + 2) / 153
  let day := dayOfYear - (153 * shiftedMonth + 2) / 5 + 1
  let month := if shiftedMonth < 10 then shiftedMonth + 3 else shiftedMonth - 9
  let year := (yearOfCycle : Int) + cycle * 400 + (if month ≤ 2 then 1 else 0)
  (year, month, day)

/-- The parts of an instant. -/
def ofMillis (millis : Int) : Moment :=
  let (year, month, day) := dateOfDay (millis / millisPerDay)
  let rest := (millis % millisPerDay).toNat
  { year, month, day
    hour := rest / 3600000
    minute := rest / 60000 % 60
    second := rest / 1000 % 60
    millisecond := rest % 1000 }

/-- Decimal digits of a number, filled up with zeros on the left. -/
def padded (width number : Nat) : String :=
  let digits := toString number
  String.ofList (List.replicate (width - digits.length) '0') ++ digits

/-- Four digits for the years 0 to 9999, else a sign and at least four digits. -/
def signedYear (year : Int) : String :=
  if 0 ≤ year ∧ year ≤ 9999 then padded 4 year.toNat
  else (if year < 0 then "-" else "+") ++ padded 4 year.natAbs

/-- Month, day and time of day as they stand in a date text. -/
def monthDay (moment : Moment) : String := "-" ++ padded 2 moment.month ++ "-" ++ padded 2 moment.day

def minuteSecond (moment : Moment) : String :=
  ":" ++ padded 2 moment.minute ++ ":" ++ padded 2 moment.second

/-- The first instant a stored text can name: the start of the year -262143. -/
def storedMin : Int := -8334601228800000

/-- The last instant a stored text can name: the end of the year 262142. -/
def storedMax : Int := 8210266876799999

/-- The text under which an instant is stored, three fraction digits and a `Z`. Instants outside the
range stand at its end. -/
def stored (millis : Int) : String :=
  let moment := ofMillis (max storedMin (min storedMax millis))
  signedYear moment.year ++ monthDay moment ++ "T" ++ padded 2 moment.hour ++ minuteSecond moment
    ++ "." ++ padded 3 moment.millisecond ++ "Z"

/-- Three digits without the zeros at their end. -/
def fraction (millisecond : Nat) : String :=
  String.ofList (((padded 3 millisecond).toList.reverse.dropWhile (· == '0')).reverse)

/-- The last instant of the year 9999. -/
def lastMillis : Int := 253402300799999

/-- The first instant of the year -9999. -/
def firstMillis : Int := -377705116800000

/-- The shortest RFC 3339 text of an instant from the year 0 on; past the year 9999 the last
nanosecond of that year stands for every instant. -/
def rfc3339 (millis : Int) : String :=
  if lastMillis < millis then "9999-12-31T23:59:59.999999999Z"
  else
    let moment := ofMillis millis
    let ending := if moment.millisecond = 0 then "" else "." ++ fraction moment.millisecond
    signedYear moment.year ++ monthDay moment ++ "T" ++ padded 2 moment.hour ++ minuteSecond moment
      ++ ending ++ "Z"

/-- The text for messages: the hour as it comes, at least one fraction digit, and the bare
milliseconds outside the years -9999 to 9999. -/
def display (millis : Int) : String :=
  if millis < firstMillis ∨ lastMillis < millis then toString millis
  else
    let moment := ofMillis millis
    let ending := if moment.millisecond = 0 then "0" else fraction moment.millisecond
    (if moment.year < 0 then "-" else "") ++ padded 4 moment.year.natAbs ++ monthDay moment ++ " "
      ++ toString moment.hour ++ minuteSecond moment ++ "." ++ ending ++ " +00:00:00"

example : ofMillis 951782400000 = ⟨2000, 2, 29, 0, 0, 0, 0⟩ := by decide
example : ofMillis (-1) = ⟨1969, 12, 31, 23, 59, 59, 999⟩ := by decide
example : (ofMillis lastMillis).year = 9999 ∧ (ofMillis (lastMillis + 1)).year = 10000 := by decide
example : (ofMillis firstMillis).year = -9999 ∧ (ofMillis (firstMillis - 1)).year = -10000 := by
  decide
example : (ofMillis storedMax).year = 262142 ∧ (ofMillis storedMin).year = -262143 := by decide

end Polystore.Calendar
