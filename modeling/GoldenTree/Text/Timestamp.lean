/-! Points in time, written as a date and a time of day. -/
namespace GoldenTree.Text

/-- A day of the Gregorian calendar. -/
structure Date where
  year : Nat
  month : Nat
  day : Nat
  deriving Repr, DecidableEq

/-- The days of 400 years, after which the calendar repeats. -/
def cycleDays : Nat := 146097

/-- The days from the first of March of the year 0 to the beginning of 1970. -/
def daysBefore1970 : Nat := 719468

/-- The day that comes so many days after the beginning of 1970. Years are counted from March, so
that a leap day is the last day of its year and the lengths of the months follow a fixed rhythm of
153 days in five months. -/
def Date.ofDays (days : Nat) : Date :=
  let day := (days + daysBefore1970) % cycleDays
  let cycle := (days + daysBefore1970) / cycleDays
  let year := (day - day / 1460 + day / 36524 - day / 146096) / 365
  let day := day - (365 * year + year / 4 - year / 100)
  let month := (5 * day + 2) / 153
  let inNewYear := 10 ≤ month
  { year := 400 * cycle + year + if inNewYear then 1 else 0
    month := if inNewYear then month - 9 else month + 3
    day := day - (153 * month + 2) / 5 + 1 }

/-- The digits of a number, with zeros in front up to the width. -/
def padded (width n : Nat) : String :=
  let digits := Nat.toDigits 10 n
  String.ofList (List.replicate (width - digits.length) '0' ++ digits)

/-- The point that comes so many seconds after the beginning of 1970. -/
def timestamp (seconds : Nat) : String :=
  let date := Date.ofDays (seconds / 86400)
  let time := seconds % 86400
  padded 4 date.year ++ "-" ++ padded 2 date.month ++ "-" ++ padded 2 date.day ++ " " ++
    padded 2 (time / 3600) ++ ":" ++ padded 2 (time / 60 % 60) ++ ":" ++ padded 2 (time % 60)

end GoldenTree.Text
