/-!
# Moments

The time of an entry: date and time of day, universal time, to the second.

## Main definitions

* `momentText`: the moment of a number of seconds since the start of 1970
-/

namespace PageMerge.Log

/-- A number with at least so many digits. -/
def padded (width n : Nat) : String :=
  let digits := toString n
  String.ofList (List.replicate (width - digits.length) '0') ++ digits

/-- Year, month and day after a number of days since the start of 1970. Years are counted from March
on, in cycles of four hundred, so that a leap day comes last. -/
def dateOfDays (days : Nat) : Nat × Nat × Nat :=
  let shifted := days + 719468
  let dayOfCycle := shifted % 146097
  let year := (dayOfCycle - dayOfCycle / 1460 + dayOfCycle / 36524 - dayOfCycle / 146096) / 365
  let dayOfYear := dayOfCycle - (365 * year + year / 4 - year / 100)
  let month := (5 * dayOfYear + 2) / 153
  let day := dayOfYear - (153 * month + 2) / 5 + 1
  let calendarMonth := if month < 10 then month + 3 else month - 9
  (year + 400 * (shifted / 146097) + (if calendarMonth ≤ 2 then 1 else 0), calendarMonth, day)

/-- The moment of a number of seconds since the start of 1970. -/
def momentText (seconds : Nat) : String :=
  let (year, month, day) := dateOfDays (seconds / 86400)
  let time := seconds % 86400
  s!"{padded 4 year}-{padded 2 month}-{padded 2 day}T" ++
    s!"{padded 2 (time / 3600)}:{padded 2 (time / 60 % 60)}:{padded 2 (time % 60)}Z"

/-- The last second of a leap day, and the first one after it. -/
example : momentText 951868799 = "2000-02-29T23:59:59Z" ∧
    momentText 951868800 = "2000-03-01T00:00:00Z" := by
  decide +kernel

end PageMerge.Log
