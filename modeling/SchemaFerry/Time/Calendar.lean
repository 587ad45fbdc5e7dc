/-
**Dates and times of day.**

Days are counted from the first of January 1970, microseconds and seconds from its start in UTC.
`Date.ofDays` gives the date of a day by the rule of the Gregorian calendar, for years before its
introduction too, year zero being the one before year one.
-/

namespace SchemaFerry.Time

/-- A date. -/
structure Date where
  year : Int
  month : Nat
  day : Nat
  deriving Repr, DecidableEq

/-- The days of an era of four hundred years, after which the calendar repeats. -/
def daysOfEra : Nat := 146097

/-- The year within an era, counted from March, in which a day of the era lies. -/
def yearOfEra (day : Nat) : Nat :=
  (day - day / 1460 + day / 36524 - day / 146096) / 365

/-- The date of a day. Years are counted from March here, so that a leap day ends its year. -/
def Date.ofDays (days : Int) : Date :=
  let shifted := days + 719468
  let era := shifted.fdiv daysOfEra
  let dayOfEra := (shifted.fmod daysOfEra).toNat
  let year := yearOfEra dayOfEra
  let dayOfYear := dayOfEra - (365 * year + year / 4 - year / 100)
  let monthFromMarch := (5 * dayOfYear + 2) / 153
  let day := dayOfYear - (153 * monthFromMarch + 2) / 5 + 1
  let month := if monthFromMarch < 10 then monthFromMarch + 3 else monthFromMarch - 9
  ⟨era * 400 + year + (if month ≤ 2 then 1 else 0), month, day⟩

/-- A number with zeros in front up to a width. -/
def padded (width number : Nat) : String :=
  let digits := Nat.toDigits 10 number
  String.ofList (List.replicate (width - digits.length) '0' ++ digits)

/-- A year; one that does not have four digits has a sign. -/
def yearText (year : Int) : String :=
  if 0 ≤ year ∧ year ≤ 9999 then padded 4 year.toNat
  else (if year < 0 then "-" else "+") ++ padded 4 year.natAbs

/-- The date with its parts joined by hyphens. -/
def Date.text (date : Date) : String :=
  yearText date.year ++ "-" ++ padded 2 date.month ++ "-" ++ padded 2 date.day

/-- A second of a day with its parts joined by colons. In a leap second the last part is one
more. -/
def secondText (second : Nat) (isLeap : Bool) : String :=
  padded 2 (second / 3600) ++ ":" ++ padded 2 (second / 60 % 60) ++ ":" ++
    padded 2 (second % 60 + if isLeap then 1 else 0)

/-- A fraction of a second in three, six or nine digits, whichever suffice, with a point before
them; nothing for zero. -/
def fractionText (nanoseconds : Nat) : String :=
  if nanoseconds = 0 then ""
  else if nanoseconds % 1000000 = 0 then "." ++ padded 3 (nanoseconds / 1000000)
  else if nanoseconds % 1000 = 0 then "." ++ padded 6 (nanoseconds / 1000)
  else "." ++ padded 9 nanoseconds

/-- The seconds of a day. -/
def secondsOfDay : Nat := 86400

/-- A date and a time of day with a mark between them. Nanoseconds of a whole second and more are
those of a leap second. -/
def momentText (mark : String) (seconds : Int) (nanoseconds : Nat) : String :=
  let isLeap := 1000000000 ≤ nanoseconds
  (Date.ofDays (seconds.fdiv secondsOfDay)).text ++ mark ++
    secondText (seconds.fmod secondsOfDay).toNat isLeap ++
    fractionText (if isLeap then nanoseconds - 1000000000 else nanoseconds)

/-- A moment in UTC. -/
structure Moment where
  seconds : Int
  nanoseconds : Nat
  deriving Repr, DecidableEq

/-- The moment as date and time joined by a `T`, with a `Z` for UTC at the end. -/
def Moment.text (moment : Moment) : String :=
  momentText "T" moment.seconds moment.nanoseconds ++ "Z"

end SchemaFerry.Time
