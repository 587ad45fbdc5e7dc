/-
**Progress of a copy.**

A snapshot says how many rows have been copied in which time, and of how many if that is known. From
it follow the rate, the part done and the time left at that rate. The time left may be too long for
64 bits of seconds; then there is none, nor a line that would show it.

The monitor shows a line at every multiple of its interval from its start until it is cancelled. A
tick at the very end of a step is shown in the next one.
-/

import SchemaFerry.Number.Binary64

namespace SchemaFerry.Run

/-- How far a copy has come. -/
structure Progress where
  rows : Int
  total : Option Int
  seconds : Nat
  nanoseconds : Nat
  deriving Repr, DecidableEq

/-- The time left: none to be told, one that is too long to be told, or a number of nanoseconds. -/
inductive TimeLeft where
  | unknown
  | tooLong
  | nanoseconds (count : Nat)
  deriving Repr, DecidableEq

namespace Progress

/-- The time so far in seconds. -/
def elapsed (progress : Progress) : Float :=
  Float.ofNat progress.seconds + Float.ofNat progress.nanoseconds / 1e9

/-- Rows a second. -/
def rate (progress : Progress) : Float :=
  if 0 < progress.elapsed then Number.ofInt progress.rows / progress.elapsed else 0

/-- The known count of rows, unless there are none. -/
def positiveTotal (progress : Progress) : Option Int :=
  progress.total.filter (0 < ·)

/-- The part done in percent, at most all of it. -/
def percent (progress : Progress) : Option Float :=
  progress.positiveTotal.map fun total =>
    let part := Number.ofInt progress.rows / Number.ofInt total * 100
    if part < 100 then part else 100

/-- Seconds as nanoseconds, rounded to the nearest; too long from `2 ^ 64` seconds on. -/
def roundedTime (seconds : Float) : TimeLeft :=
  match Number.Binary64.ofBits seconds.toBits with
  | .finite _ mantissa exponent =>
    let count := Number.roundedScaled mantissa exponent 9
    if count < 0x10000000000000000 * 1000000000 then .nanoseconds count else .tooLong
  | _ => .tooLong

/-- The time left at the rate so far. -/
def timeLeft (progress : Progress) : TimeLeft :=
  match progress.positiveTotal with
  | none => .unknown
  | some total =>
    if progress.rate <= 0 then .unknown
    else roundedTime (Number.ofInt (max (total - progress.rows) 0) / progress.rate)

/-- The front of the line, with the count of rows. -/
def lead (rows : Int) : String :=
  "Progress: " ++ toString rows

/-- The progress on one line, unless the time left is too long. -/
def line? (progress : Progress) : Option String :=
  let front := lead progress.rows ++ " rows (" ++
    Number.fixedPlaces 0 progress.rate.toBits ++ " rows/sec)"
  let part :=
    match progress.positiveTotal, progress.percent with
    | some total, some percent =>
      ", " ++ Number.fixedPlaces 1 percent.toBits ++ "% of " ++ toString total
    | _, _ => ""
  match progress.timeLeft with
  | .unknown => some (front ++ part)
  | .tooLong => none
  | .nanoseconds count => some (front ++ part ++ ", ETA " ++ toString (count / 1000000000) ++ "s")

end Progress

/-! ### The monitor -/

/-- A monitor: its interval and the time so far in milliseconds, the rows counted, and whether it
goes on. -/
structure Monitor where
  interval : Nat
  elapsed : Nat
  rows : Int
  isActive : Bool
  deriving Repr, DecidableEq

namespace Monitor

/-- How many ticks there have been before a time. -/
def ticksBefore (interval time : Nat) : Nat :=
  (time - 1) / interval

/-- Counts rows and lets time pass: how many lines were shown, and the monitor afterwards. -/
def pass (monitor : Monitor) (rows : Int) (milliseconds : Nat) : Nat × Monitor :=
  let later := monitor.elapsed + milliseconds
  let ticks := ticksBefore monitor.interval later - ticksBefore monitor.interval monitor.elapsed
  (if monitor.isActive then ticks else 0,
    { monitor with elapsed := later, rows := monitor.rows + rows })

/-- The monitor after it was cancelled. -/
def cancel (monitor : Monitor) : Monitor :=
  { monitor with isActive := false }

/-- The fronts of the lines shown while time passes after rows were counted. -/
def shown (monitor : Monitor) (rows : Int) (milliseconds : Nat) : List String × Monitor :=
  let (count, after) := monitor.pass rows milliseconds
  (List.replicate count (Progress.lead after.rows), after)

end Monitor

end SchemaFerry.Run
