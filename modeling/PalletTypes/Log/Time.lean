import PalletTypes.Log.Fault

/-!
# Dates and times of records

A record carries the seconds since the start of 1970.  Days are counted from
the first of March of the year 0, so that the leap day ends a year; 400 years
have 146097 days.  The clock counts seconds in words of 64 bits, and the
calendar counts years from 1900 in words of 32 bits.

Dates and times are written in Coordinated Universal Time.  The local time zone,
in which the program writes them, is left out; it only shifts what they show.
-/

namespace PalletTypes.Log

structure Date where
  year : Int
  month : Nat
  day : Nat
deriving DecidableEq, Repr

namespace Date

/-- The date a number of days after the first of January 1970. -/
def ofDays (days : Int) : Date :=
  let shifted := days + 719468
  let era := shifted.fdiv 146097
  let dayOfEra := (shifted.fmod 146097).toNat
  let yearOfEra :=
    (dayOfEra - dayOfEra / 1460 + dayOfEra / 36524 - dayOfEra / 146096) / 365
  let dayOfYear :=
    dayOfEra - (365 * yearOfEra + yearOfEra / 4 - yearOfEra / 100)
  let monthFromMarch := (5 * dayOfYear + 2) / 153
  let month := if monthFromMarch < 10 then monthFromMarch + 3
    else monthFromMarch - 9
  { year := era * 400 + yearOfEra + (if month ≤ 2 then 1 else 0)
    month := month
    day := dayOfYear - (153 * monthFromMarch + 2) / 5 + 1 }

def ofSeconds (seconds : Int) : Date := ofDays (seconds.fdiv 86400)

def text (date : Date) : Text :=
  Text.ofInt date.year ++ "-" ++ Text.zeroPadded 2 date.month ++ "-" ++
    Text.zeroPadded 2 date.day

end Date

def clockText (seconds : Int) : Text :=
  let ofDay := (seconds.fmod 86400).toNat
  Text.zeroPadded 2 (ofDay / 3600 : Nat) ++ ":" ++
    Text.zeroPadded 2 (ofDay / 60 % 60 : Nat) ++ ":" ++
    Text.zeroPadded 2 (ofDay % 60 : Nat)

/-- The clock counts so many seconds forward and back. -/
def clockLimit : Nat := 0x8000000000000000

/-- The calendar counts fewer years forward, and so many back. -/
def yearLimit : Int := 0x80000000

/-- The whole seconds of a time, provided that the clock, the calendar and
the writing of years reach it. -/
def wholeSeconds (seconds : Binary64) : Except Fault Int :=
  let whole := seconds.floor
  let year := (Date.ofSeconds whole).year
  if seconds.isUndefined then .error .undefinedTime
  else if clockLimit < whole.natAbs then .error .beyondClock
  else if year - 1900 < -yearLimit ∨ yearLimit ≤ year - 1900 then
    .error .beyondCalendar
  else if yearLimit ≤ year then .error .beyondYears
  else .ok whole

/-- The ways to write the time of a record. -/
inductive TimeStyle where
  | clock
  | dated
  | precise
deriving DecidableEq, Repr

namespace TimeStyle

/-- A time in the given style.  Milliseconds are written without their
fraction. -/
def text (style : TimeStyle) (seconds milliseconds : Binary64) :
    Except Fault Text := do
  let whole ← wholeSeconds seconds
  let dated := (Date.ofSeconds whole).text ++ " " ++ clockText whole
  match style with
  | .clock => .ok (clockText whole)
  | .dated => .ok dated
  | .precise =>
      (wholePart milliseconds).map fun number =>
        dated ++ "," ++ Text.zeroPadded 3 number

end TimeStyle

end PalletTypes.Log
