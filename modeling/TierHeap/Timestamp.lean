import TierHeap.Text.Digits

/-!
# Timestamps

Instants since the start of 1970 as dates of the Gregorian calendar, and their text.  The
calendar repeats every 400 years, and a year is taken to start in March, so that the leap day
is its last.  A clock shows one instant after the other.
-/

namespace TierHeap

structure CivilDate where
  year : Nat
  month : Nat
  day : Nat
  deriving DecidableEq, Repr

namespace CivilDate

/-- The days of 400 years. -/
def cycleDays : Nat :=
  146097

/-- The days from the first of March of the year 0 to the start of 1970. -/
def epochShift : Nat :=
  719468

/-- The year within a 400-year cycle of a day of the cycle. -/
def cycleYear (day : Nat) : Nat :=
  (day - day / 1460 + day / 36524 - day / 146096) / 365

def ofDays (days : Nat) : CivilDate :=
  let shifted := days + epochShift
  let day := shifted % cycleDays
  let year := cycleYear day
  let yearDay := day - (365 * year + year / 4 - year / 100)
  let marchMonth := (5 * yearDay + 2) / 153
  let month := if marchMonth < 10 then marchMonth + 3 else marchMonth - 9
  { year := year + shifted / cycleDays * 400 + (if month ≤ 2 then 1 else 0)
    month := month
    day := yearDay - (153 * marchMonth + 2) / 5 + 1 }

end CivilDate

/-- A point in time: seconds from the start of 1970, and nanoseconds. -/
structure Instant where
  seconds : Int
  nanos : Nat
  deriving DecidableEq, Repr, Inhabited

/-- What a clock shows at its next reading, and at those after it.  Once it has shown them
all, it stands still. -/
structure Clock where
  now : Instant
  later : List Instant
  deriving DecidableEq, Repr

namespace Clock

/-- A clock that stands still. -/
instance : Coe Instant Clock where
  coe now := ⟨now, []⟩

def tick : Clock → Clock
  | ⟨now, []⟩ => ⟨now, []⟩
  | ⟨_, now :: later⟩ => ⟨now, later⟩

/-- The clock after so many readings. -/
def after
    (clock : Clock) : Nat → Clock
  | 0 => clock
  | count + 1 => clock.tick.after count

end Clock

namespace Timestamp

open Text (decimalPadded)

def ofSeconds
    (seconds millis : Nat) : String :=
  let date := CivilDate.ofDays (seconds / 86400)
  decimalPadded 4 date.year ++ "-" ++ decimalPadded 2 date.month ++ "-" ++
    decimalPadded 2 date.day ++ "T" ++ decimalPadded 2 (seconds % 86400 / 3600) ++ ":" ++
    decimalPadded 2 (seconds % 3600 / 60) ++ ":" ++ decimalPadded 2 (seconds % 60) ++ "." ++
    decimalPadded 3 millis ++ "Z"

/-- The text of an instant; one before 1970 reads as the start of 1970. -/
def ofInstant (instant : Instant) : String :=
  if instant.seconds < 0 then ofSeconds 0 0
  else ofSeconds instant.seconds.toNat (instant.nanos / 1000000)

end Timestamp

end TierHeap
