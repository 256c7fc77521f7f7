import Mathlib.Tactic.IntervalCases
import TierHeap.Proofs.Calendar.Gregorian
import TierHeap.Proofs.Word

/-!
# Dates of day numbers

The conversion of day numbers counts years from March on, in cycles of 400.  Its divisions find
the year whose days enclose the day (`marchYear_bounds`), and then the month in the same way.
So from one day to the next the date goes on as the calendar has it (`ofDays_succ`), and the
date of a number has that number (`dayNumber_ofDays`).
-/

namespace TierHeap.CivilDate

/-- The days from the first of March of the year 0 to that of a year. -/
def yearStart (year : Nat) : Nat :=
  365 * year + year / 4 - year / 100 + year / 400

/-- The leap day of such a year is that of the next year of the calendar. -/
theorem yearStart_succ (year : Nat) :
    yearStart (year + 1) = yearStart year + yearLength (year + 1) := by
  have fours : (year + 1) / 4 = year / 4 + if (year + 1) % 4 = 0 then 1 else 0 := by
    split <;> omega
  have hundreds : (year + 1) / 100 = year / 100 + if (year + 1) % 100 = 0 then 1 else 0 := by
    split <;> omega
  have cycles : (year + 1) / 400 = year / 400 + if (year + 1) % 400 = 0 then 1 else 0 := by
    split <;> omega
  have cycleIsCentury : (year + 1) % 400 = 0 → (year + 1) % 100 = 0 := by omega
  have centuryIsFourth : (year + 1) % 100 = 0 → (year + 1) % 4 = 0 := by omega
  have ordered : year / 100 ≤ 365 * year + year / 4 := by omega
  rw [yearStart, yearStart, fours, hundreds, cycles, yearLength]
  clear fours hundreds cycles
  by_cases leap : IsLeap (year + 1)
  · rw [if_pos leap]
    rw [IsLeap] at leap
    split_ifs <;> omega
  · rw [if_neg leap]
    rw [IsLeap] at leap
    split_ifs <;> omega

theorem yearStart_strictMono : StrictMono yearStart :=
  strictMono_nat_of_lt_succ fun year => by
    have length := yearLength_bounds (year + 1)
    rw [yearStart_succ]
    omega

theorem yearStart_add_cycles (year cycles : Nat) :
    yearStart (year + cycles * 400) = yearStart year + cycles * cycleDays := by
  have fours : (year + cycles * 400) / 4 = year / 4 + 100 * cycles := by omega
  have hundreds : (year + cycles * 400) / 100 = year / 100 + 4 * cycles := by omega
  have repeated : (year + cycles * 400) / 400 = year / 400 + cycles := by omega
  rw [yearStart, yearStart, fours, hundreds, repeated, cycleDays]
  omega

/-- A day of a cycle by its century, its group of four years, its year, and its day there. -/
structure CyclePlace (day century group single rest : Nat) : Prop where
  sum : day = 36524 * century + 1461 * group + 365 * single + rest
  century_le : century ≤ 3
  group_le : group ≤ 24
  single_le : single ≤ 3
  /-- Only the last year of a group has a day more than 365. -/
  inYear : rest < 365 ∨ rest = 365 ∧ single = 3
  /-- Only the last century has the leap day of its last year. -/
  inCentury : century < 3 → 1461 * group + 365 * single + rest < 36524

theorem exists_cyclePlace
    {day : Nat}
    (inCycle : day < cycleDays) :
    ∃ century group single rest, CyclePlace day century group single rest := by
  obtain ⟨century, century_eq⟩ : ∃ century, century = min (day / 36524) 3 := ⟨_, rfl⟩
  obtain ⟨offset, offset_eq⟩ : ∃ offset, offset = day - 36524 * century := ⟨_, rfl⟩
  obtain ⟨single, single_eq⟩ : ∃ single, single = min (offset % 1461 / 365) 3 := ⟨_, rfl⟩
  rw [cycleDays] at inCycle
  refine ⟨century, offset / 1461, single, offset % 1461 - 365 * single, ?_⟩
  constructor <;> omega

/-- The year of a place: the days that the first division takes out are the leap days so
far. -/
theorem CyclePlace.cycleYear_eq
    {day century group single rest : Nat}
    (place : CyclePlace day century group single rest) :
    cycleYear day = 100 * century + 4 * group + single := by
  obtain ⟨sum, centuryLe, groupLe, singleLe, inYear, inCentury⟩ := place
  by_cases last : day = 146096
  · obtain ⟨rfl, rfl, rfl⟩ : century = 3 ∧ group = 24 ∧ single = 3 := by omega
    rw [last]
    decide
  · have centuries : day / 36524 = century := by omega
    have cycles : day / 146096 = 0 := by omega
    have fourths :
        day / 1460 =
          25 * century + group + (24 * century + group + 365 * single + rest) / 1460 := by
      omega
    rw [cycleYear, centuries, cycles, fourths]
    omega

theorem CyclePlace.yearStart_eq
    {day century group single rest : Nat}
    (place : CyclePlace day century group single rest) :
    yearStart (100 * century + 4 * group + single) =
      36524 * century + 1461 * group + 365 * single := by
  obtain ⟨_, centuryLe, groupLe, singleLe, _, _⟩ := place
  have fours : (100 * century + 4 * group + single) / 4 = 25 * century + group := by omega
  have hundreds : (100 * century + 4 * group + single) / 100 = century := by omega
  have cycles : (100 * century + 4 * group + single) / 400 = 0 := by omega
  rw [yearStart, fours, hundreds, cycles]
  omega

theorem CyclePlace.rest_lt
    {day century group single rest : Nat}
    (place : CyclePlace day century group single rest) :
    rest < yearLength (100 * century + 4 * group + single + 1) := by
  obtain ⟨_, centuryLe, groupLe, singleLe, inYear, inCentury⟩ := place
  rw [yearLength]
  split
  · omega
  · rename_i plain
    simp only [IsLeap] at plain
    omega

theorem cycleYear_bounds
    {day : Nat}
    (inCycle : day < cycleDays) :
    cycleYear day < 400 ∧ yearStart (cycleYear day) ≤ day ∧
      day < yearStart (cycleYear day + 1) := by
  obtain ⟨century, group, single, rest, place⟩ := exists_cyclePlace inCycle
  have ⟨sum, centuryLe, groupLe, singleLe, _, _⟩ := place
  have start := place.yearStart_eq
  have inside := place.rest_lt
  rw [place.cycleYear_eq, yearStart_succ]
  omega

/-- The year, counted from March on, of a day counted from the first of March of the year 0. -/
def marchYear (shifted : Nat) : Nat :=
  cycleYear (shifted % cycleDays) + shifted / cycleDays * 400

theorem marchYear_bounds (shifted : Nat) :
    yearStart (marchYear shifted) ≤ shifted ∧ shifted < yearStart (marchYear shifted + 1) := by
  have place := Nat.mod_add_div shifted cycleDays
  have inCycle : shifted % cycleDays < cycleDays := Nat.mod_lt _ (by decide)
  have ⟨_, start, stop⟩ := cycleYear_bounds inCycle
  rw [marchYear, Nat.add_right_comm, yearStart_add_cycles, yearStart_add_cycles]
  rw [Nat.mul_comm] at place
  omega

theorem marchYear_eq
    {shifted year : Nat}
    (start : yearStart year ≤ shifted)
    (stop : shifted < yearStart (year + 1)) :
    marchYear shifted = year := by
  have bounds := marchYear_bounds shifted
  have notAfter := yearStart_strictMono.lt_iff_lt.mp (Nat.lt_of_le_of_lt bounds.1 stop)
  have notBefore := yearStart_strictMono.lt_iff_lt.mp (Nat.lt_of_le_of_lt start bounds.2)
  omega

/-- The days from the first of March to the first of a month, counted from March on. -/
def monthStart (marchMonth : Nat) : Nat :=
  (153 * marchMonth + 2) / 5

/-- The days from the first of March to the end of a month; February ends the year. -/
def monthStop
    (year marchMonth : Nat) : Nat :=
  if marchMonth < 11 then monthStart (marchMonth + 1) else yearLength (year + 1)

/-- The date of a day of a month, both counted from March on. -/
def ofMonth
    (year marchMonth day : Nat) : CivilDate :=
  let month := if marchMonth < 10 then marchMonth + 3 else marchMonth - 9
  { year := year + (if month ≤ 2 then 1 else 0)
    month := month
    day := day }

theorem monthStart_add_monthLength
    (year : Nat)
    {marchMonth : Nat}
    (day : Nat)
    (inYear : marchMonth ≤ 11) :
    monthStart marchMonth +
        monthLength (ofMonth year marchMonth day).year (ofMonth year marchMonth day).month =
      monthStop year marchMonth := by
  rw [monthStop]
  split
  · interval_cases marchMonth <;> rfl
  · obtain rfl : marchMonth = 11 := by omega
    change 337 + (if IsLeap (year + 1) then 29 else 28) =
      if IsLeap (year + 1) then 366 else 365
    split <;> rfl

theorem ofMonth_next_day
    (year : Nat)
    {marchMonth day : Nat}
    (inYear : marchMonth ≤ 11)
    (inMonth : monthStart marchMonth + day < monthStop year marchMonth) :
    (ofMonth year marchMonth day).next = ofMonth year marchMonth (day + 1) := by
  have stop := monthStart_add_monthLength year day inYear
  rw [next, if_pos (by simp only [ofMonth] at *; omega)]
  rfl

theorem ofMonth_next_month
    (year : Nat)
    {marchMonth day : Nat}
    (early : marchMonth < 11)
    (last : monthStop year marchMonth ≤ monthStart marchMonth + day) :
    (ofMonth year marchMonth day).next = ofMonth year (marchMonth + 1) 1 := by
  have stop := monthStart_add_monthLength year day (Nat.le_of_lt early)
  rw [next, if_neg (by simp only [ofMonth] at *; omega)]
  -- After December the year of the calendar changes, and the year from March on does not.
  simp only [ofMonth]
  interval_cases marchMonth <;> rfl

theorem ofMonth_next_year
    (year : Nat)
    {day : Nat}
    (last : monthStop year 11 ≤ monthStart 11 + day) :
    (ofMonth year 11 day).next = ofMonth (year + 1) 0 1 := by
  have stop := monthStart_add_monthLength year day (Nat.le_refl 11)
  rw [next, if_neg (by simp only [ofMonth] at *; omega)]
  rfl

theorem marchMonth_eq_iff
    {yearDay marchMonth : Nat} :
    (5 * yearDay + 2) / 153 = marchMonth ↔
      monthStart marchMonth ≤ yearDay ∧ yearDay < monthStart (marchMonth + 1) := by
  rw [monthStart, monthStart]
  omega

/-- The date of a day of a year, both counted from March on. -/
def ofYear
    (year yearDay : Nat) : CivilDate :=
  let marchMonth := (5 * yearDay + 2) / 153
  ofMonth year marchMonth (yearDay - monthStart marchMonth + 1)

theorem ofYear_next_day
    {year yearDay : Nat}
    (inYear : yearDay + 1 < yearLength (year + 1)) :
    (ofYear year yearDay).next = ofYear year (yearDay + 1) := by
  have length := yearLength_bounds (year + 1)
  obtain ⟨month, month_eq⟩ : ∃ month, (5 * yearDay + 2) / 153 = month := ⟨_, rfl⟩
  obtain ⟨start, stop⟩ := marchMonth_eq_iff.mp month_eq
  have months : month ≤ 11 := by omega
  by_cases sameMonth : yearDay + 1 < monthStart (month + 1)
  · have month_next : (5 * (yearDay + 1) + 2) / 153 = month :=
      marchMonth_eq_iff.mpr ⟨by omega, sameMonth⟩
    simp only [ofYear, month_eq, month_next]
    rw [ofMonth_next_day year months (by rw [monthStop]; split <;> omega)]
    congr 1
    omega
  · have early : month < 11 := by
      by_contra last
      obtain rfl : month = 11 := by omega
      rw [show monthStart 12 = 367 from rfl] at sameMonth
      omega
    have month_next : (5 * (yearDay + 1) + 2) / 153 = month + 1 :=
      marchMonth_eq_iff.mpr ⟨by omega, by rw [monthStart] at *; omega⟩
    simp only [ofYear, month_eq, month_next]
    rw [ofMonth_next_month year early (by rw [monthStop, if_pos early]; omega)]
    congr 1
    omega

theorem ofYear_next_year
    {year yearDay : Nat}
    (last : yearDay + 1 = yearLength (year + 1)) :
    (ofYear year yearDay).next = ofYear (year + 1) 0 := by
  have length := yearLength_bounds (year + 1)
  have february : (5 * yearDay + 2) / 153 = 11 := by omega
  simp only [ofYear, february]
  exact ofMonth_next_year year (by rw [monthStop, if_neg (by decide), monthStart]; omega)

/-! ## Days since 1970 -/

theorem ofDays_eq (days : Nat) :
    ofDays days =
      ofYear (marchYear (days + epochShift))
        (days + epochShift - yearStart (marchYear (days + epochShift))) := by
  generalize shifted_eq : days + epochShift = shifted
  have inCycle : shifted % cycleDays < cycleDays := Nat.mod_lt _ (by decide)
  have ⟨few, start, _⟩ := cycleYear_bounds inCycle
  -- A cycle is over after 400 years, so within it the last summand of `yearStart` is zero.
  have within :
      yearStart (cycleYear (shifted % cycleDays)) =
        365 * cycleYear (shifted % cycleDays) + cycleYear (shifted % cycleDays) / 4 -
          cycleYear (shifted % cycleDays) / 100 := by
    rw [yearStart, Nat.div_eq_of_lt few, Nat.add_zero]
  have yearDay :
      shifted - yearStart (marchYear shifted) =
        shifted % cycleDays - yearStart (cycleYear (shifted % cycleDays)) := by
    have place := Nat.mod_add_div shifted cycleDays
    rw [Nat.mul_comm] at place
    rw [marchYear, yearStart_add_cycles]
    omega
  rw [yearDay, within, ofDays, shifted_eq]
  rfl

/-- Day by day the dates go on as the calendar has it. -/
theorem ofDays_succ (days : Nat) : ofDays (days + 1) = (ofDays days).next := by
  generalize shifted_eq : days + epochShift = shifted
  have shifted_next : days + 1 + epochShift = shifted + 1 := by omega
  rw [ofDays_eq, ofDays_eq, shifted_next, shifted_eq]
  generalize year_eq : marchYear shifted = year
  obtain ⟨start, stop⟩ := year_eq ▸ marchYear_bounds shifted
  have length := yearStart_succ year
  by_cases sameYear : shifted + 1 < yearStart (year + 1)
  · rw [marchYear_eq (by omega) sameYear, ofYear_next_day (by omega)]
    congr 1
    omega
  · have newYear : shifted + 1 = yearStart (year + 1) := by omega
    have year_next : marchYear (shifted + 1) = year + 1 :=
      marchYear_eq newYear.ge (newYear ▸ yearStart_strictMono (Nat.lt_succ_self (year + 1)))
    rw [year_next, newYear, Nat.sub_self, ofYear_next_year (by omega)]

theorem ofDays_zero : ofDays 0 = { year := 1970, month := 1, day := 1 } := by
  decide

theorem ofDays_valid (days : Nat) : (ofDays days).Valid := by
  induction days with
  | zero =>
      rw [ofDays_zero]
      decide
  | succ days inductionHypothesis =>
      rw [ofDays_succ]
      exact valid_next inductionHypothesis

theorem ofDays_strictBefore
    {days later : Nat}
    (before : days < later) :
    (ofDays days).Before (ofDays later) := by
  induction later, before using Nat.le_induction with
  | base =>
      rw [ofDays_succ]
      exact before_next _
  | succ later _ inductionHypothesis =>
      rw [ofDays_succ later]
      exact inductionHypothesis.trans (before_next _)

theorem since_1970 (days : Nat) : 1970 ≤ (ofDays days).year := by
  rcases Nat.eq_zero_or_pos days with rfl | later
  · rw [ofDays_zero]
  · have order := ofDays_strictBefore later
    rw [ofDays_zero, Before] at order
    dsimp only at order
    omega

/-- The date of a number has that number. -/
theorem dayNumber_ofDays (days : Nat) : (ofDays days).dayNumber = days := by
  induction days with
  | zero =>
      rw [ofDays_zero]
      rfl
  | succ days inductionHypothesis =>
      rw [ofDays_succ, (ofDays_valid days).dayNumber_next (since_1970 days),
        inductionHypothesis]

def cycleYearChecked? (day : Nat) : Option Nat := do
  let withoutLeapDays ← Word.subChecked? day (day / 1460)
  let withCenturies ← Word.addChecked? withoutLeapDays (day / 36524)
  let withoutCycle ← Word.subChecked? withCenturies (day / 146096)
  some (withoutCycle / 365)

def yearDayChecked?
    (day year : Nat) : Option Nat := do
  let plainDays ← Word.mulChecked? 365 year
  let withFourths ← Word.addChecked? plainDays (year / 4)
  let daysBefore ← Word.subChecked? withFourths (year / 100)
  Word.subChecked? day daysBefore

def monthChecked? (marchMonth : Nat) : Option Nat :=
  if marchMonth < 10 then Word.addChecked? marchMonth 3 else Word.subChecked? marchMonth 9

def ofYearChecked?
    (year cycles yearDay : Nat) : Option CivilDate := do
  let fifths ← Word.mulChecked? 5 yearDay
  let shiftedFifths ← Word.addChecked? fifths 2
  let marchMonth := shiftedFifths / 153
  let monthFifths ← Word.mulChecked? 153 marchMonth
  let shiftedMonthFifths ← Word.addChecked? monthFifths 2
  let daysLeft ← Word.subChecked? yearDay (shiftedMonthFifths / 5)
  let day ← Word.addChecked? daysLeft 1
  let month ← monthChecked? marchMonth
  let cycleYears ← Word.mulChecked? cycles 400
  let marchYear ← Word.addChecked? year cycleYears
  let civilYear ← Word.addChecked? marchYear (if month ≤ 2 then 1 else 0)
  some { year := civilYear, month := month, day := day }

def ofDaysChecked? (days : Nat) : Option CivilDate := do
  let shifted ← Word.addChecked? days epochShift
  let day := shifted % cycleDays
  let year ← cycleYearChecked? day
  let yearDay ← yearDayChecked? day year
  ofYearChecked? year (shifted / cycleDays) yearDay

theorem cycleYearChecked?_eq_some
    {day : Nat}
    (inCycle : day < cycleDays) :
    cycleYearChecked? day = some (cycleYear day) := by
  have bound : Word.bound = 18446744073709551616 := rfl
  rw [cycleDays] at inCycle
  simp only [cycleYearChecked?, Option.bind_eq_bind]
  rw [Word.subChecked?_of_le (by omega), Option.bind_some,
    Word.addChecked?_of_lt (by omega), Option.bind_some,
    Word.subChecked?_of_le (by omega), Option.bind_some, cycleYear]

theorem yearDayChecked?_eq_some
    {day year : Nat}
    (few : year < 400)
    (start : 365 * year + year / 4 - year / 100 ≤ day) :
    yearDayChecked? day year =
      some (day - (365 * year + year / 4 - year / 100)) := by
  have bound : Word.bound = 18446744073709551616 := rfl
  simp only [yearDayChecked?, Option.bind_eq_bind]
  rw [Word.mulChecked?_of_lt (by omega), Option.bind_some,
    Word.addChecked?_of_lt (by omega), Option.bind_some,
    Word.subChecked?_of_le (by omega), Option.bind_some, Word.subChecked?_of_le start]

theorem monthChecked?_eq_some
    {marchMonth : Nat}
    (inYear : marchMonth ≤ 11) :
    monthChecked? marchMonth =
      some (if marchMonth < 10 then marchMonth + 3 else marchMonth - 9) := by
  rw [monthChecked?]
  split
  · exact Word.addChecked?_of_lt (by rw [Word.bound]; omega)
  · exact Word.subChecked?_of_le (by omega)

theorem ofYearChecked?_eq_some
    {year cycles yearDay : Nat}
    (few : year < 400)
    (inYear : yearDay < 366)
    (inWords : cycles ≤ Word.largest / 86400) :
    ofYearChecked? year cycles yearDay = some (ofYear (year + cycles * 400) yearDay) := by
  have bound : Word.bound = 18446744073709551616 := rfl
  rw [Word.largest] at inWords
  simp only [ofYearChecked?, Option.bind_eq_bind]
  rw [Word.mulChecked?_of_lt (by omega), Option.bind_some,
    Word.addChecked?_of_lt (by omega), Option.bind_some,
    Word.mulChecked?_of_lt (by omega), Option.bind_some,
    Word.addChecked?_of_lt (by omega), Option.bind_some,
    Word.subChecked?_of_le (by omega), Option.bind_some,
    Word.addChecked?_of_lt (by omega), Option.bind_some,
    monthChecked?_eq_some (by omega), Option.bind_some,
    Word.mulChecked?_of_lt (by omega), Option.bind_some,
    Word.addChecked?_of_lt (by omega), Option.bind_some,
    Word.addChecked?_of_lt (by split_ifs <;> omega), Option.bind_some]
  rfl

/-- No step of the conversion leaves the machine words, whatever number of seconds in machine
words the day comes from. -/
theorem ofDaysChecked?_eq_some
    {days : Nat}
    (inWords : days ≤ Word.largest / 86400) :
    ofDaysChecked? days = some (ofDays days) := by
  have bound : Word.bound = 18446744073709551616 := rfl
  have shiftFits : days + epochShift < Word.bound := by
    rw [Word.largest] at inWords
    rw [epochShift]
    omega
  have fewCycles : (days + epochShift) / cycleDays ≤ Word.largest / 86400 := by
    simp only [epochShift, cycleDays, Word.largest] at *
    omega
  have inCycle : (days + epochShift) % cycleDays < cycleDays := Nat.mod_lt _ (by decide)
  simp only [ofDaysChecked?, Option.bind_eq_bind]
  rw [Word.addChecked?_of_lt shiftFits, Option.bind_some,
    cycleYearChecked?_eq_some inCycle, Option.bind_some]
  have ⟨few, start, stop⟩ := cycleYear_bounds inCycle
  have length := yearLength_bounds (cycleYear ((days + epochShift) % cycleDays) + 1)
  rw [yearStart_succ] at stop
  rw [yearStart, Nat.div_eq_of_lt few, Nat.add_zero] at start stop
  rw [yearDayChecked?_eq_some few start, Option.bind_some,
    ofYearChecked?_eq_some few (by omega) fewCycles]
  rfl

end TierHeap.CivilDate
