import Mathlib.Algebra.BigOperators.Intervals
import TierHeap.Timestamp

/-!
# The Gregorian calendar

The rules of the calendar, carried back and forth without end: the lengths of months and years,
the date that follows a date, and the number of a date counted from the start of 1970.  They
say what a date is and nothing of how one is computed.  The date that follows has the next
number (`Valid.dayNumber_next`) and is the later one (`before_next`).
-/

namespace TierHeap.CivilDate

/-- A year with a leap day: one divisible by 4, but a century only if divisible by 400. -/
def IsLeap (year : Nat) : Prop :=
  year % 4 = 0 ∧ (year % 100 ≠ 0 ∨ year % 400 = 0)

instance : DecidablePred IsLeap := fun year =>
  inferInstanceAs (Decidable (year % 4 = 0 ∧ (year % 100 ≠ 0 ∨ year % 400 = 0)))

def yearLength (year : Nat) : Nat :=
  if IsLeap year then 366 else 365

def monthLength (year : Nat) : Nat → Nat
  | 2 => if IsLeap year then 29 else 28
  | 4 | 6 | 9 | 11 => 30
  | _ => 31

theorem yearLength_bounds (year : Nat) : 365 ≤ yearLength year ∧ yearLength year ≤ 366 := by
  rw [yearLength]
  split <;> simp

theorem monthLength_bounds (year month : Nat) :
    28 ≤ monthLength year month ∧ monthLength year month ≤ 31 := by
  unfold monthLength
  split
  · split <;> decide
  · decide
  · decide
  · decide
  · decide
  · decide

/-- The months of a year have its days. -/
theorem sum_monthLength (year : Nat) :
    ∑ month ∈ Finset.Ico 1 13, monthLength year month = yearLength year := by
  rw [yearLength]
  by_cases leap : IsLeap year <;>
    simp [Finset.sum_Ico_succ_top, monthLength, leap]

structure Valid (date : CivilDate) : Prop where
  month_pos : 1 ≤ date.month
  month_le : date.month ≤ 12
  day_pos : 1 ≤ date.day
  day_le : date.day ≤ monthLength date.year date.month

theorem valid_iff {date : CivilDate} :
    date.Valid ↔
      (1 ≤ date.month ∧ date.month ≤ 12) ∧
        (1 ≤ date.day ∧ date.day ≤ monthLength date.year date.month) :=
  ⟨fun valid => ⟨⟨valid.month_pos, valid.month_le⟩, valid.day_pos, valid.day_le⟩,
    fun ⟨⟨monthPos, monthLe⟩, dayPos, dayLe⟩ => ⟨monthPos, monthLe, dayPos, dayLe⟩⟩

instance (date : CivilDate) : Decidable date.Valid :=
  decidable_of_iff _ valid_iff.symm

def next (date : CivilDate) : CivilDate :=
  if date.day < monthLength date.year date.month then
    { date with day := date.day + 1 }
  else if date.month < 12 then
    { date with month := date.month + 1, day := 1 }
  else
    { year := date.year + 1, month := 1, day := 1 }

theorem valid_next
    {date : CivilDate}
    (valid : date.Valid) :
    date.next.Valid := by
  have ⟨monthPos, monthLe, _, _⟩ := valid
  rw [next]
  split_ifs with inMonth inYear
  · exact ⟨monthPos, monthLe, Nat.succ_pos _, inMonth⟩
  · have length := monthLength_bounds date.year (date.month + 1)
    exact ⟨Nat.succ_pos _, inYear, le_rfl, Nat.le_trans (Nat.succ_pos 27) length.1⟩
  · exact ⟨le_rfl, Nat.succ_pos _, le_rfl, Nat.succ_pos _⟩

def dayNumber (date : CivilDate) : Nat :=
  ∑ year ∈ Finset.Ico 1970 date.year, yearLength year +
    ∑ month ∈ Finset.Ico 1 date.month, monthLength date.year month + (date.day - 1)

/-- The date that follows a date has the number that follows its number. -/
theorem Valid.dayNumber_next
    {date : CivilDate}
    (valid : date.Valid)
    (since : 1970 ≤ date.year) :
    date.next.dayNumber = date.dayNumber + 1 := by
  have ⟨monthPos, monthLe, dayPos, dayLe⟩ := valid
  rw [next]
  split_ifs with inMonth inYear
  · simp only [dayNumber]
    omega
  · have last : date.day = monthLength date.year date.month := by omega
    simp only [dayNumber, Finset.sum_Ico_succ_top monthPos]
    omega
  · have last : date.day = monthLength date.year date.month := by omega
    have december : date.month = 12 := by omega
    have months := sum_monthLength date.year
    rw [Finset.sum_Ico_succ_top (by decide : 1 ≤ 12), ← december] at months
    simp only [dayNumber, Finset.sum_Ico_succ_top since, Finset.Ico_self, Finset.sum_empty]
    omega

/-- The order of dates: by year, then by month, then by day. -/
def Before (date later : CivilDate) : Prop :=
  date.year < later.year ∨ date.year = later.year ∧
    (date.month < later.month ∨ date.month = later.month ∧ date.day < later.day)

theorem Before.trans
    {date middle later : CivilDate}
    (first : date.Before middle)
    (second : middle.Before later) :
    date.Before later := by
  rw [Before] at *
  omega

theorem before_next (date : CivilDate) : date.Before date.next := by
  rw [next, Before]
  split_ifs <;> simp

end TierHeap.CivilDate
