import Mathlib.Data.String.Basic
import TierHeap.Proofs.Calendar.Days
import TierHeap.Proofs.Text.Numerals

/-!
# Reading timestamps

The text of an instant is a row of decimal fields, each with the sign that ends it.  A reader
that knows the signs and the rules of the calendar gets the instant back.  As long as the years
have four digits every field has its own width, so that texts are in order as their fields are,
and these as the instants.
-/

namespace TierHeap.Timestamp

open Text (decimalPadded digitsValue zeroPad)

/-- The fields of a row: the least number of digits, and the sign that ends the field. -/
abbrev Layout : Type :=
  List (Nat × Char)

/-- The year, the month, the day, the hour, the minute, the second and the milliseconds. -/
def layout : Layout :=
  [(4, '-'), (2, '-'), (2, 'T'), (2, ':'), (2, ':'), (2, '.'), (3, 'Z')]

def row : Layout → List Nat → List Char
  | (width, stop) :: rest, value :: values =>
      zeroPad width (Nat.toDigits 10 value) ++ stop :: row rest values
  | _, _ => []

/-- Read the values of a row that has nothing behind its last field. -/
def values? : Layout → List Char → Option (List Nat)
  | [], [] => some []
  | [], _ :: _ => none
  | (width, stop) :: rest, text =>
      match text.dropWhile Char.isDigit with
      | [] => none
      | c :: others =>
          let digits := text.takeWhile Char.isDigit
          if c = stop ∧ width ≤ digits.length ∧ digits ≠ [] then
            (values? rest others).map (digitsValue 0 digits :: ·)
          else
            none

def Layout.Separated (fields : Layout) : Prop :=
  ∀ field ∈ fields, field.2.isDigit = false

theorem layout_separated : layout.Separated := by
  simp [Layout.Separated, layout]

theorem values?_row
    {fields : Layout}
    {values : List Nat}
    (separated : fields.Separated)
    (lengths : values.length = fields.length) :
    values? fields (row fields values) = some values := by
  induction fields generalizing values with
  | nil =>
      rw [List.eq_nil_of_length_eq_zero lengths]
      rfl
  | cons field fields inductionHypothesis =>
      obtain ⟨width, stop⟩ := field
      obtain ⟨value, values, rfl⟩ := List.exists_cons_of_length_eq_add_one lengths
      obtain ⟨noDigit, restSeparated⟩ := List.forall_mem_cons.mp separated
      have onlyDigits : ∀ c ∈ zeroPad width (Nat.toDigits 10 value), c.isDigit = true :=
        fun _ => Text.isDigit_of_mem_zeroPad
      have wide : width ≤ (zeroPad width (Nat.toDigits 10 value)).length := by
        rw [zeroPad, List.length_append, List.length_replicate]
        omega
      have some_digit : zeroPad width (Nat.toDigits 10 value) ≠ [] := by
        simp [zeroPad]
      rw [row, values?, List.dropWhile_append_of_pos onlyDigits,
        List.takeWhile_append_of_pos onlyDigits, List.dropWhile_cons_of_neg (by simp [noDigit]),
        List.takeWhile_cons_of_neg (by simp [noDigit]), List.append_nil]
      simp only [true_and]
      rw [if_pos ⟨wide, some_digit⟩,
        inductionHypothesis restSeparated (Nat.succ.inj lengths), Text.digitsValue_zeroPad,
        Text.digitsValue_toDigits]
      rfl

/-- The values take no more digits than the least number. -/
inductive Fits : Layout → List Nat → Prop
  | nil : Fits [] []
  | cons
      {width value : Nat}
      {stop : Char}
      {fields : Layout}
      {values : List Nat}
      (positive : 0 < width)
      (small : value < 10 ^ width)
      (rest : Fits fields values) :
      Fits ((width, stop) :: fields) (value :: values)

theorem append_lt_append
    {first second : List Char}
    (lengths : first.length = second.length)
    (less : first < second)
    (rest others : List Char) :
    first ++ rest < second ++ others := by
  induction first generalizing second with
  | nil =>
      rw [List.length_nil, eq_comm, List.length_eq_zero_iff] at lengths
      exact absurd (lengths ▸ less) (List.not_lt_nil _)
  | cons c first inductionHypothesis =>
      cases second with
      | nil =>
          cases lengths
      | cons d second =>
          rw [List.cons_append, List.cons_append]
          rw [List.cons_lt_cons_iff] at less ⊢
          exact less.imp id fun ⟨same, restLess⟩ =>
            ⟨same, inductionHypothesis (Nat.succ.inj lengths) restLess⟩

/-- Fields of fixed widths are in order as texts when they are in order field by field. -/
theorem row_lt_row
    {fields : Layout}
    {values others : List Nat}
    (fits : Fits fields values)
    (otherFits : Fits fields others)
    (less : values < others) :
    row fields values < row fields others := by
  induction fits generalizing others with
  | nil =>
      cases otherFits
      exact absurd less (List.not_lt_nil _)
  | @cons width value stop fields values positive small rest inductionHypothesis =>
      cases otherFits with
      | @cons _ other _ _ others _ otherSmall otherRest =>
          rw [row, row]
          rcases List.cons_lt_cons_iff.mp less with before | ⟨rfl, restLess⟩
          · have lengths := (Text.length_zeroPad_toDigits positive small).trans
              (Text.length_zeroPad_toDigits positive otherSmall).symm
            refine append_lt_append lengths ?_ _ _
            refine Text.lt_of_digitsValue_lt lengths (fun _ => Text.isDigit_of_mem_zeroPad)
              (fun _ => Text.isDigit_of_mem_zeroPad) ?_
            rwa [Text.digitsValue_zeroPad, Text.digitsValue_zeroPad, Text.digitsValue_toDigits,
              Text.digitsValue_toDigits]
          · exact List.append_left_lt
              (List.cons_lt_cons_iff.mpr (.inr ⟨rfl, inductionHypothesis otherRest restLess⟩))

def fieldsOf
    (seconds millis : Nat) : List Nat :=
  let date := CivilDate.ofDays (seconds / 86400)
  [date.year, date.month, date.day, seconds % 86400 / 3600, seconds % 3600 / 60, seconds % 60,
    millis]

theorem toList_joined (year month day hour minute second millis : Nat) :
    (decimalPadded 4 year ++ "-" ++ decimalPadded 2 month ++ "-" ++ decimalPadded 2 day ++ "T" ++
      decimalPadded 2 hour ++ ":" ++ decimalPadded 2 minute ++ ":" ++ decimalPadded 2 second ++
      "." ++ decimalPadded 3 millis ++ "Z").toList =
      row layout [year, month, day, hour, minute, second, millis] := by
  simp [row, layout, decimalPadded]

theorem toList_ofSeconds (seconds millis : Nat) :
    (ofSeconds seconds millis).toList = row layout (fieldsOf seconds millis) :=
  toList_joined ..

/-- Read the text of an instant: its fields, a date that the calendar has and a time of day, as
the seconds from the start of 1970 and the milliseconds. -/
def read? (text : String) : Option (Nat × Nat) :=
  match values? layout text.toList with
  | some [year, month, day, hour, minute, second, millis] =>
      let date : CivilDate := { year := year, month := month, day := day }
      if date.Valid ∧ 1970 ≤ year ∧ hour < 24 ∧ minute < 60 ∧ second < 60 ∧ millis < 1000 then
        some (date.dayNumber * 86400 + hour * 3600 + minute * 60 + second, millis)
      else
        none
  | _ => none

theorem read?_ofSeconds
    (seconds : Nat)
    {millis : Nat}
    (small : millis < 1000) :
    read? (ofSeconds seconds millis) = some (seconds, millis) := by
  have values : values? layout (ofSeconds seconds millis).toList =
      some (fieldsOf seconds millis) := by
    rw [toList_ofSeconds]
    exact values?_row layout_separated rfl
  have number := CivilDate.dayNumber_ofDays (seconds / 86400)
  have valid := CivilDate.ofDays_valid (seconds / 86400)
  have since := CivilDate.since_1970 (seconds / 86400)
  rw [read?, values, fieldsOf]
  generalize CivilDate.ofDays (seconds / 86400) = date at *
  have hour : seconds % 86400 / 3600 < 24 := by omega
  have minute : seconds % 3600 / 60 < 60 := by omega
  have second : seconds % 60 < 60 := by omega
  have total :
      seconds / 86400 * 86400 + seconds % 86400 / 3600 * 3600 + seconds % 3600 / 60 * 60 +
        seconds % 60 = seconds := by
    omega
  dsimp only
  rw [if_pos ⟨valid, since, hour, minute, second, small⟩, number, total]

theorem fits_fieldsOf
    {seconds millis : Nat}
    (small : millis < 1000)
    (fourDigits : (CivilDate.ofDays (seconds / 86400)).year ≤ 9999) :
    Fits layout (fieldsOf seconds millis) := by
  have valid := CivilDate.ofDays_valid (seconds / 86400)
  have monthLe := valid.month_le
  have dayLe := valid.day_le.trans (CivilDate.monthLength_bounds _ _).2
  refine .cons (by decide) ?_ (.cons (by decide) ?_ (.cons (by decide) ?_ (.cons (by decide) ?_
    (.cons (by decide) ?_ (.cons (by decide) ?_ (.cons (by decide) ?_ .nil)))))) <;> omega

/-- An earlier instant has fields in order. -/
theorem fieldsOf_lt
    {seconds millis later laterMillis : Nat}
    (before : seconds < later ∨ seconds = later ∧ millis < laterMillis) :
    fieldsOf seconds millis < fieldsOf later laterMillis := by
  simp only [fieldsOf, List.cons_lt_cons_iff]
  rcases Nat.lt_trichotomy (seconds / 86400) (later / 86400) with earlier | same | after
  · have order := CivilDate.ofDays_strictBefore earlier
    rw [CivilDate.Before] at order
    omega
  · rw [same]
    simp only [Nat.lt_irrefl, true_and, false_or, List.not_lt_nil, and_false, or_false]
    omega
  · omega

theorem ofSeconds_lt
    {seconds millis later laterMillis : Nat}
    (small : millis < 1000)
    (laterSmall : laterMillis < 1000)
    (fourDigits : (CivilDate.ofDays (seconds / 86400)).year ≤ 9999)
    (laterFourDigits : (CivilDate.ofDays (later / 86400)).year ≤ 9999)
    (before : seconds < later ∨ seconds = later ∧ millis < laterMillis) :
    ofSeconds seconds millis < ofSeconds later laterMillis := by
  rw [String.lt_iff_toList_lt, toList_ofSeconds, toList_ofSeconds]
  exact row_lt_row (fits_fieldsOf small fourDigits) (fits_fieldsOf laterSmall laterFourDigits)
    (fieldsOf_lt before)

theorem ofSeconds_lt_iff
    {seconds millis later laterMillis : Nat}
    (small : millis < 1000)
    (laterSmall : laterMillis < 1000)
    (fourDigits : (CivilDate.ofDays (seconds / 86400)).year ≤ 9999)
    (laterFourDigits : (CivilDate.ofDays (later / 86400)).year ≤ 9999) :
    ofSeconds seconds millis < ofSeconds later laterMillis ↔
      seconds < later ∨ seconds = later ∧ millis < laterMillis := by
  refine ⟨fun less => ?_, ofSeconds_lt small laterSmall fourDigits laterFourDigits⟩
  by_contra notBefore
  by_cases same : seconds = later ∧ millis = laterMillis
  · obtain ⟨rfl, rfl⟩ := same
    exact lt_irrefl _ less
  · have after : later < seconds ∨ later = seconds ∧ laterMillis < millis := by omega
    exact lt_asymm less (ofSeconds_lt laterSmall small laterFourDigits fourDigits after)

/-- Timestamps follow the calendar for all time.  The days start with 1970, go on date by date,
and no step of their conversion leaves the machine words; the text of an instant reads back as
that instant; and texts with years of four digits are in the order of their instants. -/
theorem ofSeconds_follows_calendar :
    CivilDate.ofDays 0 = { year := 1970, month := 1, day := 1 } ∧
    (∀ days, CivilDate.ofDays (days + 1) = (CivilDate.ofDays days).next) ∧
    (∀ days ≤ Word.largest / 86400,
      CivilDate.ofDaysChecked? days = some (CivilDate.ofDays days)) ∧
    (∀ seconds millis, millis < 1000 →
      read? (ofSeconds seconds millis) = some (seconds, millis)) ∧
    ∀ seconds millis later laterMillis, millis < 1000 → laterMillis < 1000 →
      (CivilDate.ofDays (seconds / 86400)).year ≤ 9999 →
      (CivilDate.ofDays (later / 86400)).year ≤ 9999 →
      (ofSeconds seconds millis < ofSeconds later laterMillis ↔
        seconds < later ∨ seconds = later ∧ millis < laterMillis) :=
  ⟨CivilDate.ofDays_zero, CivilDate.ofDays_succ, fun _ => CivilDate.ofDaysChecked?_eq_some,
    fun seconds _ small => read?_ofSeconds seconds small,
    fun _ _ _ _ small laterSmall => ofSeconds_lt_iff small laterSmall⟩

/-- The last millisecond of the leap day of 2000 and the instant that follows it. -/
theorem ofSeconds_follows_calendar_leap_day :
    CivilDate.ofDaysChecked? 11016 = some { year := 2000, month := 2, day := 29 } ∧
    CivilDate.ofDays (11016 + 1) = { year := 2000, month := 3, day := 1 } ∧
    read? (ofSeconds 951868799 999) = some (951868799, 999) ∧
    ofSeconds 951868799 999 < ofSeconds 951868800 0 := by
  obtain ⟨-, next, checked, read, order⟩ := ofSeconds_follows_calendar
  have date : CivilDate.ofDays 11016 = { year := 2000, month := 2, day := 29 } := by decide
  refine ⟨?_, ?_, read 951868799 999 (by decide), ?_⟩
  · rw [checked 11016 (by decide), date]
  · rw [next, date]
    decide
  · exact (order 951868799 999 951868800 0 (by decide) (by decide) (by decide) (by decide)).mpr
      (.inl (by decide))

end TierHeap.Timestamp
