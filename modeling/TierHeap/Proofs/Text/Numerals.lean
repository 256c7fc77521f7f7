import Mathlib.Data.Nat.Digits.Defs
import TierHeap.Text.Digits
import TierHeap.Text.Hex

/-!
# Numerals and numbers

The digits of a number stand for it, also behind leading zeros.  So different numbers have
different numerals, and the number of an address can be read from its text.
-/

namespace TierHeap.Text

theorem digitsValue_eq_ofDigitChars
    (start : Nat)
    (digits : List Char) :
    digitsValue start digits = Nat.ofDigitChars 10 digits start := by
  simp only [digitsValue, Nat.ofDigitChars_eq_foldl, digitValue, Nat.mul_comm]

@[simp]
theorem digitsValue_toDigits (n : Nat) : digitsValue 0 (Nat.toDigits 10 n) = n := by
  rw [digitsValue_eq_ofDigitChars, Nat.ofDigitChars_ten_toDigits]

theorem digitsValue_zeroPad
    (width : Nat)
    (digits : List Char) :
    digitsValue 0 (zeroPad width digits) = digitsValue 0 digits := by
  rw [zeroPad, digitsValue_eq_ofDigitChars, Nat.ofDigitChars_append,
    Nat.ofDigitChars_replicate_zero, Nat.mul_zero, digitsValue_eq_ofDigitChars]

/-- Different numbers have different numerals. -/
theorem decimalPadded_injective (width : Nat) : Function.Injective (decimalPadded width) := by
  intro n m same
  rw [decimalPadded, decimalPadded, String.ofList_inj] at same
  have value := congrArg (digitsValue 0) same
  rwa [digitsValue_zeroPad, digitsValue_zeroPad, digitsValue_toDigits, digitsValue_toDigits]
    at value

theorem isDigit_of_mem_toDigits
    {n : Nat}
    {c : Char}
    (member : c ∈ Nat.toDigits 10 n) :
    c.isDigit = true :=
  Nat.isDigit_of_mem_toDigits (by decide) (by decide) member

theorem isDigit_of_mem_zeroPad
    {width n : Nat}
    {c : Char}
    (member : c ∈ zeroPad width (Nat.toDigits 10 n)) :
    c.isDigit = true := by
  rcases List.mem_append.mp member with zero | digit
  · rw [List.eq_of_mem_replicate zero]
    rfl
  · exact isDigit_of_mem_toDigits digit

theorem length_zeroPad_toDigits
    {width n : Nat}
    (positive : 0 < width)
    (small : n < 10 ^ width) :
    (zeroPad width (Nat.toDigits 10 n)).length = width := by
  have digits := Nat.toDigits_length 10 n width positive small
  rw [zeroPad, List.length_append, List.length_replicate]
  omega

theorem digitsValue_cons
    (c : Char)
    (digits : List Char) :
    digitsValue 0 (c :: digits) = digitValue c * 10 ^ digits.length + digitsValue 0 digits := by
  rw [digitsValue_eq_ofDigitChars, Nat.ofDigitChars_cons,
    Nat.ofDigitChars_eq_ofDigitChars_zero, digitsValue_eq_ofDigitChars, digitValue,
    Nat.mul_zero, Nat.zero_add, Nat.mul_comm]

theorem digitValue_bounds
    {c : Char}
    (isDigit : c.isDigit = true) :
    digitValue c < 10 ∧ c.toNat = '0'.toNat + digitValue c := by
  obtain ⟨low, high⟩ := Char.isDigit_iff_toNat.mp isDigit
  rw [show '9'.toNat = '0'.toNat + 9 from rfl] at high
  rw [digitValue]
  omega

theorem digitsValue_lt
    {digits : List Char}
    (onlyDigits : ∀ c ∈ digits, c.isDigit = true) :
    digitsValue 0 digits < 10 ^ digits.length := by
  induction digits with
  | nil =>
      exact Nat.one_pos
  | cons c digits inductionHypothesis =>
      obtain ⟨first, rest⟩ := List.forall_mem_cons.mp onlyDigits
      have small := (digitValue_bounds first).1
      have restSmall := inductionHypothesis rest
      rw [digitsValue_cons, List.length_cons, Nat.pow_succ]
      calc digitValue c * 10 ^ digits.length + digitsValue 0 digits
          < digitValue c * 10 ^ digits.length + 10 ^ digits.length := by omega
        _ = (digitValue c + 1) * 10 ^ digits.length := by rw [Nat.succ_mul]
        _ ≤ 10 * 10 ^ digits.length := Nat.mul_le_mul_right _ small
        _ = 10 ^ digits.length * 10 := Nat.mul_comm _ _

/-- Numerals with equally many digits are in order as texts when their values are. -/
theorem lt_of_digitsValue_lt
    {digits others : List Char}
    (lengths : digits.length = others.length)
    (onlyDigits : ∀ c ∈ digits, c.isDigit = true)
    (otherDigits : ∀ c ∈ others, c.isDigit = true)
    (less : digitsValue 0 digits < digitsValue 0 others) :
    digits < others := by
  induction digits generalizing others with
  | nil =>
      cases others with
      | nil =>
          exact absurd less (Nat.lt_irrefl _)
      | cons d others =>
          cases lengths
  | cons c digits inductionHypothesis =>
      cases others with
      | nil =>
          cases lengths
      | cons d others =>
          obtain ⟨first, rest⟩ := List.forall_mem_cons.mp onlyDigits
          obtain ⟨otherFirst, otherRest⟩ := List.forall_mem_cons.mp otherDigits
          have sameLength : digits.length = others.length := Nat.succ.inj lengths
          have place := (digitValue_bounds first).2
          have otherPlace := (digitValue_bounds otherFirst).2
          rw [digitsValue_cons, digitsValue_cons, sameLength] at less
          rw [List.cons_lt_cons_iff]
          rcases Nat.lt_trichotomy (digitValue c) (digitValue d) with below | same | above
          · left
            change c.toNat < d.toNat
            omega
          · right
            have sameFirst : c = d := Char.toNat_inj.mp (by omega)
            rw [same] at less
            exact ⟨sameFirst, inductionHypothesis sameLength rest otherRest (by omega)⟩
          · -- A larger first digit outweighs whatever digits follow.
            have small := digitsValue_lt otherRest
            have outweighs :
                (digitValue d + 1) * 10 ^ others.length ≤
                  digitValue c * 10 ^ others.length :=
              Nat.mul_le_mul_right _ above
            rw [Nat.succ_mul] at outweighs
            omega

/-- The number that hexadecimal digits stand for, continuing from `start`. -/
def hexValue?
    (start : Nat)
    (digits : List Char) : Option Nat :=
  digits.foldlM (fun value c => (Hex.digit? c).map (value * 16 + ·)) start

/-- The number of a text of the form that addresses have. -/
def address? (text : String) : Option Nat :=
  match text.toList with
  | '0' :: 'x' :: digits => hexValue? 0 digits
  | _ => none

theorem hexValue?_toDigits (n : Nat) : hexValue? 0 (Nat.toDigits 16 n) = some n := by
  induction n using Nat.strongRecOn with
  | ind n inductionHypothesis =>
      rw [Nat.toDigits_eq_if (by decide)]
      split
      · rename_i small
        simp [hexValue?, Hex.digit?_digitChar small]
      · rename_i large
        have leading := inductionHypothesis (n / 16) (by omega)
        have last := Hex.digit?_digitChar (Nat.mod_lt n (by decide : 0 < 16))
        rw [hexValue?] at leading ⊢
        rw [List.foldlM_append, leading]
        simp [last, Nat.div_add_mod']

/-- An address can be read from its text. -/
theorem address?_address (n : Nat) : address? (address n) = some n := by
  have text : (address n).toList = '0' :: 'x' :: Nat.toDigits 16 n := by
    simp [address, hex]
  rw [address?, text]
  exact hexValue?_toDigits n

theorem hexValue?_zeroPad
    (width : Nat)
    (digits : List Char) :
    hexValue? 0 (zeroPad width digits) = hexValue? 0 digits := by
  have zeros (count : Nat) :
      hexValue? 0 (List.replicate count '0' ++ digits) = hexValue? 0 digits := by
    induction count with
    | zero =>
        rfl
    | succ count inductionHypothesis =>
        rw [← inductionHypothesis, List.replicate_succ, List.cons_append, hexValue?,
          List.foldlM_cons]
        rfl
  exact zeros _

/-- Different numbers have different numerals. -/
theorem hexPadded_injective (width : Nat) : Function.Injective (hexPadded width) := by
  intro n m same
  rw [hexPadded, hexPadded, String.ofList_inj] at same
  have value := congrArg (hexValue? 0) same
  rw [hexValue?_zeroPad, hexValue?_zeroPad, hexValue?_toDigits, hexValue?_toDigits] at value
  exact Option.some.inj value

theorem digit?_isSome_of_hexValue?
    {start value : Nat}
    {digits : List Char}
    (read : hexValue? start digits = some value)
    {c : Char}
    (member : c ∈ digits) :
    (Hex.digit? c).isSome = true := by
  induction digits generalizing start with
  | nil =>
      cases member
  | cons first rest inductionHypothesis =>
      rw [hexValue?, List.foldlM_cons] at read
      obtain ⟨next, taken, readRest⟩ := Option.bind_eq_some_iff.mp read
      rcases List.mem_cons.mp member with rfl | later
      · obtain ⟨digit, found, -⟩ := Option.map_eq_some_iff.mp taken
        exact Option.isSome_iff_exists.mpr ⟨digit, found⟩
      · exact inductionHypothesis readRest later

theorem digit?_isSome_of_mem_hexPadded
    {width n : Nat}
    {c : Char}
    (member : c ∈ (hexPadded width n).toList) :
    (Hex.digit? c).isSome = true := by
  have value := (hexValue?_zeroPad width (Nat.toDigits 16 n)).trans (hexValue?_toDigits n)
  rw [hexPadded, String.toList_ofList] at member
  exact digit?_isSome_of_hexValue? value member

/-- A number that does not take more digits has exactly as many as the width. -/
theorem length_hexPadded
    {width n : Nat}
    (positive : 0 < width)
    (small : n < 16 ^ width) :
    (hexPadded width n).toList.length = width := by
  have digits := Nat.toDigits_length 16 n width positive small
  rw [hexPadded, String.toList_ofList, zeroPad, List.length_append, List.length_replicate]
  omega

end TierHeap.Text
