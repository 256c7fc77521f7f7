import Mathlib.Data.Int.ModEq
import TierHeap.Word

/-!
# Sums of words

A sum of words is exact when the exact sum is a word.  The checked forms then give it, and the
checked difference gives the exact one when nothing is taken below zero.
-/

namespace TierHeap.Word

def subChecked?
    (a b : Nat) : Option Nat :=
  if b ≤ a then some (a - b) else none

theorem subChecked?_of_le
    {a b : Nat}
    (ordered : b ≤ a) :
    subChecked? a b = some (a - b) :=
  if_pos ordered

theorem addChecked?_of_lt
    {a b : Nat}
    (fits : a + b < bound) :
    addChecked? a b = some (a + b) :=
  if_pos fits

theorem mulChecked?_of_lt
    {a b : Nat}
    (fits : a * b < bound) :
    mulChecked? a b = some (a * b) :=
  if_pos fits

def sumChecked? (words : List Nat) : Option Nat :=
  words.foldlM addChecked? 0

theorem foldl_add_eq
    {words : List Nat}
    {start : Nat}
    (fits : start + words.sum < bound) :
    words.foldl add start = start + words.sum := by
  induction words generalizing start with
  | nil =>
      rfl
  | cons word rest inductionHypothesis =>
      rw [List.sum_cons] at fits
      rw [List.foldl_cons, add_eq (by omega), inductionHypothesis (by omega), List.sum_cons,
        Nat.add_assoc]

theorem sum_eq
    {words : List Nat}
    (fits : words.sum < bound) :
    sum words = words.sum := by
  rw [sum, foldl_add_eq (by omega), Nat.zero_add]

theorem foldlM_addChecked?_eq
    {words : List Nat}
    {start : Nat}
    (fits : start + words.sum < bound) :
    words.foldlM addChecked? start = some (words.foldl add start) := by
  induction words generalizing start with
  | nil =>
      rfl
  | cons word rest inductionHypothesis =>
      rw [List.sum_cons] at fits
      rw [List.foldlM_cons, addChecked?_of_lt (by omega), List.foldl_cons, add_eq (by omega)]
      exact inductionHypothesis (by omega)

theorem sumChecked?_eq
    {words : List Nat}
    (fits : words.sum < bound) :
    sumChecked? words = some (sum words) :=
  foldlM_addChecked?_eq (by omega)

end TierHeap.Word
