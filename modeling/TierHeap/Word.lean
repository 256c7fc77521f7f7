/-!
# Machine words

Sizes, addresses and counters are natural numbers below `Word.bound`.  Plain sums and
differences wrap around at the bound; the checked forms report the overflow instead, and
the saturating forms stop at the largest word.  Below the bound the wrapping sum is the
exact one (`add_eq`), and so is the wrapping difference of a larger and a smaller word
(`sub_eq`).
-/

namespace TierHeap.Word

/-- The number of words: every word is below it. -/
abbrev bound : Nat := 18446744073709551616

abbrev largest : Nat := 18446744073709551615

def wrap (n : Nat) : Nat :=
  n % bound

def add
    (a b : Nat) : Nat :=
  (a + b) % bound

def sub
    (a b : Nat) : Nat :=
  (a + (bound - b)) % bound

def addChecked?
    (a b : Nat) : Option Nat :=
  if a + b < bound then some (a + b) else none

def mulChecked?
    (a b : Nat) : Option Nat :=
  if a * b < bound then some (a * b) else none

/-- Product of two words, cut at the largest word. -/
def mulSaturating
    (a b : Nat) : Nat :=
  min (a * b) largest

def sum (words : List Nat) : Nat :=
  words.foldl add 0

theorem add_eq
    {a b : Nat}
    (fits : a + b < bound) :
    add a b = a + b :=
  Nat.mod_eq_of_lt fits

theorem sub_eq
    {a b : Nat}
    (ordered : b ≤ a)
    (aFits : a < bound) :
    sub a b = a - b := by
  simp only [sub, bound] at *
  omega

theorem addChecked?_eq_some_iff
    {a b c : Nat} :
    addChecked? a b = some c ↔ a + b < bound ∧ c = a + b := by
  grind [addChecked?]

theorem mulChecked?_eq_some_iff
    {a b c : Nat} :
    mulChecked? a b = some c ↔ a * b < bound ∧ c = a * b := by
  grind [mulChecked?]

end TierHeap.Word
