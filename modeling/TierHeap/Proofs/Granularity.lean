import Mathlib.Tactic.ByContra
import TierHeap.Granularity

/-!
# Rounding and alignment

What rounding up gives, in terms of multiples: `roundUp?` finds the least multiple of a unit
that is at least a number, and `nextMultiple?` the least one from an address on, as long as
that is a word.  Rounding up with a cut at the largest word is the same up to the last page
multiple among the words, and beyond it no page multiple at all.  Alignments up to a page divide
the page and, once raised to a granule, are multiples of it.
-/

namespace TierHeap

/-- Rounding up fails only where the sum with the rest of a unit is no word. -/
theorem roundUp?_eq_some_iff
    {unit n rounded : Nat} :
    roundUp? unit n = some rounded ↔
      n + (unit - 1) < Word.bound ∧ rounded = (n + (unit - 1)) / unit * unit := by
  rw [roundUp?, Option.map_eq_some_iff]
  constructor
  · rintro ⟨padded, sum, rfl⟩
    obtain ⟨fits, rfl⟩ := Word.addChecked?_eq_some_iff.mp sum
    exact ⟨fits, rfl⟩
  · rintro ⟨fits, rfl⟩
    exact ⟨n + (unit - 1), Word.addChecked?_eq_some_iff.mpr ⟨fits, rfl⟩, rfl⟩

/-- Whole pages that a request rounds up to: at least the request, by less than a page. -/
theorem pageAlign?_bounds
    {n rounded : Nat}
    (found : pageAlign? n = some rounded) :
    rounded % pageSize = 0 ∧ n ≤ rounded ∧ rounded < n + pageSize ∧ rounded < Word.bound := by
  obtain ⟨fits, rfl⟩ := roundUp?_eq_some_iff.mp found
  simp only [pageSize, Word.bound] at *
  omega

/-- Whole pages that hold a request hold what it rounds up to. -/
theorem pageAlign?_least
    {n other : Nat}
    (after : n ≤ other)
    (aligned : other % pageSize = 0)
    (fits : other < Word.bound) :
    ∃ rounded, pageAlign? n = some rounded ∧ rounded ≤ other := by
  refine ⟨_, roundUp?_eq_some_iff.mpr ⟨?_, rfl⟩, ?_⟩
  · simp only [pageSize, Word.bound] at *
    omega
  · simp only [pageSize] at *
    omega

theorem pageAlign?_of_aligned
    {n : Nat}
    (aligned : n % pageSize = 0)
    (fits : n < Word.bound) :
    pageAlign? n = some n := by
  obtain ⟨rounded, found, low⟩ := pageAlign?_least (Nat.le_refl n) aligned fits
  obtain ⟨-, high, -, -⟩ := pageAlign?_bounds found
  rw [found, Nat.le_antisymm low high]

/-- Up to the last page multiple among the words, the cut makes no difference. -/
theorem pageAlign?_eq_pageCeilSaturating
    {n : Nat}
    (small : n ≤ Word.bound - pageSize) :
    pageAlign? n = some (pageCeilSaturating n) := by
  rw [pageAlign?, roundUp?_eq_some_iff, pageCeilSaturating, Word.mulSaturating]
  simp only [pageSize, Word.bound, Word.largest] at *
  omega

theorem pageCeilSaturating_of_beyond
    {n : Nat}
    (beyond : Word.bound - pageSize < n) :
    pageCeilSaturating n = Word.largest := by
  simp only [pageCeilSaturating, Word.mulSaturating, pageSize, Word.bound, Word.largest] at *
  omega

theorem granuleAlign?_bounds
    {n rounded : Nat}
    (found : granuleAlign? n = some rounded) :
    rounded % granule = 0 ∧ n ≤ rounded ∧ rounded < n + granule ∧ rounded < Word.bound := by
  obtain ⟨fits, rfl⟩ := roundUp?_eq_some_iff.mp found
  simp only [granule, Word.bound] at *
  omega

theorem pageFloor_bounds (n : Nat) :
    pageFloor n % pageSize = 0 ∧ pageFloor n ≤ n ∧ n < pageFloor n + pageSize := by
  simp only [pageFloor, pageSize]
  omega

/-- The least multiple from an address on. -/
theorem nextMultiple?_bounds
    {addr align start : Nat}
    (positive : 0 < align)
    (found : nextMultiple? addr align = some start) :
    addr ≤ start ∧ start < addr + align ∧ start % align = 0 := by
  unfold nextMultiple? at found
  split at found
  · rename_i aligned
    cases found
    exact ⟨Nat.le_refl addr, by omega, aligned⟩
  · obtain ⟨-, rfl⟩ := Word.addChecked?_eq_some_iff.mp found
    have remainder := Nat.mod_lt addr positive
    refine ⟨Nat.le_add_right _ _, by omega, ?_⟩
    have split := Nat.div_add_mod addr align
    have whole : addr + (align - addr % align) = align * (addr / align + 1) := by
      rw [Nat.mul_add, Nat.mul_one]
      omega
    rw [whole]
    exact Nat.mul_mod_right _ _

/-- Every multiple from the address on is at least the least one; if there is none, every
multiple is beyond the words. -/
theorem nextMultiple?_least
    {addr align other : Nat}
    (after : addr ≤ other)
    (aligned : other % align = 0)
    (fits : other < Word.bound) :
    ∃ start, nextMultiple? addr align = some start ∧ start ≤ other := by
  unfold nextMultiple?
  split
  · exact ⟨addr, rfl, after⟩
  · rename_i unaligned
    have reach : addr + (align - addr % align) ≤ other := by
      obtain ⟨count, rfl⟩ := Nat.dvd_of_mod_eq_zero aligned
      have split := Nat.div_add_mod addr align
      have less : addr / align < count := by
        by_contra notLess
        have enough : align * count ≤ align * (addr / align) :=
          Nat.mul_le_mul_left align (Nat.le_of_not_lt notLess)
        omega
      have enough : align * (addr / align + 1) ≤ align * count :=
        Nat.mul_le_mul_left align less
      rw [Nat.mul_add, Nat.mul_one] at enough
      omega
    exact ⟨_, Word.addChecked?_eq_some_iff.mpr ⟨Nat.lt_of_le_of_lt reach fits, rfl⟩, reach⟩

theorem dvd_max_granule
    {align : Nat}
    (power : isPowerOfTwo align = true) :
    align ∣ max align granule := by
  have value : align = 2 ^ align.log2 := by simpa [isPowerOfTwo] using power
  by_cases large : granule ≤ align
  · exact ⟨1, by rw [Nat.mul_one, Nat.max_eq_left large]⟩
  · rw [Nat.max_eq_right (Nat.le_of_not_le large)]
    have bound : 2 ^ align.log2 < 2 ^ 4 := value ▸ Nat.lt_of_not_le large
    have exponent : align.log2 < 4 := (Nat.pow_lt_pow_iff_right (by decide)).mp bound
    rw [value]
    exact Nat.pow_dvd_pow 2 (Nat.le_of_lt exponent)

/-- What an allocator makes of an alignment: a divisor of the page that is whole granules. -/
theorem alignment_bounds
    {align : Nat}
    (power : isPowerOfTwo align = true)
    (small : align ≤ pageSize) :
    0 < max align granule ∧ max align granule ≤ pageSize ∧
      granule ∣ max align granule ∧ max align granule ∣ pageSize := by
  have value : align = 2 ^ align.log2 := by simpa [isPowerOfTwo] using power
  have exponent : align.log2 ≤ 12 := by
    have bound : 2 ^ align.log2 ≤ 2 ^ 12 := value ▸ small
    exact (Nat.pow_le_pow_iff_right (by decide)).mp bound
  have divides : align ∣ pageSize := by
    rw [value]
    exact Nat.pow_dvd_pow 2 exponent
  refine ⟨Nat.lt_of_lt_of_le (by decide) (Nat.le_max_right align granule),
    Nat.max_le.mpr ⟨small, by decide⟩, ?_⟩
  by_cases large : granule ≤ align
  · rw [Nat.max_eq_left large]
    have bound : 2 ^ 4 ≤ 2 ^ align.log2 := value ▸ large
    have exponentLarge : 4 ≤ align.log2 := (Nat.pow_le_pow_iff_right (by decide)).mp bound
    refine ⟨?_, divides⟩
    rw [value]
    exact Nat.pow_dvd_pow 2 exponentLarge
  · rw [Nat.max_eq_right (Nat.le_of_not_le large)]
    exact ⟨Nat.dvd_refl granule, by decide⟩

end TierHeap
