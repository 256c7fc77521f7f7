import Mathlib.Order.Bounds.Defs
import TierHeap.Proofs.Arena.Carving

/-!
# The range that serves a request

The search takes the least of the free ranges that can hold a request, by length and then by
address, and the request starts at the first aligned address in it (`Tiled.findFit?_best`).
Carving takes that range out of the free space and leaves what is before and after the request
in its place; every other free range stays as it was (`Tiled.mem_freeSpans_carveAt`).
-/

namespace TierHeap

/-- What is left of a range before and after a part of it. -/
def Span.remainder (outer inner : Span) : List Span :=
  [⟨outer.start, inner.start - outer.start⟩, ⟨inner.stop, outer.stop - inner.stop⟩].filter
    fun span => 0 < span.len

theorem Span.mem_remainder
    {outer inner span : Span} :
    span ∈ outer.remainder inner ↔
      (span = ⟨outer.start, inner.start - outer.start⟩ ∨
          span = ⟨inner.stop, outer.stop - inner.stop⟩) ∧
        0 < span.len := by
  rw [remainder, List.mem_filter, List.mem_pair, decide_eq_true_eq]

namespace Arena

/-- The range is the least free one, by length and then by address, of those that can hold the
request. -/
structure BestFit
    (arena : Arena)
    (reserved align : Nat)
    (range : Span) : Prop where
  free : range ∈ arena.freeSpans
  holds : range.CanHold reserved align
  least : ∀ other ∈ arena.freeSpans, other.CanHold reserved align →
    range.len < other.len ∨ range.len = other.len ∧ range.start ≤ other.start

namespace Tiled

variable {arena : Arena} {outstanding : List Span}

theorem findFit?_best
    (tiled : arena.Tiled outstanding)
    {reserved align : Nat}
    (positive : 0 < align)
    (small : align ≤ pageSize)
    {fit : Fit}
    (found : arena.findFit? reserved align = some fit) :
    arena.BestFit reserved align ⟨fit.addr, fit.len⟩ := by
  have placed := tiled.findFit?_eq_some positive small found
  refine ⟨mem_freeSpans.mpr placed.free,
    ⟨fit.start, placed.aligned, placed.after, placed.room⟩, ?_⟩
  intro other free canHold
  obtain ⟨shorter, range, longer, whole, fits, refused⟩ := List.findSome?_eq_some_iff.mp found
  have candidate : range ∈ arena.freeBySize.atLeast reserved := by
    rw [whole]
    exact List.mem_append_right _ List.mem_cons_self
  have ordered := arena.freeBySize.atLeast_ascending reserved
  have otherCandidate := tiled.mem_atLeast_of_canHold free canHold
  obtain ⟨indexed, longEnough⟩ := (SizeIndex.mem_atLeast _ _ _).mp candidate
  have member := (tiled.indexed ⟨range.start, range.len⟩).mp indexed
  obtain ⟨sameAddr, sameLen, -⟩ :=
    tiled.fitIn?_eq_some positive small member longEnough fits
  rw [whole] at ordered otherCandidate
  simp only [sameAddr, sameLen]
  -- The search takes the ranges in order and passes over those that cannot hold the request.
  rcases List.mem_append.mp otherCandidate with passed | later
  · have fitsOther := tiled.fitIn?_isSome_of_canHold free canHold
    rw [refused _ passed] at fitsOther
    cases fitsOther
  · rcases List.mem_cons.mp later with same | after
    · rw [← same]
      exact .inr ⟨rfl, Nat.le_refl _⟩
    · have before :=
        (List.pairwise_cons.mp (List.pairwise_append.mp ordered).2.1).1 _ after
      exact before.imp_right fun ⟨sameLength, less⟩ => ⟨sameLength, Nat.le_of_lt less⟩

/-- The request starts at the first aligned address of the range. -/
theorem findFit?_first
    (tiled : arena.Tiled outstanding)
    {reserved align : Nat}
    (positive : 0 < align)
    (small : align ≤ pageSize)
    {fit : Fit}
    (found : arena.findFit? reserved align = some fit) :
    IsLeast {start | start % align = 0 ∧ fit.addr ≤ start} fit.start := by
  have placed := tiled.findFit?_eq_some positive small found
  have free : (⟨fit.addr, fit.len⟩ : Span) ∈ arena.freeSpans := mem_freeSpans.mpr placed.free
  have bound := tiled.stop_lt (tiled.free_inside _ free)
  have room := placed.room
  simp only at bound
  refine ⟨⟨placed.aligned, placed.after⟩, ?_⟩
  rintro start ⟨aligned, after⟩
  by_cases word : start < Word.bound
  · obtain ⟨first, multiple, least⟩ := nextMultiple?_least after aligned word
    rw [findFit?_start found] at multiple
    cases multiple
    exact least
  · omega

theorem find?_carveAt
    (tiled : arena.Tiled outstanding)
    {reserved align : Nat}
    {fit : Fit}
    (fits : arena.FitsIn reserved align fit)
    (start : Nat) :
    (arena.carveAt reserved fit).freeByAddr.find? start =
      if fit.start + reserved < fit.addr + fit.len ∧ start = fit.start + reserved then
        some (fit.addr + fit.len - (fit.start + reserved))
      else if start = fit.addr then
        if fit.addr < fit.start then some (fit.start - fit.addr) else none
      else
        arena.freeByAddr.find? start := by
  obtain ⟨found, after, room, -⟩ := fits
  have bound := tiled.stop_lt (tiled.free_inside ⟨fit.addr, fit.len⟩ (mem_freeSpans.mpr found))
  simp only at bound
  have stop : Word.add fit.start reserved = fit.start + reserved := Word.add_eq (by omega)
  have tail :
      Word.sub (Word.add fit.addr fit.len) (fit.start + reserved) =
        fit.addr + fit.len - (fit.start + reserved) := by
    rw [Word.add_eq bound, Word.sub_eq room bound]
  simp only [Arena.carveAt, stop, tail, Nat.sub_pos_iff_lt]
  split <;> split <;> simp_all [addRange, dropRange]

/-- The range that serves a request leaves the free space but for what is before and after the
request; the other free ranges stay. -/
theorem mem_freeSpans_carveAt
    (tiled : arena.Tiled outstanding)
    {reserved align : Nat}
    (positive : 0 < reserved)
    {fit : Fit}
    (fits : arena.FitsIn reserved align fit)
    {span : Span} :
    span ∈ (arena.carveAt reserved fit).freeSpans ↔
      span ∈ Span.remainder ⟨fit.addr, fit.len⟩ ⟨fit.start, reserved⟩ ∨
        span ∈ arena.freeSpans ∧ span ≠ ⟨fit.addr, fit.len⟩ := by
  have free : (⟨fit.addr, fit.len⟩ : Span) ∈ arena.freeSpans := mem_freeSpans.mpr fits.free
  have after := fits.after
  have room := fits.room
  -- The range around the request covers where the request ends, so no other range starts there.
  have covered : fit.start + reserved < fit.addr + fit.len →
      arena.freeByAddr.find? (fit.start + reserved) = none := by
    intro hasTail
    by_contra present
    obtain ⟨len, found⟩ := Option.ne_none_iff_exists'.mp present
    have member : (⟨fit.start + reserved, len⟩ : Span) ∈ arena.freeSpans :=
      mem_freeSpans.mpr found
    have inRange : (⟨fit.addr, fit.len⟩ : Span).has (fit.start + reserved) = true := by
      simp only [Span.has_iff]
      omega
    have same := tiled.free_eq member free
      (Span.has_start _ (tiled.free_inside _ member).nonempty) inRange
    simp only [Span.mk.injEq] at same
    omega
  have entry := fits.free
  obtain ⟨start, len⟩ := span
  rw [mem_freeSpans, tiled.find?_carveAt fits, Span.mem_remainder, mem_freeSpans]
  simp only [Span.stop, Span.mk.injEq, ne_eq]
  grind

end Tiled

end Arena

end TierHeap
