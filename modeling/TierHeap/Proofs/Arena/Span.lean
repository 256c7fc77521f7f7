import Mathlib.Algebra.BigOperators.Ring.Finset
import Mathlib.Algebra.Order.BigOperators.Group.Finset
import Mathlib.Order.Interval.Finset.Nat
import TierHeap.Segment

/-!
# Ranges of addresses

A span is a range of addresses with exact arithmetic.  What a collection of spans does to
memory is told by `cover`, the number of spans that an address lies in: spans that share no
address cover every address at most once (`pairwise_apart_of_cover_le_one`), and the cover
of all addresses adds up to the total length (`sum_cover`).
-/

namespace TierHeap

/-- A range of addresses. -/
structure Span where
  start : Nat
  len : Nat
  deriving DecidableEq, Repr

namespace Span

/-- One past the last address, without wrapping around. -/
def stop (span : Span) : Nat :=
  span.start + span.len

def has
    (span : Span)
    (addr : Nat) : Bool :=
  span.start ≤ addr && addr < span.stop

/-- One span ends before the other starts. -/
def Apart
    (first second : Span) : Prop :=
  first.stop ≤ second.start ∨ second.stop ≤ first.start

instance (first second : Span) : Decidable (first.Apart second) :=
  inferInstanceAs (Decidable (_ ∨ _))

/-- The first span is a part of the second. -/
def Within
    (inner outer : Span) : Prop :=
  outer.start ≤ inner.start ∧ inner.stop ≤ outer.stop

instance (inner outer : Span) : Decidable (inner.Within outer) :=
  inferInstanceAs (Decidable (_ ∧ _))

def total (spans : List Span) : Nat :=
  (spans.map len).sum

/-- How many of the spans an address lies in. -/
def cover
    (spans : List Span)
    (addr : Nat) : Nat :=
  spans.countP fun span => span.has addr

theorem has_iff
    {span : Span}
    {addr : Nat} :
    span.has addr = true ↔ span.start ≤ addr ∧ addr < span.start + span.len := by
  rw [has, Bool.and_eq_true, decide_eq_true_eq, decide_eq_true_eq, stop]

theorem has_start
    (span : Span)
    (nonempty : 0 < span.len) :
    span.has span.start = true := by
  rw [has_iff]
  omega

theorem has_of_within
    {inner outer : Span}
    (within : inner.Within outer)
    {addr : Nat}
    (member : inner.has addr = true) :
    outer.has addr = true := by
  simp only [has_iff, Within, stop] at *
  omega

theorem Within.refl (span : Span) : span.Within span :=
  ⟨Nat.le_refl _, Nat.le_refl _⟩

theorem Within.trans
    {inner middle outer : Span}
    (within : inner.Within middle)
    (middleWithin : middle.Within outer) :
    inner.Within outer :=
  ⟨Nat.le_trans middleWithin.1 within.1, Nat.le_trans within.2 middleWithin.2⟩

theorem Within.antisymm
    {first second : Span}
    (within : first.Within second)
    (contains : second.Within first) :
    first = second := by
  obtain ⟨start, len⟩ := first
  obtain ⟨otherStart, otherLen⟩ := second
  simp only [Within, stop, Span.mk.injEq] at *
  omega

theorem Apart.symm
    {first second : Span}
    (apart : first.Apart second) :
    second.Apart first :=
  Or.symm apart

instance : Std.Symm Apart :=
  ⟨fun _ _ => Apart.symm⟩

theorem not_has_of_apart
    {first second : Span}
    (apart : first.Apart second)
    {addr : Nat}
    (member : first.has addr = true) :
    ¬second.has addr = true := by
  simp only [has_iff, Apart, stop] at *
  omega

theorem exists_common_of_not_apart
    {first second : Span}
    (firstNonempty : 0 < first.len)
    (secondNonempty : 0 < second.len)
    (overlap : ¬first.Apart second) :
    ∃ addr, first.has addr = true ∧ second.has addr = true := by
  refine ⟨max first.start second.start, ?_⟩
  simp only [has_iff, Apart, stop] at *
  omega

@[simp]
theorem cover_nil (addr : Nat) : cover [] addr = 0 :=
  rfl

theorem cover_cons
    (span : Span)
    (spans : List Span)
    (addr : Nat) :
    cover (span :: spans) addr = cover spans addr + if span.has addr then 1 else 0 :=
  List.countP_cons

@[simp]
theorem cover_append
    (first second : List Span)
    (addr : Nat) :
    cover (first ++ second) addr = cover first addr + cover second addr :=
  List.countP_append

theorem cover_perm
    {first second : List Span}
    (same : first.Perm second)
    (addr : Nat) :
    cover first addr = cover second addr :=
  same.countP_eq _

theorem cover_pos_of_mem
    {spans : List Span}
    {span : Span}
    (member : span ∈ spans)
    {addr : Nat}
    (inside : span.has addr = true) :
    0 < cover spans addr :=
  List.countP_pos_iff.mpr ⟨span, member, inside⟩

theorem cover_eq_zero
    {spans : List Span}
    {addr : Nat}
    (outside : ∀ span ∈ spans, ¬span.has addr = true) :
    cover spans addr = 0 :=
  List.countP_eq_zero.mpr outside

/-- A span covers what its two parts cover. -/
theorem cover_split
    (start first second : Nat)
    (spans : List Span)
    (addr : Nat) :
    cover (⟨start, first⟩ :: ⟨start + first, second⟩ :: spans) addr =
      cover (⟨start, first + second⟩ :: spans) addr := by
  simp only [cover_cons, has_iff]
  split <;> split <;> split <;> omega

theorem pairwise_apart_of_cover_le_one
    {spans : List Span}
    (nonempty : ∀ span ∈ spans, 0 < span.len)
    (once : ∀ addr, cover spans addr ≤ 1) :
    spans.Pairwise Apart := by
  induction spans with
  | nil =>
      exact .nil
  | cons head rest inductionHypothesis =>
      have restNonempty : ∀ span ∈ rest, 0 < span.len := fun span member =>
        nonempty span (List.mem_cons_of_mem head member)
      have restOnce : ∀ addr, cover rest addr ≤ 1 := by
        intro addr
        have bound := once addr
        rw [cover_cons] at bound
        omega
      refine List.pairwise_cons.mpr ⟨?_, inductionHypothesis restNonempty restOnce⟩
      intro span member
      by_contra overlap
      obtain ⟨addr, inHead, inSpan⟩ :=
        exists_common_of_not_apart (nonempty head List.mem_cons_self)
          (restNonempty span member) overlap
      have bound := once addr
      rw [cover_cons, if_pos inHead] at bound
      have covered := cover_pos_of_mem member inSpan
      omega

theorem cover_le_one_of_pairwise_apart
    {spans : List Span}
    (apart : spans.Pairwise Apart)
    (addr : Nat) :
    cover spans addr ≤ 1 := by
  induction spans with
  | nil =>
      exact Nat.zero_le 1
  | cons head rest inductionHypothesis =>
      obtain ⟨headApart, restApart⟩ := List.pairwise_cons.mp apart
      rw [cover_cons]
      by_cases inHead : head.has addr = true
      · have outside : cover rest addr = 0 :=
          cover_eq_zero fun span member => not_has_of_apart (headApart span member) inHead
        rw [outside, if_pos inHead]
      · rw [if_neg inHead]
        exact inductionHypothesis restApart

/-- An address that two spans of a collection have in common is covered twice, unless the
two are the same one. -/
theorem eq_of_cover_le_one
    {spans : List Span}
    {addr : Nat}
    (once : cover spans addr ≤ 1)
    {first second : Span}
    (firstMember : first ∈ spans)
    (secondMember : second ∈ spans)
    (inFirst : first.has addr = true)
    (inSecond : second.has addr = true) :
    first = second := by
  by_contra different
  have rest := List.perm_cons_erase firstMember
  have secondLater : second ∈ spans.erase first :=
    (List.mem_erase_of_ne (Ne.symm different)).mpr secondMember
  have later := cover_pos_of_mem secondLater inSecond
  rw [cover_perm rest, cover_cons, if_pos inFirst] at once
  omega

@[simp]
theorem total_nil : total [] = 0 :=
  rfl

@[simp]
theorem total_cons
    (span : Span)
    (spans : List Span) :
    total (span :: spans) = span.len + total spans := by
  simp [total]

@[simp]
theorem total_append
    (first second : List Span) :
    total (first ++ second) = total first + total second := by
  simp [total]

theorem total_perm
    {first second : List Span}
    (same : first.Perm second) :
    total first = total second :=
  (same.map len).sum_eq

theorem len_le_total
    {span : Span}
    {spans : List Span}
    (member : span ∈ spans) :
    span.len ≤ total spans :=
  List.le_sum_of_mem (List.mem_map_of_mem member)

theorem length_le_total
    {spans : List Span}
    (nonempty : ∀ span ∈ spans, 0 < span.len) :
    spans.length ≤ total spans := by
  induction spans with
  | nil =>
      exact Nat.le_refl 0
  | cons span spans inductionHypothesis =>
      obtain ⟨first, rest⟩ := List.forall_mem_cons.mp nonempty
      have shorter := inductionHypothesis rest
      rw [List.length_cons, total_cons]
      omega

/-- Every address below a limit, counted as often as it is covered, adds up to the total
length of spans below that limit. -/
theorem sum_cover
    {spans : List Span}
    {limit : Nat}
    (below : ∀ span ∈ spans, span.start + span.len ≤ limit) :
    ∑ addr ∈ Finset.range limit, cover spans addr = total spans := by
  induction spans with
  | nil =>
      simp
  | cons head rest inductionHypothesis =>
      have restBelow : ∀ span ∈ rest, span.start + span.len ≤ limit := fun span member =>
        below span (List.mem_cons_of_mem head member)
      have headBelow := below head List.mem_cons_self
      have inHead :
          (Finset.range limit).filter (fun addr => head.has addr = true) =
            Finset.Ico head.start (head.start + head.len) := by
        ext addr
        simp only [Finset.mem_filter, Finset.mem_range, Finset.mem_Ico, has_iff]
        omega
      simp only [cover_cons, Finset.sum_add_distrib, inductionHypothesis restBelow,
        Finset.sum_boole, inHead, Nat.card_Ico, total_cons]
      simp [Nat.add_comm]

theorem total_le_of_cover_le_one
    {spans : List Span}
    {limit : Nat}
    (below : ∀ span ∈ spans, span.start + span.len ≤ limit)
    (once : ∀ addr, cover spans addr ≤ 1) :
    total spans ≤ limit := by
  rw [← sum_cover below]
  calc
    ∑ addr ∈ Finset.range limit, cover spans addr ≤ ∑ _addr ∈ Finset.range limit, 1 :=
      Finset.sum_le_sum fun addr _ => once addr
    _ = limit := by simp

/-- Collections that cover every address equally often are equally long. -/
theorem total_eq_of_cover_eq
    (limit : Nat)
    {first second : List Span}
    (same : ∀ addr, cover first addr = cover second addr)
    (firstBelow : ∀ span ∈ first, span.start + span.len ≤ limit)
    (secondBelow : ∀ span ∈ second, span.start + span.len ≤ limit) :
    total first = total second := by
  rw [← sum_cover firstBelow, ← sum_cover secondBelow]
  exact Finset.sum_congr rfl fun addr _ => same addr

end Span

def Segment.span (segment : Segment) : Span :=
  ⟨segment.base, segment.len⟩

end TierHeap
