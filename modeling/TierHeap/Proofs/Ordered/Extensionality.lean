import Mathlib.Data.List.Sort
import TierHeap.Ordered.NatMap
import TierHeap.Ordered.SizeIndex

/-!
# Equal maps and indexes

A map and an index keep what they hold in strictly ascending order, so they are determined by
it: two maps with the same look-ups are equal (`NatMap.ext_find?`), and so are two indexes with
the same ranges (`SizeIndex.ext_mem`).
-/

namespace TierHeap

theorem NatMap.ext_find?
    {α : Type}
    {first second : NatMap α}
    (same : ∀ key, first.find? key = second.find? key) :
    first = second := by
  have members : ∀ entry, entry ∈ first.entries ↔ entry ∈ second.entries := by
    rintro ⟨key, value⟩
    rw [← first.find?_eq_some_iff, ← second.find?_eq_some_iff, same]
  have irreflexive : Std.Irrefl fun first second : Nat × α => first.1 < second.1 :=
    ⟨fun entry => Nat.lt_irrefl entry.1⟩
  have antisymmetric : Std.Antisymm fun first second : Nat × α => first.1 < second.1 :=
    ⟨fun _ _ less greater => absurd less (Nat.lt_asymm greater)⟩
  have entries : first.entries = second.entries :=
    first.ascending.eq_of_mem_iff second.ascending members
  cases first
  cases second
  rw [NatMap.mk.injEq]
  exact entries

namespace SizedRange

theorem before_irrefl (range : SizedRange) : ¬range.before range := by
  simp only [before]
  omega

theorem before_asymm
    {first second : SizedRange}
    (firstBefore : first.before second) :
    ¬second.before first := fun secondBefore =>
  first.before_irrefl (before_trans firstBefore secondBefore)

end SizedRange

theorem SizeIndex.ext_mem
    {first second : SizeIndex}
    (same : ∀ range, range ∈ first.ranges ↔ range ∈ second.ranges) :
    first = second := by
  have irreflexive : Std.Irrefl SizedRange.before := ⟨SizedRange.before_irrefl⟩
  have antisymmetric : Std.Antisymm SizedRange.before :=
    ⟨fun _ _ before after => absurd after (SizedRange.before_asymm before)⟩
  have ranges : first.ranges = second.ranges :=
    first.ascending.eq_of_mem_iff second.ascending same
  cases first
  cases second
  rw [SizeIndex.mk.injEq]
  exact ranges

end TierHeap
