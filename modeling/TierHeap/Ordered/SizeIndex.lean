/-!
# Ranges by size

A set of ranges in ascending order of their lengths, and of their start addresses among
equal lengths.  The ranges that are long enough for a request form the end of the order.
-/

namespace TierHeap

/-- A range of addresses as the index keeps it. -/
structure SizedRange where
  len : Nat
  start : Nat
  deriving DecidableEq, Repr

/-- Shorter first, and the lower address first among equal lengths. -/
def SizedRange.before
    (first second : SizedRange) : Prop :=
  first.len < second.len ∨ (first.len = second.len ∧ first.start < second.start)

instance (first second : SizedRange) : Decidable (first.before second) :=
  inferInstanceAs (Decidable (_ ∨ _))

theorem SizedRange.before_of_not
    {first second : SizedRange}
    (notBefore : ¬first.before second)
    (different : first ≠ second) :
    second.before first := by
  obtain ⟨firstLen, firstStart⟩ := first
  obtain ⟨secondLen, secondStart⟩ := second
  simp only [SizedRange.before, ne_eq, SizedRange.mk.injEq] at *
  omega

theorem SizedRange.before_trans
    {first second third : SizedRange}
    (firstBefore : first.before second)
    (secondBefore : second.before third) :
    first.before third := by
  simp only [SizedRange.before] at *
  omega

/-- A set of ranges, strictly ascending by length and start. -/
structure SizeIndex where
  ranges : List SizedRange
  ascending : ranges.Pairwise SizedRange.before
  deriving DecidableEq

namespace SizeIndex

instance : Repr SizeIndex where
  reprPrec index := reprPrec index.ranges

def empty : SizeIndex :=
  ⟨[], .nil⟩

instance : Inhabited SizeIndex :=
  ⟨empty⟩

def insertRange (range : SizedRange) : List SizedRange → List SizedRange
  | [] => [range]
  | held :: rest =>
      if range.before held then range :: held :: rest
      else if range = held then held :: rest
      else held :: insertRange range rest

theorem mem_insertRange
    {range held : SizedRange}
    {ranges : List SizedRange} :
    held ∈ insertRange range ranges ↔ held = range ∨ held ∈ ranges := by
  induction ranges with
  | nil => simp [insertRange]
  | cons head rest inductionHypothesis => grind [insertRange]

theorem insertRange_ascending
    (range : SizedRange)
    {ranges : List SizedRange}
    (ascending : ranges.Pairwise SizedRange.before) :
    (insertRange range ranges).Pairwise SizedRange.before := by
  induction ranges with
  | nil => simp [insertRange]
  | cons head rest inductionHypothesis =>
      have ordered := List.pairwise_cons.mp ascending
      simp only [insertRange]
      split
      · rename_i before
        refine List.pairwise_cons.mpr ⟨fun held member => ?_, ascending⟩
        rcases List.mem_cons.mp member with rfl | later
        · exact before
        · exact SizedRange.before_trans before (ordered.1 held later)
      · split
        · exact ascending
        · rename_i notBefore different
          refine List.pairwise_cons.mpr ⟨fun held member => ?_, inductionHypothesis ordered.2⟩
          rcases mem_insertRange.mp member with rfl | later
          · exact SizedRange.before_of_not notBefore different
          · exact ordered.1 held later

def insert
    (index : SizeIndex)
    (range : SizedRange) : SizeIndex :=
  ⟨insertRange range index.ranges, insertRange_ascending range index.ascending⟩

def erase
    (index : SizeIndex)
    (range : SizedRange) : SizeIndex :=
  ⟨index.ranges.filter fun held => held != range, index.ascending.filter _⟩

def atLeast
    (index : SizeIndex)
    (len : Nat) : List SizedRange :=
  index.ranges.dropWhile fun range => range.len < len

/-- The length of the longest range, zero if there is none. -/
def longest (index : SizeIndex) : Nat :=
  match index.ranges.getLast? with
  | some range => range.len
  | none => 0

@[simp]
theorem ranges_empty : empty.ranges = [] :=
  rfl

/-- Adding a range adds it alone. -/
@[simp]
theorem mem_insert
    (index : SizeIndex)
    (range held : SizedRange) :
    held ∈ (index.insert range).ranges ↔ held = range ∨ held ∈ index.ranges :=
  mem_insertRange

/-- Removing a range removes it alone. -/
@[simp]
theorem mem_erase
    (index : SizeIndex)
    (range held : SizedRange) :
    held ∈ (index.erase range).ranges ↔ held ∈ index.ranges ∧ held ≠ range := by
  simp [erase]

/-- No range that is long enough is left out. -/
@[simp]
theorem mem_atLeast
    (index : SizeIndex)
    (len : Nat)
    (held : SizedRange) :
    held ∈ index.atLeast len ↔ held ∈ index.ranges ∧ len ≤ held.len := by
  obtain ⟨ranges, ascending⟩ := index
  simp only [atLeast]
  induction ranges with
  | nil => simp
  | cons head rest inductionHypothesis =>
      have ordered := List.pairwise_cons.mp ascending
      by_cases short : head.len < len
      · rw [List.dropWhile_cons_of_pos (by simpa using short), inductionHypothesis ordered.2,
          List.mem_cons]
        constructor
        · rintro ⟨member, longEnough⟩
          exact ⟨Or.inr member, longEnough⟩
        · rintro ⟨rfl | member, longEnough⟩
          · omega
          · exact ⟨member, longEnough⟩
      · rw [List.dropWhile_cons_of_neg (by simpa using short)]
        have longEnough : ∀ range ∈ head :: rest, len ≤ range.len := by
          intro range member
          rcases List.mem_cons.mp member with rfl | later
          · omega
          · have order := ordered.1 range later
            simp only [SizedRange.before] at order
            omega
        exact ⟨fun member => ⟨member, longEnough held member⟩, And.left⟩

/-- The ranges that are long enough keep their order. -/
theorem atLeast_ascending
    (index : SizeIndex)
    (len : Nat) :
    (index.atLeast len).Pairwise SizedRange.before :=
  index.ascending.sublist (List.dropWhile_sublist _)

end SizeIndex

end TierHeap
