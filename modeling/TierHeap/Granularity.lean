import TierHeap.Word

/-!
# Granules, pages and alignment

Blocks start on a granule and are whole granules long; segments are whole pages.  Rounding
up to either unit fails only where the rounded number would not be a word.
-/

namespace TierHeap

/-- Blocks start on a multiple of this and are a multiple of it long. -/
abbrev granule : Nat := 16

/-- Segments are a multiple of this long. -/
abbrev pageSize : Nat := 4096

/-- The largest request a caller may make: the last granule multiple below `2 ^ 63`. -/
abbrev largestRequest : Nat := 9223372036854775792

/-- Round up to a multiple of the unit, counting on words only. -/
def roundUp?
    (unit n : Nat) : Option Nat :=
  (Word.addChecked? n (unit - 1)).map fun padded => padded / unit * unit

def granuleAlign? (size : Nat) : Option Nat :=
  roundUp? granule size

def pageAlign? (size : Nat) : Option Nat :=
  roundUp? pageSize size

/-- The largest page multiple that is at most `size`. -/
def pageFloor (size : Nat) : Nat :=
  size / pageSize * pageSize

/-- Round up to whole pages, cut at the largest word. -/
def pageCeilSaturating (size : Nat) : Nat :=
  Word.mulSaturating ((size + (pageSize - 1)) / pageSize) pageSize

/-- The least multiple of `align` that is at least `addr`, if it is a word. -/
def nextMultiple?
    (addr align : Nat) : Option Nat :=
  if addr % align = 0 then some addr else Word.addChecked? addr (align - addr % align)

def isPowerOfTwo (n : Nat) : Bool :=
  n == Nat.pow 2 n.log2

end TierHeap
