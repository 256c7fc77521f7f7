/-!
# Memory contents

The bytes at all addresses, and how ranges of them are read, filled and copied.
-/

namespace TierHeap

structure Memory where
  byteAt : Nat → UInt8

namespace Memory

def blank : Memory :=
  ⟨fun _ => 0⟩

instance : Inhabited Memory :=
  ⟨blank⟩

def read
    (memory : Memory)
    (addr len : Nat) : List UInt8 :=
  (List.range len).map fun offset => memory.byteAt (addr + offset)

def fill
    (memory : Memory)
    (addr len : Nat)
    (byte : UInt8) : Memory :=
  ⟨fun wanted => if addr ≤ wanted ∧ wanted < addr + len then byte else memory.byteAt wanted⟩

/-- Copy a range to another one that it does not overlap. -/
def copy
    (memory : Memory)
    (source target len : Nat) : Memory :=
  ⟨fun wanted =>
    if target ≤ wanted ∧ wanted < target + len then memory.byteAt (source + (wanted - target))
    else memory.byteAt wanted⟩

end Memory

end TierHeap
