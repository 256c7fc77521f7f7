import TierHeap.Memory

/-!
# Which bytes a write changes

Filling, copying and writing change the bytes of their range and no others.
-/

namespace TierHeap.Memory

def write
    (memory : Memory)
    (addr : Nat)
    (bytes : List UInt8) : Memory :=
  ⟨fun wanted =>
    if addr ≤ wanted then bytes[wanted - addr]?.getD (memory.byteAt wanted)
    else memory.byteAt wanted⟩

variable (memory : Memory)

theorem byteAt_fill_outside
    {addr len wanted : Nat}
    (outside : ¬(addr ≤ wanted ∧ wanted < addr + len))
    (byte : UInt8) :
    (memory.fill addr len byte).byteAt wanted = memory.byteAt wanted := by
  simp only [fill, if_neg outside]

theorem byteAt_copy_outside
    {target len wanted : Nat}
    (outside : ¬(target ≤ wanted ∧ wanted < target + len))
    (source : Nat) :
    (memory.copy source target len).byteAt wanted = memory.byteAt wanted := by
  simp only [copy, if_neg outside]

theorem byteAt_write_outside
    {addr wanted : Nat}
    {bytes : List UInt8}
    (outside : ¬(addr ≤ wanted ∧ wanted < addr + bytes.length)) :
    (memory.write addr bytes).byteAt wanted = memory.byteAt wanted := by
  simp only [write]
  split
  · rename_i above
    rw [List.getElem?_eq_none (by omega)]
    rfl
  · rfl

theorem byteAt_fill_inside
    {addr len wanted : Nat}
    (inside : addr ≤ wanted ∧ wanted < addr + len)
    (byte : UInt8) :
    (memory.fill addr len byte).byteAt wanted = byte := by
  simp only [fill, if_pos inside]

theorem byteAt_copy_inside
    {len offset : Nat}
    (inside : offset < len)
    (source target : Nat) :
    (memory.copy source target len).byteAt (target + offset) =
      memory.byteAt (source + offset) := by
  have within : target ≤ target + offset ∧ target + offset < target + len := by omega
  simp only [copy, if_pos within, Nat.add_sub_cancel_left]

/-- Writing acts on one byte alike in two memories that agree there. -/
theorem byteAt_write_congr
    {first second : Memory}
    {wanted : Nat}
    (same : first.byteAt wanted = second.byteAt wanted)
    (addr : Nat)
    (bytes : List UInt8) :
    (first.write addr bytes).byteAt wanted = (second.write addr bytes).byteAt wanted := by
  simp only [write, same]

theorem read_congr
    {first second : Memory}
    {source target len : Nat}
    (same : ∀ offset, offset < len →
      first.byteAt (source + offset) = second.byteAt (target + offset)) :
    first.read source len = second.read target len := by
  apply List.map_congr_left
  intro offset member
  exact same offset (List.mem_range.mp member)

theorem read_eq_replicate
    {addr len : Nat}
    {byte : UInt8}
    (same : ∀ offset, offset < len → memory.byteAt (addr + offset) = byte) :
    memory.read addr len = List.replicate len byte := by
  rw [read, List.map_congr_left fun offset member => same offset (List.mem_range.mp member),
    List.map_const', List.length_range]

end TierHeap.Memory
