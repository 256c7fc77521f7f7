import Mathlib.Data.List.Nodup
import TierHeap.Mode

/-!
# The slots of threads

What a thread finds in its slots after it has selected a tier, and what pruning leaves of them.
Slots are kept well (`ThreadSlots.Kept`) if there is at most one for each register and, once a
thread has pruned in the current epoch, none for a register that is gone.
-/

namespace TierHeap

namespace ThreadSlots

variable (slots : ThreadSlots)

def registers : List Nat :=
  slots.tiers.map Prod.fst

theorem find?_eq_none_iff (register : Nat) :
    slots.find? register = none ↔ register ∉ slots.registers := by
  simp only [find?, List.lookup_eq_none_iff, registers, List.mem_map, bne_iff_ne, ne_eq,
    not_exists, not_and]
  exact ⟨fun other slot member same => other slot member same.symm,
    fun other slot member same => other slot member same.symm⟩

theorem lookup_map_select
    (entries : List (Nat × Tier))
    (register wanted : Nat)
    (tier : Tier) :
    (entries.map fun slot => if slot.1 = register then (register, tier) else slot).lookup wanted =
      if wanted = register then (entries.lookup wanted).map fun _ => tier
      else entries.lookup wanted := by
  have keysKept :
      (entries.map fun slot => if slot.1 = register then (register, tier) else slot) =
        entries.map fun slot => if slot.1 = register then (slot.1, tier) else slot := by
    apply List.map_congr_left
    intro slot _
    split
    · rename_i own
      rw [own]
    · rfl
  rw [keysKept]
  exact NatMap.lookup_changeEntries register wanted (fun _ => tier) entries

theorem lookup_filter_of_kept
    (entries : List (Nat × Tier))
    {keeps : Nat → Bool}
    {wanted : Nat}
    (kept : keeps wanted = true) :
    (entries.filter fun slot => keeps slot.1).lookup wanted = entries.lookup wanted := by
  induction entries with
  | nil =>
      rfl
  | cons slot rest inductionHypothesis =>
      obtain ⟨key, held⟩ := slot
      by_cases same : wanted = key
      · subst same
        simp [kept]
      · have differs : (wanted == key) = false := beq_false_of_ne same
        by_cases keepsKey : keeps key = true <;>
          simp [keepsKey, List.lookup_cons, differs, inductionHypothesis]

/-- A thread finds what it has selected, and else what it found before. -/
theorem find?_select
    (register wanted : Nat)
    (tier : Tier) :
    (slots.select register tier).find? wanted =
      if wanted = register then some tier else slots.find? wanted := by
  rw [select]
  split
  · rename_i present
    obtain ⟨held, found⟩ := Option.isSome_iff_exists.mp present
    simp only [find?, lookup_map_select] at found ⊢
    split
    · rename_i same
      rw [same, found]
      rfl
    · rfl
  · rename_i absent
    simp only [find?, Option.not_isSome_iff_eq_none] at absent ⊢
    rw [List.lookup_append]
    by_cases same : wanted = register
    · subst same
      simp [absent]
    · have differs : (wanted == register) = false := beq_false_of_ne same
      simp [List.lookup_cons, differs, same]

theorem registers_select
    (register : Nat)
    (tier : Tier) :
    (slots.select register tier).registers =
      if register ∈ slots.registers then slots.registers else slots.registers ++ [register] := by
  have isSome : (slots.find? register).isSome = true ↔ register ∈ slots.registers := by
    rw [← not_iff_not, ← find?_eq_none_iff, Option.not_isSome_iff_eq_none]
  simp only [select, isSome]
  split
  · simp only [registers, List.map_map]
    apply List.map_congr_left
    intro slot _
    by_cases own : slot.1 = register <;> simp [own]
  · simp [registers]

/-- Pruning takes no slot of a live register. -/
theorem find?_prune
    (epoch : Nat)
    {live : List Nat}
    {register : Nat}
    (alive : register ∈ live) :
    (slots.prune epoch live).find? register = slots.find? register := by
  rw [prune]
  split
  · rfl
  · exact lookup_filter_of_kept _ (List.contains_iff_mem.mpr alive)

theorem registers_prune
    (epoch : Nat)
    (live : List Nat) :
    (slots.prune epoch live).registers.Sublist slots.registers := by
  rw [prune]
  split
  · exact .refl _
  · exact List.filter_sublist.map _

variable {slots}

/-- The slots of a thread are those of registers that were made, one for each at most; if the
thread has pruned since a register was last dropped, they are those of live registers. -/
structure Kept
    (slots : ThreadSlots)
    (bank : RegisterBank) : Prop where
  epoch : slots.epoch ≤ bank.retireEpoch
  nodup : slots.registers.Nodup
  made : ∀ register ∈ slots.registers, register < bank.nextId
  live : slots.epoch = bank.retireEpoch → ∀ register ∈ slots.registers, register ∈ bank.live

namespace Kept

variable {bank : RegisterBank}

theorem prune (kept : slots.Kept bank) :
    (slots.prune bank.retireEpoch bank.live).Kept bank ∧
      ∀ register ∈ (slots.prune bank.retireEpoch bank.live).registers, register ∈ bank.live := by
  have sublist := slots.registers_prune bank.retireEpoch bank.live
  have nodup := kept.nodup.sublist sublist
  have made : ∀ register ∈ (slots.prune bank.retireEpoch bank.live).registers,
      register < bank.nextId :=
    fun register member => kept.made register (sublist.subset member)
  rw [ThreadSlots.prune] at nodup made ⊢
  split at nodup
  · rename_i current
    rw [if_pos current]
    exact ⟨kept, kept.live current.symm⟩
  · rename_i outdated
    rw [if_neg outdated] at made ⊢
    have live : ∀ register ∈ ({ slots with
          epoch := bank.retireEpoch
          tiers := slots.tiers.filter fun slot => bank.live.contains slot.1 } :
            ThreadSlots).registers,
        register ∈ bank.live := by
      intro register member
      obtain ⟨slot, kept, rfl⟩ := List.mem_map.mp member
      exact List.contains_iff_mem.mp (List.mem_filter.mp kept).2
    exact ⟨⟨Nat.le_refl _, nodup, made, fun _ => live⟩, live⟩

theorem select
    (kept : slots.Kept bank)
    {register : Nat}
    (made : register < bank.nextId)
    (alive : register ∈ bank.live)
    (tier : Tier) :
    (slots.select register tier).Kept bank := by
  have sameEpoch : (slots.select register tier).epoch = slots.epoch := by
    rw [ThreadSlots.select]
    split <;> rfl
  have among : ∀ other ∈ (slots.select register tier).registers,
      other ∈ slots.registers ∨ other = register := by
    intro other member
    rw [registers_select] at member
    split at member
    · exact .inl member
    · simpa using member
  refine ⟨?_, ?_, ?_, ?_⟩
  · rw [sameEpoch]
    exact kept.epoch
  · rw [registers_select]
    split
    · exact kept.nodup
    · rename_i absent
      rw [← List.concat_eq_append]
      exact kept.nodup.concat absent
  · intro other member
    rcases among other member with held | rfl
    · exact kept.made other held
    · exact made
  · rw [sameEpoch]
    intro current other member
    rcases among other member with held | rfl
    · exact kept.live current other held
    · exact alive

theorem create
    (kept : slots.Kept bank)
    (scope : ModeScope) :
    slots.Kept (bank.create scope).2 := by
  refine ⟨kept.epoch, kept.nodup, ?_, ?_⟩
  · exact fun register member => Nat.lt_succ_of_lt (kept.made register member)
  · intro current register member
    have alive := kept.live current register member
    cases scope with
    | process =>
        exact alive
    | thread =>
        exact List.mem_cons_of_mem _ alive

/-- The epoch of a drop is new, so that every thread has to prune again. -/
theorem retire
    (kept : slots.Kept bank)
    (register : ModeRegister) :
    slots.Kept (bank.retire register) := by
  have epoch := kept.epoch
  rw [RegisterBank.retire]
  cases register.scope with
  | process =>
      exact kept
  | thread =>
      refine ⟨Nat.le_succ_of_le epoch, kept.nodup, kept.made, fun current => ?_⟩
      simp only at current
      omega

end Kept

end ThreadSlots

namespace RegisterBank

/-- A register that is dropped is no longer live; nothing else that reads look at changes. -/
theorem retire_bank
    (bank : RegisterBank)
    (register : ModeRegister) :
    (bank.retire register).nextId = bank.nextId ∧
      (∀ thread, (bank.retire register).slots thread = bank.slots thread) ∧
        ∀ id, id ∈ (bank.retire register).live ↔
          id ∈ bank.live ∧ (register.scope = .thread → id ≠ register.id) := by
  obtain ⟨id, scope, processTier, enabled, switches⟩ := register
  cases scope with
  | process =>
      simp [retire]
  | thread =>
      refine ⟨rfl, fun _ => rfl, fun other => ?_⟩
      simp [retire]

theorem slots_insert
    (bank : RegisterBank)
    (thread wanted : Nat)
    (slots : ThreadSlots) :
    ({ bank with threads := bank.threads.insert thread slots } : RegisterBank).slots wanted =
      if wanted = thread then slots else bank.slots wanted := by
  simp only [RegisterBank.slots, NatMap.find?_insert]
  split <;> rfl

end RegisterBank

namespace ModeRegister

variable (register : ModeRegister) (bank : RegisterBank)

/-- A set leaves the scope, the number and the indicator of a register as they are. -/
theorem set_register
    (thread : Nat)
    (tier : Tier) :
    (register.set bank thread tier).2.1.scope = register.scope ∧
      (register.set bank thread tier).2.1.id = register.id ∧
        (register.set bank thread tier).2.1.enabled = register.enabled := by
  simp only [set]
  split <;> exact ⟨rfl, rfl, rfl⟩

/-- Whichever tier is selected, it is counted. -/
theorem switches_set
    (thread : Nat)
    (tier : Tier) :
    (register.set bank thread tier).2.1.switches = Word.add register.switches 1 := by
  simp only [set]
  split <;> rfl

/-- A set leaves the numbers of the registers as they are, and all slots well kept. -/
theorem set_bank
    (thread : Nat)
    (tier : Tier) :
    (register.set bank thread tier).2.2.nextId = bank.nextId ∧
      (register.set bank thread tier).2.2.live = bank.live ∧
        (register.id < bank.nextId →
          (register.scope = .thread → register.id ∈ bank.live) →
            (∀ caller, (bank.slots caller).Kept bank) →
              ∀ caller,
                ((register.set bank thread tier).2.2.slots caller).Kept
                  (register.set bank thread tier).2.2) := by
  obtain ⟨id, scope, processTier, enabled, switches⟩ := register
  cases scope with
  | process =>
      exact ⟨rfl, rfl, fun _ _ kept => kept⟩
  | thread =>
      refine ⟨rfl, rfl, fun made alive kept caller => ?_⟩
      have selected := ((kept thread).prune.1.select made (alive rfl) tier)
      simp only [set, RegisterBank.slots_insert]
      split
      · exact ⟨selected.epoch, selected.nodup, selected.made, selected.live⟩
      · exact ⟨(kept caller).epoch, (kept caller).nodup, (kept caller).made, (kept caller).live⟩

/-- A set of a register concerns a thread if the register is for the whole process or the
thread makes the call. -/
def heardBy
    (scope : ModeScope)
    (caller thread : Nat) : Bool :=
  scope = .process || caller = thread

/-- What a thread reads from a register after it has been set. -/
theorem read_set
    (caller thread : Nat)
    (tier : Tier)
    (alive : register.scope = .thread → register.id ∈ bank.live) :
    (register.set bank caller tier).2.1.read (register.set bank caller tier).2.2 thread =
      if heardBy register.scope caller thread then tier else register.read bank thread := by
  obtain ⟨id, scope, processTier, enabled, switches⟩ := register
  cases scope with
  | process =>
      rfl
  | thread =>
      simp only [set, read, RegisterBank.slots_insert, heardBy]
      by_cases own : thread = caller
      · subst own
        simp [ThreadSlots.find?_select]
      · simp [own, Ne.symm own]

/-- What a thread reads from a register after another one has been set. -/
theorem read_set_other
    {other : ModeRegister}
    (different : other.id ≠ register.id)
    (alive : other.scope = .thread → other.id ∈ bank.live)
    (caller thread : Nat)
    (tier : Tier) :
    other.read (register.set bank caller tier).2.2 thread = other.read bank thread := by
  obtain ⟨id, scope, processTier, enabled, switches⟩ := other
  cases scope with
  | process =>
      rfl
  | thread =>
      simp only [set, read]
      split
      · rfl
      · simp only [RegisterBank.slots_insert]
        split
        · rename_i own
          subst own
          rw [ThreadSlots.find?_select, if_neg different, ThreadSlots.find?_prune _ _ (alive rfl)]
        · rfl

/-- No read notices that a register has been dropped. -/
theorem read_retire
    (dropped : ModeRegister)
    (thread : Nat) :
    register.read (bank.retire dropped) thread = register.read bank thread := by
  simp only [read, (bank.retire_bank dropped).2.1]

end ModeRegister

end TierHeap
