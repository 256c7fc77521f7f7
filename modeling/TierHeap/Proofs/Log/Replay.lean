import Mathlib.Algebra.BigOperators.Ring.Finset
import TierHeap.Ordered.NatMap
import TierHeap.Proofs.Log.Appending

/-!
# What a log tells

The records of a log, read in order, tell which blocks there are: an `alloc` brings a block, a
`free` takes one away and a `resize` changes its size.  Replaying them rebuilds the blocks by
address.  A log is truthful when each of these records fits what was told before it and has the
gauges of the blocks just after it.
-/

namespace TierHeap.Log

/-- The sizes and tiers of blocks by address. -/
abbrev Inventory : Type :=
  NatMap (Nat × Tier)

def Inventory.bytes (inventory : Inventory) : Nat :=
  (inventory.values.map Prod.fst).sum

/-- What a record tells of a block, with its size then and its tier. -/
inductive Tale where
  | alloc (addr size : Nat) (tier : Tier)
  | free (addr size : Nat) (tier : Tier)
  | resize (addr size : Nat) (tier : Tier)
  deriving DecidableEq, Repr

/-- What a record tells, read off its kind of event and its particulars. -/
def Record.tale? (record : Record) : Option Tale :=
  match record.event.addr, record.event.size, record.event.tier with
  | some addr, some size, some tier =>
      if record.event.event = "alloc" then some (.alloc addr size tier)
      else if record.event.event = "free" then some (.free addr size tier)
      else if record.event.event = "resize" then some (.resize addr size tier)
      else none
  | _, _, _ => none

namespace Tale

def apply
    (inventory : Inventory) : Tale → Inventory
  | .alloc addr size tier => inventory.insert addr (size, tier)
  | .free addr _ _ => inventory.erase addr
  | .resize addr size _ => inventory.modify addr fun held => (size, held.2)

/-- The tale can be true: a block that comes is new, one that goes or changes is there. -/
def Fits
    (inventory : Inventory) : Tale → Prop
  | .alloc addr _ _ => inventory.find? addr = none
  | .free addr size tier => inventory.find? addr = some (size, tier)
  | .resize addr _ tier => ∃ old, inventory.find? addr = some (old, tier)

end Tale

/-- Take in what a record tells, if anything. -/
def Inventory.take
    (inventory : Inventory)
    (record : Record) : Inventory :=
  match record.tale? with
  | some tale => tale.apply inventory
  | none => inventory

/-- The blocks that records tell of, from none on. -/
def replay (records : List Record) : Inventory :=
  records.foldl Inventory.take .empty

/-- What a record tells fits the inventory before it, and its gauges show the one after it. -/
structure Record.True
    (record : Record)
    (inventory : Inventory) : Prop where
  tale : ∃ tale, record.tale? = some tale ∧ tale.Fits inventory
  liveBlocks : record.liveBlocks = (inventory.take record).size
  outstandingBytes : record.outstandingBytes = (inventory.take record).bytes

/-- Every record that tells of a block is true of what was told before it. -/
def Truthful (records : List Record) : Prop :=
  ∀ before record, before ++ [record] <+: records → record.Tells → record.True (replay before)

theorem Record.tale?_of_silent
    {record : Record}
    (silent : ¬record.Tells) :
    record.tale? = none := by
  have kinds : record.event.event ≠ "alloc" ∧ record.event.event ≠ "free" ∧
      record.event.event ≠ "resize" := by
    simpa [Tells, tellingKinds] using silent
  obtain ⟨notAlloc, notFree, notResize⟩ := kinds
  simp only [tale?, if_neg notAlloc, if_neg notFree, if_neg notResize]
  split <;> rfl

theorem replay_append_singleton
    (records : List Record)
    (record : Record) :
    replay (records ++ [record]) = (replay records).take record := by
  rw [replay, List.foldl_append]
  rfl

theorem replay_append_silent
    (records : List Record)
    {silent : List Record}
    (allSilent : ∀ record ∈ silent, ¬record.Tells) :
    replay (records ++ silent) = replay records := by
  induction silent generalizing records with
  | nil =>
      rw [List.append_nil]
  | cons record rest inductionHypothesis =>
      have skipped : replay (records ++ [record]) = replay records := by
        rw [replay_append_singleton, Inventory.take,
          Record.tale?_of_silent (allSilent record List.mem_cons_self)]
      rw [List.append_cons, inductionHypothesis, skipped]
      exact fun other member => allSilent other (List.mem_cons_of_mem _ member)

theorem truthful_nil : Truthful [] := by
  intro before record isPrefix
  have impossible := List.prefix_nil.mp isPrefix
  simp at impossible

theorem Truthful.append_singleton
    {records : List Record}
    (truthful : Truthful records)
    {record : Record}
    (true : record.Tells → record.True (replay records)) :
    Truthful (records ++ [record]) := by
  intro before other isPrefix tells
  rcases List.prefix_concat_iff.mp isPrefix with whole | earlier
  · obtain ⟨rfl, same⟩ := List.append_inj' whole rfl
    cases same
    exact true tells
  · exact truthful before other earlier tells

theorem Truthful.append_silent
    {records : List Record}
    (truthful : Truthful records)
    {silent : List Record}
    (allSilent : ∀ record ∈ silent, ¬record.Tells) :
    Truthful (records ++ silent) := by
  induction silent generalizing records with
  | nil =>
      rw [List.append_nil]
      exact truthful
  | cons record rest inductionHypothesis =>
      rw [List.append_cons]
      apply inductionHypothesis
      · exact truthful.append_singleton fun tells =>
          absurd tells (allSilent record List.mem_cons_self)
      · exact fun other member => allSilent other (List.mem_cons_of_mem _ member)

end TierHeap.Log
