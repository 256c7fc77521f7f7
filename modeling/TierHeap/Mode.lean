import TierHeap.Config.Basic
import TierHeap.Ordered.NatMap
import TierHeap.Word

/-!
# Mode registers

A register says which tier the next allocation comes from.  In process scope it holds one
tier for all threads.  In thread scope every thread keeps a slot of its own for each
register it has set, and a thread without a slot reads the host tier.

Slots outlive their register until the thread that holds them next sets one: it then drops
the slots of registers that are gone.  `RegisterBank` is what all registers of a process
share: the registers alive and the slots of each thread.
-/

namespace TierHeap

/-- The tiers a thread has selected, by register, and the epoch of its last pruning. -/
structure ThreadSlots where
  epoch : Nat
  tiers : List (Nat × Tier)
  deriving DecidableEq, Repr, Inhabited

namespace ThreadSlots

def fresh : ThreadSlots :=
  ⟨0, []⟩

def find?
    (slots : ThreadSlots)
    (register : Nat) : Option Tier :=
  slots.tiers.lookup register

/-- Keep only the slots of live registers, once per epoch. -/
def prune
    (slots : ThreadSlots)
    (epoch : Nat)
    (live : List Nat) : ThreadSlots :=
  if epoch = slots.epoch then slots
  else ⟨epoch, slots.tiers.filter fun slot => live.contains slot.1⟩

/-- Select a tier for a register: in its slot, or in a new slot at the end. -/
def select
    (slots : ThreadSlots)
    (register : Nat)
    (tier : Tier) : ThreadSlots :=
  if (slots.find? register).isSome then
    { slots with
      tiers := slots.tiers.map fun slot => if slot.1 = register then (register, tier) else slot }
  else
    { slots with tiers := slots.tiers ++ [(register, tier)] }

end ThreadSlots

/-- What the registers of a process share. -/
structure RegisterBank where
  /-- The number the next register gets. -/
  nextId : Nat
  /-- The numbers of the thread-scoped registers that are alive. -/
  live : List Nat
  /-- How often a thread-scoped register has been dropped. -/
  retireEpoch : Nat
  /-- The slots of each thread. -/
  threads : NatMap ThreadSlots
  deriving DecidableEq, Repr

/-- A register for the active tier, with the flag of the explicit indicator. -/
structure ModeRegister where
  id : Nat
  scope : ModeScope
  /-- The tier in process scope. -/
  processTier : Tier
  enabled : Bool
  /-- How often a tier has been set. -/
  switches : Nat
  deriving DecidableEq, Repr, Inhabited

namespace RegisterBank

def initial : RegisterBank :=
  ⟨1, [], 0, .empty⟩

instance : Inhabited RegisterBank :=
  ⟨initial⟩

def slots
    (bank : RegisterBank)
    (thread : Nat) : ThreadSlots :=
  (bank.threads.find? thread).getD .fresh

def create
    (bank : RegisterBank)
    (scope : ModeScope) : ModeRegister × RegisterBank :=
  let live :=
    match scope with
    | .process => bank.live
    | .thread => bank.nextId :: bank.live
  (⟨bank.nextId, scope, .host, false, 0⟩, { bank with nextId := bank.nextId + 1, live := live })

/-- Drop a register; its slots are dropped by their threads later. -/
def retire
    (bank : RegisterBank)
    (register : ModeRegister) : RegisterBank :=
  match register.scope with
  | .process => bank
  | .thread =>
      { bank with
        live := bank.live.filter fun id => id != register.id
        retireEpoch := bank.retireEpoch + 1 }

end RegisterBank

namespace ModeRegister

/-- The tier that the next allocation of a thread comes from. -/
def read
    (register : ModeRegister)
    (bank : RegisterBank)
    (thread : Nat) : Tier :=
  match register.scope with
  | .process => register.processTier
  | .thread => ((bank.slots thread).find? register.id).getD .host

/-- Select a tier; the first result is the tier that was selected before. -/
def set
    (register : ModeRegister)
    (bank : RegisterBank)
    (thread : Nat)
    (tier : Tier) : Tier × ModeRegister × RegisterBank :=
  let register := { register with switches := Word.add register.switches 1 }
  match register.scope with
  | .process => (register.processTier, { register with processTier := tier }, bank)
  | .thread =>
      let slots := (bank.slots thread).prune bank.retireEpoch bank.live
      let previous := (slots.find? register.id).getD .host
      (previous, register,
       { bank with threads := bank.threads.insert thread (slots.select register.id tier) })

/-- Turn the explicit indicator on; the first result says whether it was off. -/
def enable (register : ModeRegister) : Bool × ModeRegister :=
  (!register.enabled, { register with enabled := true })

end ModeRegister

end TierHeap
