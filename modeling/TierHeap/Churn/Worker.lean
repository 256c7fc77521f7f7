import TierHeap.Engine.Session

/-!
# Churn workers

A worker keeps a bounded list of live blocks, and at random allocates another one or frees
one of them; at the end it frees the rest.  With thread-scoped modes it selects the tier in
the register first, otherwise it pins the tier in the call.  A worker is advanced one engine
call at a time, so that the calls of several workers can be interleaved.
-/

namespace TierHeap.Churn

structure Plan where
  threads : Nat
  opsPerThread : Nat
  /-- The largest size of a request. -/
  maxSize : Nat
  /-- The share of allocations aimed at CXL, in percent. -/
  cxlPercent : Nat
  /-- How many live blocks a worker may hold. -/
  maxLivePerThread : Nat
  seed : UInt64
  deriving DecidableEq, Repr

namespace Plan

def standard : Plan :=
  ⟨4, 10000, 4096, 50, 256, 0x5eed71354e4d0001⟩

end Plan

/-- The next state of the generator, which is also its next number. -/
def nextRandom (state : UInt64) : UInt64 :=
  let x := state ^^^ (state <<< 13)
  let x := x ^^^ (x >>> 7)
  x ^^^ (x <<< 17)

/-- The start of a generator: a zero, which it would never leave, counts as one. -/
def startRandom (seed : UInt64) : UInt64 :=
  if seed = 0 then 1 else seed

def workerSeed
    (plan : Plan)
    (index : Nat) : UInt64 :=
  plan.seed ^^^ (UInt64.ofNat index * 0x9e3779b97f4a7c15)

structure TierTally where
  allocations : Nat
  frees : Nat
  outOfMemory : Nat
  deriving DecidableEq, Repr, Inhabited

structure Tally where
  tiers : PerTier TierTally
  /-- Frees whose block was on another tier than asked for. -/
  tierMismatches : Nat
  unknownFrees : Nat
  /-- The largest number of blocks held at a time. -/
  peakLive : Nat
  deriving DecidableEq, Repr, Inhabited

namespace Tally

def zero : Tally :=
  ⟨.both ⟨0, 0, 0⟩, 0, 0, 0⟩

def countAllocation
    (tally : Tally)
    (tier : Tier)
    (held : Nat) : Tally :=
  { tally with
    tiers :=
      tally.tiers.modify tier fun outcomes =>
        { outcomes with allocations := outcomes.allocations + 1 }
    peakLive := max tally.peakLive held }

def countOutOfMemory
    (tally : Tally)
    (tier : Tier) : Tally :=
  { tally with
    tiers :=
      tally.tiers.modify tier fun outcomes =>
        { outcomes with outOfMemory := outcomes.outOfMemory + 1 } }

/-- Count the reply to the free of a block that was asked for on a tier. -/
def countFree
    (tally : Tally)
    (expected : Tier) : Reply → Tally
  | .freed recorded =>
      { tally with
        tiers :=
          tally.tiers.modify recorded fun outcomes =>
            { outcomes with frees := outcomes.frees + 1 }
        tierMismatches := tally.tierMismatches + (if recorded = expected then 0 else 1) }
  | _ => { tally with unknownFrees := tally.unknownFrees + 1 }

end Tally

/-- A worker between two engine calls. -/
structure Worker where
  random : UInt64
  opsLeft : Nat
  /-- The live blocks with the tiers they were asked for on. -/
  live : List (Nat × Tier)
  tally : Tally
  /-- The tier and size of a request whose tier has just been selected. -/
  pending : Option (Tier × Nat)
  /-- Why the worker gave up, if it did. -/
  failed : Option RequestError
  deriving DecidableEq, Repr

namespace Worker

def start
    (plan : Plan)
    (index : Nat) : Worker :=
  ⟨startRandom (workerSeed plan index), plan.opsPerThread, [], .zero, none, none⟩

def receiveAllocation
    (worker : Worker)
    (tier : Tier) : Reply → Worker
  | .address addr =>
      let live := worker.live ++ [(addr, tier)]
      { worker with
        pending := none
        live := live
        tally := worker.tally.countAllocation tier live.length }
  | .refused (.outOfMemory exhausted _) =>
      { worker with pending := none, tally := worker.tally.countOutOfMemory exhausted }
  | .refused err => { worker with pending := none, failed := some err }
  | _ => { worker with pending := none }

/-- Take in the reply to the free of a block asked for on a tier. -/
def receiveFree
    (worker : Worker)
    (tier : Tier)
    (reply : Reply) : Worker :=
  { worker with tally := worker.tally.countFree tier reply }

def chosenTier
    (plan : Plan)
    (random : UInt64) : Tier :=
  if ((random >>> 8) % 100).toNat < plan.cxlPercent then .cxl else .host

def chosenSize
    (plan : Plan)
    (random : UInt64) : Nat :=
  1 + (random >>> 16).toNat % max plan.maxSize 1

/-- A random number asks for an allocation: always without blocks, never at the limit, and
in two of three cases otherwise. -/
def wantsAllocation
    (plan : Plan)
    (random : UInt64)
    (held : Nat) : Bool :=
  held == 0 || (held < plan.maxLivePerThread && random % 3 != 0)

/-- The list without one entry; the last one takes its place. -/
def swapRemove
    (live : List (Nat × Tier))
    (index : Nat) : List (Nat × Tier) :=
  match live.getLast? with
  | none => []
  | some last => (live.set index last).dropLast

/-- A call with what the worker does with the reply. -/
abbrev Request := Call × (Reply → Worker)

def freeAt
    (worker : Worker)
    (index : Nat) : Option Request :=
  worker.live[index]?.map fun (addr, tier) =>
    (.free addr,
     { worker with live := swapRemove worker.live index }.receiveFree tier)

/-- Allocate on a tier: by a pinned call, or by selecting the tier first. -/
def allocateOn
    (worker : Worker)
    (scope : ModeScope)
    (tier : Tier)
    (size : Nat) : Request :=
  match scope with
  | .thread => (.setMode tier, fun _ => { worker with pending := some (tier, size) })
  | .process => (.allocateOn tier size, worker.receiveAllocation tier)

def drain (worker : Worker) : Option Request :=
  match worker.live with
  | [] => none
  | (addr, tier) :: rest => some (.free addr, { worker with live := rest }.receiveFree tier)

/-- The next call of a worker, or `none` when it has finished. -/
def next?
    (plan : Plan)
    (scope : ModeScope)
    (worker : Worker) : Option Request :=
  if worker.failed.isSome then
    none
  else
    match worker.pending, worker.opsLeft with
    | some (tier, size), _ => some (.allocate size, worker.receiveAllocation tier)
    | none, 0 => worker.drain
    | none, opsLeft + 1 =>
        let random := nextRandom worker.random
        let worker := { worker with random := random, opsLeft := opsLeft }
        if wantsAllocation plan random worker.live.length then
          some
            (worker.allocateOn scope (chosenTier plan random) (chosenSize plan random))
        else
          worker.freeAt ((random >>> 24).toNat % worker.live.length)

end Worker

end TierHeap.Churn
