import TierHeap.Engine.Basic

/-!
# Engine calls

Allocation carves from the chosen tier, enters the block and counts it.  Release takes the
block out of the table first and returns it to the tier that the block records, whatever the
register says by then.  A refused call changes counters of failures and the log, no more.

Where a call depends on the register, `active` is the tier that the calling thread reads.
-/

namespace TierHeap.Engine

variable {β : Type}

open Log (Event)

/-- Turn the explicit indicator on; the first time is noted. -/
def enableIndicator
    (engine : Engine β)
    (active : Tier) : Engine β :=
  let (first, mode) := engine.mode.enable
  let engine := { engine with mode := mode }
  if first then
    engine.note .info
      ((Event.new "enable_explicit_indicator" "indicator_enabled" "applied").withTier active)
  else
    engine

def switchDetails
    (mode : ModeRegister)
    (previous : Tier) : String :=
  "from=" ++ previous.name ++ " scope=" ++ mode.scope.label ++ " indicator_enabled=" ++
    (if mode.enabled then "true" else "false")

/-- Route the coming allocations of a thread, or of all threads in process scope, to a tier.
The first result is the tier they went to before; a change is noted. -/
def setMode
    (engine : Engine β)
    (bank : RegisterBank)
    (thread : Nat)
    (tier : Tier) : Tier × Engine β × RegisterBank :=
  let (previous, mode, bank) := engine.mode.set bank thread tier
  let engine := { engine with mode := mode }
  if previous = tier then
    (previous, engine, bank)
  else
    (previous,
     engine.note .info
      (((Event.new "set_memory_mode" "mode_switch" "applied").withTier tier).withDetails
        (switchDetails mode previous)),
     bank)

def reserve (size : Nat) : Except RequestError Nat :=
  if size = 0 ∨ largestRequest < size then
    .error (.invalidSize size)
  else
    match granuleAlign? size with
    | some reserved => .ok reserved
    | none => .error (.invalidSize size)

/-- The bytes to set aside for an aligned request; the alignment is checked first. -/
def reserveAligned
    (size align : Nat) : Except RequestError Nat :=
  if isPowerOfTwo align ∧ align ≤ pageSize then
    reserve size
  else
    .error (.invalidAlignment align)

def rejectionEvent : RequestError → String
  | .invalidAlignment _ => "invalid_alignment"
  | _ => "invalid_size"

/-- Count and note a request that is refused before any tier is asked. -/
def reject
    (engine : Engine β)
    (symbol : String)
    (err : RequestError) : Engine β :=
  (engine.count Metrics.onInvalidRequest).note .warn
    ((Event.new symbol (rejectionEvent err) "rejected").withDetails err.message)

/-- A ceiling is worth a warning, a failing backend is an error. -/
def exhaustionLevel : GrowError → Log.Level
  | .capacityExceeded _ _ _ => .warn
  | .backend _ => .error

def exhausted
    (engine : Engine β)
    (symbol : String)
    (tier : Tier)
    (size : Nat)
    (cause : GrowError) : Engine β :=
  (engine.count (·.onOutOfMemory tier)).note (exhaustionLevel cause)
    ((((Event.new symbol "tier_exhausted" "oom").withSize size).withTier tier).withDetails
      cause.message)

def noteDisplaced
    (engine : Engine β)
    (symbol : String) : Option Block → Engine β
  | none => engine
  | some stale =>
      engine.note .error
        ((((Event.new symbol "invariant_stale_block" "overwritten").withAddr stale.addr).withSize
          stale.size).withTier stale.tier)

def noteGrowth
    (engine : Engine β)
    (symbol : String)
    (tier : Tier) : Engine β :=
  let stats := (engine.tiers.get tier).stats
  engine.note .debug
    (((Event.new symbol "arena_grow" "committed").withTier tier).withDetails
      ("committed_bytes=" ++ Text.decimal stats.committedBytes ++ " segments=" ++
        Text.decimal stats.segments))

def noteAllocation
    (engine : Engine β)
    (symbol : String)
    (block : Block) : Engine β :=
  engine.note .trace
    ((((Event.new symbol "alloc" "success").withAddr block.addr).withSize block.size).withTier
      block.tier)

def settle
    (engine : Engine β)
    (symbol : String)
    (tier : Tier)
    (size : Nat)
    (carve : Carve) : Engine β :=
  let block : Block := ⟨carve.addr, size, carve.reserved, tier⟩
  let (displaced, engine) := engine.publish block
  let engine := engine.noteDisplaced symbol displaced
  let engine := engine.count (·.onAllocate tier size carve.grew)
  let engine := if carve.grew then engine.noteGrowth symbol tier else engine
  engine.noteAllocation symbol block

def route
    [Backend β]
    (engine : Engine β)
    (tier : Tier)
    (size align : Nat)
    (symbol : String) : Except RequestError Nat × Engine β :=
  match reserveAligned size align with
  | .error err => (.error err, engine.reject symbol err)
  | .ok reserved =>
      match engine.carve tier reserved align with
      | (.error cause, engine) =>
          (.error (.outOfMemory tier size), engine.exhausted symbol tier size cause)
      | (.ok carve, engine) => (.ok carve.addr, engine.settle symbol tier size carve)

def allocate
    [Backend β]
    (engine : Engine β)
    (active : Tier)
    (size : Nat) : Except RequestError Nat × Engine β :=
  engine.route active size granule "allocate"

def allocateAligned
    [Backend β]
    (engine : Engine β)
    (active : Tier)
    (size align : Nat) : Except RequestError Nat × Engine β :=
  engine.route active size align "allocate_aligned"

def allocateOn
    [Backend β]
    (engine : Engine β)
    (tier : Tier)
    (size : Nat) : Except RequestError Nat × Engine β :=
  engine.route tier size granule "allocate_on"

def allocateOnAligned
    [Backend β]
    (engine : Engine β)
    (tier : Tier)
    (size align : Nat) : Except RequestError Nat × Engine β :=
  engine.route tier size align "allocate_on"

def noteUnknownFree
    (engine : Engine β)
    (addr : Nat) : Engine β :=
  (engine.count Metrics.onUnknownFree).note .warn
    (((Event.new "free" "unknown_address" "rejected").withAddr addr).withDetails
      (if addr = 0 then "null_pointer" else "address_not_in_block_table"))

def noteFree
    (engine : Engine β)
    (active : Tier)
    (block : Block) : Engine β :=
  (engine.count (·.onFree block.tier block.size)).note .trace
    (((((Event.new "free" "free" "success").withAddr block.addr).withSize block.size).withTier
      block.tier).withDetails ("active_mode=" ++ active.name))

/-- Release the block at an address to the tier it came from, which is the result. -/
def free
    (engine : Engine β)
    (active : Tier)
    (addr : Nat) : Except RequestError Tier × Engine β :=
  match engine.withdraw addr with
  | (none, engine) => (.error (.unknownAddress addr), engine.noteUnknownFree addr)
  | (some block, engine) => (.ok block.tier, (engine.giveBack block).noteFree active block)

/-- Resize a block in its tier and in the table, if that needs no move. -/
def resizeBlock?
    (engine : Engine β)
    (block : Block)
    (newSize newReserved : Nat) : Option (Engine β) :=
  ((engine.tiers.get block.tier).resize? block.addr block.reserved newReserved).map
    fun allocator =>
      { engine with
        tiers := engine.tiers.set block.tier allocator
        table := engine.table.modify block.addr fun held =>
          { held with size := newSize, reserved := newReserved } }

/-- Resize the block at an address without moving it.  The result `false` means that the
block is as it was and would have to be moved. -/
def resizeInPlace
    (engine : Engine β)
    (addr newSize : Nat) : Except RequestError Bool × Engine β :=
  match reserve newSize with
  | .error err => (.error err, engine.reject "resize_in_place" err)
  | .ok newReserved =>
      match engine.table.get? addr with
      | none =>
          (.error (.unknownAddress addr),
           engine.note .warn
            ((Event.new "resize_in_place" "unknown_address" "rejected").withAddr addr))
      | some block =>
          match engine.resizeBlock? block newSize newReserved with
          | none =>
              (.ok false,
               engine.note .debug
                (((Event.new "resize_in_place" "resize_blocked" "must_move").withAddr
                  addr).withSize newSize))
          | some engine =>
              (.ok true,
               (engine.count (·.onResize block.tier block.size newSize)).note .trace
                (((((Event.new "resize_in_place" "resize" "success").withAddr addr).withSize
                  newSize).withTier block.tier).withDetails
                  ("old_size=" ++ Text.decimal block.size)))

/-- Trim one tier; a failing release is noted and counts as nothing. -/
def trimTier
    [Backend β]
    (engine : Engine β)
    (tier : Tier) : Nat × Engine β :=
  let (answer, allocator) := (engine.tiers.get tier).trim depth
  let engine := { engine with tiers := engine.tiers.set tier allocator }
  match answer with
  | .ok bytes => (bytes, engine)
  | .error err =>
      (0,
       engine.note .error
        (((Event.new "trim" "release_failed" "kept").withTier tier).withDetails err.message))

/-- Hand idle segments of both tiers back; the result is the number of bytes. -/
def trim
    [Backend β]
    (engine : Engine β) : Nat × Engine β :=
  let engine := engine.count Metrics.onTrim
  let (hostBytes, engine) := engine.trimTier .host
  let (cxlBytes, engine) := engine.trimTier .cxl
  let released := Word.add hostBytes cxlBytes
  (released,
   engine.note .info ((Event.new "trim" "trim" "released").withSize released))

end TierHeap.Engine
