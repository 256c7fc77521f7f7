import TierHeap.Proofs.Allocator.Checked
import TierHeap.Proofs.Engine.Granting
import TierHeap.Proofs.Engine.Trimming

/-!
# Calls whose sums are checked

The checked forms of an engine's steps give up where those of its allocators do, and where a size
that is let through cannot be rounded up to whole granules.  For an engine whose books are kept,
over backends that owe their dealings, no call does, whatever is in flight meanwhile
(`Session.callChecked?_eq`).
-/

namespace TierHeap

namespace Engine

variable {β : Type}

def reserveChecked? (size : Nat) : Option (Except RequestError Nat) :=
  if size = 0 ∨ largestRequest < size then
    some (.error (.invalidSize size))
  else
    (granuleAlign? size).map .ok

def reserveAlignedChecked? (size align : Nat) : Option (Except RequestError Nat) :=
  if isPowerOfTwo align ∧ align ≤ pageSize then
    reserveChecked? size
  else
    some (.error (.invalidAlignment align))

theorem reserveChecked?_eq (size : Nat) : reserveChecked? size = some (reserve size) := by
  cases answer : reserve size with
  | error err =>
      obtain ⟨rfl, outOfBounds⟩ := reserve_eq_error answer
      rw [reserveChecked?, if_pos outOfBounds]
  | ok reserved =>
      obtain ⟨positive, small, rounded⟩ := reserve_eq_ok answer
      rw [reserveChecked?, if_neg (by omega), rounded]
      rfl

theorem reserveAlignedChecked?_eq (size align : Nat) :
    reserveAlignedChecked? size align = some (reserveAligned size align) := by
  unfold reserveAlignedChecked? reserveAligned
  split
  · exact reserveChecked?_eq size
  · rfl

def giveBackChecked?
    (engine : Engine β)
    (block : Block) : Option (Engine β) :=
  ((engine.tiers.get block.tier).freeChecked? block.addr block.reserved).map fun allocator =>
    { engine with tiers := engine.tiers.set block.tier allocator }

def resizeBlockChecked?
    (engine : Engine β)
    (block : Block)
    (newSize newReserved : Nat) : Option (Option (Engine β)) :=
  ((engine.tiers.get block.tier).resizeChecked? block.addr block.reserved newReserved).map
    fun resized =>
      resized.map fun allocator =>
        { engine with
          tiers := engine.tiers.set block.tier allocator
          table := engine.table.modify block.addr fun held =>
            { held with size := newSize, reserved := newReserved } }

section

variable [Backend β]

def carveChecked?
    (engine : Engine β)
    (tier : Tier)
    (reserved align : Nat) : Option (Except GrowError Carve × Engine β) :=
  ((engine.tiers.get tier).allocateChecked? depth reserved align).map fun (answer, allocator) =>
    (answer, { engine with tiers := engine.tiers.set tier allocator })

def trimTierChecked?
    (engine : Engine β)
    (tier : Tier) : Option (Nat × Engine β) := do
  let (answer, allocator) ← (engine.tiers.get tier).trimChecked? depth
  let engine := { engine with tiers := engine.tiers.set tier allocator }
  match answer with
  | .ok bytes => some (bytes, engine)
  | .error err =>
      some
        (0,
         engine.note .error
          (((Log.Event.new "trim" "release_failed" "kept").withTier tier).withDetails
            err.message))

end

namespace Accounted

variable {engine after : Engine (Recorder β)} {flight : List Block}

theorem giveBackChecked?_eq
    {block : Block}
    (accounted : engine.Accounted (block :: flight)) :
    engine.giveBackChecked? block = some (engine.giveBack block) := by
  have consistent := (accounted.backed.perm List.perm_middle).consistent block.tier
  rw [Block.spansOf_cons_self] at consistent
  rw [giveBackChecked?, consistent.freeChecked?_eq]
  rfl

theorem resizeBlockChecked?_eq
    (accounted : engine.Accounted flight)
    {addr newSize newReserved : Nat}
    {block : Block}
    (found : engine.table.get? addr = some block)
    (rounded : reserve newSize = .ok newReserved) :
    engine.resizeBlockChecked? block newSize newReserved =
      some (engine.resizeBlock? block newSize newReserved) := by
  have sameAddr := accounted.filed.get?_addr found
  rw [← sameAddr] at found
  have held := (BlockTable.remove_perm found).append_right flight
  have consistent := (accounted.backed.perm held).consistent block.tier
  rw [List.cons_append, Block.spansOf_cons_self] at consistent
  obtain ⟨positive, aligned, -⟩ := reserve_bounds rounded
  have resized :
      (engine.tiers.get block.tier).resizeChecked? block.addr block.reserved newReserved =
        some ((engine.tiers.get block.tier).resize? block.addr block.reserved newReserved) :=
    consistent.resizeChecked?_eq positive aligned
  rw [resizeBlockChecked?, resized]
  rfl

variable [Backend β]

theorem carveChecked?_eq
    (accounted : engine.Accounted flight)
    {tier : Tier}
    {size reserved align : Nat}
    (valid : reserveAligned size align = .ok reserved)
    {answer : Except GrowError Carve}
    (carved : engine.carve tier reserved align = (answer, after))
    (honest : Dealing.Honest (after.tiers.get tier).backend.dealings) :
    engine.carveChecked? tier reserved align = some (answer, after) := by
  obtain ⟨allocator, allocated, rfl⟩ := carve_cases carved
  rw [PerTier.get_set_self] at honest
  obtain ⟨power, small, exact⟩ := reserveAligned_eq_ok valid
  obtain ⟨positive, -, -⟩ := reserve_bounds exact
  have tried :=
    (accounted.backed.consistent tier).allocateChecked?_eq positive (reserve_le_largest exact)
      power small allocated honest
  rw [carveChecked?, tried]
  rfl

theorem trimTierChecked?_eq
    (accounted : engine.Accounted flight)
    (tier : Tier) :
    engine.trimTierChecked? tier = some (engine.trimTier tier) := by
  simp only [trimTierChecked?, Engine.trimTier,
    (accounted.backed.consistent tier).trimChecked?_eq, Option.bind_eq_bind, Option.bind_some]
  cases ((engine.tiers.get tier).trim depth).1 <;> rfl

end Accounted

/-! ## Calls -/

section

variable [Backend β]

def routeChecked?
    (engine : Engine β)
    (tier : Tier)
    (size align : Nat)
    (symbol : String) : Option (Except RequestError Nat × Engine β) := do
  match ← reserveAlignedChecked? size align with
  | .error err => some (.error err, engine.reject symbol err)
  | .ok reserved =>
      match ← engine.carveChecked? tier reserved align with
      | (.error cause, engine) =>
          some (.error (.outOfMemory tier size), engine.exhausted symbol tier size cause)
      | (.ok carve, engine) => some (.ok carve.addr, engine.settle symbol tier size carve)

def trimChecked? (engine : Engine β) : Option (Nat × Engine β) := do
  let engine := engine.count Metrics.onTrim
  let (hostBytes, engine) ← engine.trimTierChecked? .host
  let (cxlBytes, engine) ← engine.trimTierChecked? .cxl
  let released ← Word.addChecked? hostBytes cxlBytes
  some
    (released,
     engine.note .info ((Log.Event.new "trim" "trim" "released").withSize released))

end

def freeChecked?
    (engine : Engine β)
    (active : Tier)
    (addr : Nat) : Option (Except RequestError Tier × Engine β) :=
  match engine.withdraw addr with
  | (none, engine) => some (.error (.unknownAddress addr), engine.noteUnknownFree addr)
  | (some block, engine) =>
      (engine.giveBackChecked? block).map fun engine =>
        (.ok block.tier, engine.noteFree active block)

def resizeInPlaceChecked?
    (engine : Engine β)
    (addr newSize : Nat) : Option (Except RequestError Bool × Engine β) := do
  match ← reserveChecked? newSize with
  | .error err => some (.error err, engine.reject "resize_in_place" err)
  | .ok newReserved =>
      match engine.table.get? addr with
      | none =>
          some
            (.error (.unknownAddress addr),
             engine.note .warn
              ((Log.Event.new "resize_in_place" "unknown_address" "rejected").withAddr addr))
      | some block =>
          match ← engine.resizeBlockChecked? block newSize newReserved with
          | none =>
              some
                (.ok false,
                 engine.note .debug
                  (((Log.Event.new "resize_in_place" "resize_blocked" "must_move").withAddr
                    addr).withSize newSize))
          | some engine =>
              some
                (.ok true,
                 (engine.count (·.onResize block.tier block.size newSize)).note .trace
                  (((((Log.Event.new "resize_in_place" "resize" "success").withAddr
                    addr).withSize newSize).withTier block.tier).withDetails
                    ("old_size=" ++ Text.decimal block.size)))

namespace Accounted

variable {engine : Engine (Recorder β)} {flight : List Block}

theorem freeChecked?_eq
    (accounted : engine.Accounted flight)
    (active : Tier)
    (addr : Nat) :
    engine.freeChecked? active addr = some (engine.free active addr) := by
  rw [freeChecked?, Engine.free]
  cases withdrawn : engine.withdraw addr with
  | mk found rest =>
      cases found with
      | none =>
          rfl
      | some block =>
          have taken := accounted.withdraw (congrArg Prod.fst withdrawn)
          rw [withdrawn] at taken
          dsimp only
          rw [taken.giveBackChecked?_eq]
          rfl

theorem resizeInPlaceChecked?_eq
    (accounted : engine.Accounted flight)
    (addr newSize : Nat) :
    engine.resizeInPlaceChecked? addr newSize = some (engine.resizeInPlace addr newSize) := by
  rw [resizeInPlaceChecked?, Engine.resizeInPlace, reserveChecked?_eq]
  cases rounded : reserve newSize with
  | error err =>
      rfl
  | ok newReserved =>
      simp only [Option.bind_eq_bind, Option.bind_some]
      cases found : engine.table.get? addr with
      | none =>
          rfl
      | some block =>
          dsimp only
          rw [accounted.resizeBlockChecked?_eq found rounded]
          cases engine.resizeBlock? block newSize newReserved <;> rfl

variable [Backend β]

theorem routeChecked?_eq
    (accounted : engine.Accounted flight)
    {tier : Tier}
    {size align : Nat}
    {symbol : String}
    (abiding : Dealing.Abiding (engine.route tier size align symbol).2.tiers.dealings) :
    engine.routeChecked? tier size align symbol = some (engine.route tier size align symbol) := by
  rw [routeChecked?, reserveAlignedChecked?_eq]
  simp only [Engine.route] at abiding ⊢
  cases valid : reserveAligned size align with
  | error err =>
      rfl
  | ok reserved =>
      rw [valid] at abiding
      dsimp only at abiding
      simp only [Option.bind_eq_bind, Option.bind_some]
      cases carved : engine.carve tier reserved align with
      | mk answer after =>
          rw [carved] at abiding
          have honest : Dealing.Honest (after.tiers.get tier).backend.dealings := by
            cases answer with
            | error cause =>
                exact abiding.honest_tier tier
            | ok carve =>
                simp only [tiers_settle] at abiding
                exact abiding.honest_tier tier
          rw [accounted.carveChecked?_eq valid carved honest]
          cases answer <;> rfl

/-- What a tier counts as released was committed before. -/
theorem trimTier_le
    (accounted : engine.Accounted flight)
    (tier : Tier) :
    (engine.trimTier tier).1 ≤ (engine.tiers.get tier).arena.committed := by
  obtain ⟨answers, ends⟩ := (accounted.backed.consistent tier).trim_ends depth
  obtain ⟨log, trimmed⟩ := engine.trimTier_eq tier
  have counted := Allocator.counted_le answers
  have committed := ends.committed
  rw [trimmed, ends.trimmedBytes]
  omega

theorem trimChecked?_eq
    (accounted : engine.Accounted flight)
    (abiding : Dealing.Abiding engine.tiers.dealings) :
    engine.trimChecked? = some engine.trim := by
  have counted : (engine.count Metrics.onTrim).Accounted flight := accounted.transport rfl rfl
  have hostTrimmed := counted.trimTier .host
  have sum :
      ((engine.count Metrics.onTrim).trimTier .host).1 +
        (((engine.count Metrics.onTrim).trimTier .host).2.trimTier .cxl).1 < Word.bound := by
    have host := counted.trimTier_le .host
    have cxl := hostTrimmed.trimTier_le .cxl
    have committed := accounted.backed.committed_lt abiding
    obtain ⟨log, trimmed⟩ := (engine.count Metrics.onTrim).trimTier_eq .host
    have same :
        ((engine.count Metrics.onTrim).trimTier .host).2.tiers.get .cxl =
          engine.tiers.get .cxl := by
      rw [trimmed]
      rfl
    rw [same] at cxl
    exact Nat.lt_of_le_of_lt (Nat.add_le_add host cxl) committed
  simp only [trimChecked?, Engine.trim, counted.trimTierChecked?_eq,
    hostTrimmed.trimTierChecked?_eq, Word.addChecked?_of_lt sum, Word.add_eq sum,
    Option.bind_eq_bind, Option.bind_some]

end Accounted

end Engine

namespace Session

variable {β : Type} [Backend β]

def callChecked?
    (session : Session β)
    (thread : Nat) : Call → Option (Reply × Session β)
  | .enable => some (session.call thread .enable)
  | .setMode tier => some (session.call thread (.setMode tier))
  | .allocate size =>
      (session.engine.routeChecked? (session.active thread) size granule "allocate").map
        fun (answer, engine) => (.ofAllocation answer, session.withEngine engine)
  | .allocateAligned size align =>
      (session.engine.routeChecked? (session.active thread) size align "allocate_aligned").map
        fun (answer, engine) => (.ofAllocation answer, session.withEngine engine)
  | .allocateOn tier size =>
      (session.engine.routeChecked? tier size granule "allocate_on").map
        fun (answer, engine) => (.ofAllocation answer, session.withEngine engine)
  | .allocateOnAligned tier size align =>
      (session.engine.routeChecked? tier size align "allocate_on").map
        fun (answer, engine) => (.ofAllocation answer, session.withEngine engine)
  | .free addr =>
      (session.engine.freeChecked? (session.active thread) addr).map
        fun (answer, engine) => (.ofFree answer, session.withEngine engine)
  | .resize addr size =>
      (session.engine.resizeInPlaceChecked? addr size).map
        fun (answer, engine) => (.ofResize answer, session.withEngine engine)
  | .trim =>
      session.engine.trimChecked?.map
        fun (bytes, engine) => (.released bytes, session.withEngine engine)

theorem callChecked?_eq
    {session : Session (Recorder β)}
    {flight : List Block}
    (accounted : session.engine.Accounted flight)
    (abiding : Dealing.Abiding session.dealings)
    {thread : Nat}
    {call : Call}
    (abidingAfter : Dealing.Abiding (session.call thread call).2.dealings) :
    session.callChecked? thread call = some (session.call thread call) := by
  cases call with
  | enable | setMode tier =>
      rfl
  | allocate size | allocateAligned size align | allocateOn tier size
  | allocateOnAligned tier size align =>
      rw [callChecked?, accounted.routeChecked?_eq abidingAfter]
      rfl
  | free addr =>
      rw [callChecked?, accounted.freeChecked?_eq]
      rfl
  | resize addr size =>
      rw [callChecked?, accounted.resizeInPlaceChecked?_eq]
      rfl
  | trim =>
      rw [callChecked?, accounted.trimChecked?_eq abiding]
      rfl

end Session

end TierHeap
