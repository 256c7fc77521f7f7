import TierHeap.Proofs.Engine.Runs
import TierHeap.Proofs.Interleaving.History
import TierHeap.Proofs.Metrics

/-!
# Books that threads keep together

At every moment the outstanding ranges are those of the blocks in the table and of the blocks
in flight, each of which one thread has in its hands.  A history is orderly because an address
fresh from a tier is in no table entry.  The gauges lag behind the table by what the threads
have still to count.

Each step is described by what it does to these books, whatever the other threads have in
their hands (`Kept.turn`).
-/

namespace TierHeap.Interleaving

/-- The blocks that a call has entered or changed and not counted yet, as they are now. -/
def Aftermath.incoming : Aftermath → List Block
  | .allocated _ block _ _ => [block]
  | .resized _ block newSize newReserved =>
      [{ block with size := newSize, reserved := newReserved }]
  | _ => []

/-- The blocks that a call has taken out or changed and not discounted yet, as they were. -/
def Aftermath.outgoing : Aftermath → List Block
  | .freed block => [block]
  | .resized _ block _ _ => [block]
  | _ => []

namespace Phase

/-- The block that a thread has in its hands: neither free in its tier nor in the table. -/
def flight : Phase → List Block
  | .carved _ block _ => [block]
  | .removed block => [block]
  | _ => []

/-- What a thread has still to count. -/
def incoming : Phase → List Block
  | .concluding aftermath => aftermath.incoming
  | _ => []

/-- What a thread has still to discount. -/
def outgoing : Phase → List Block
  | .removed block => [block]
  | .concluding aftermath => aftermath.outgoing
  | _ => []

/-- Requests are checked before anything is carved for them or resized. -/
def Sound : Phase → Prop
  | .routed _ _ size reserved align => Engine.reserveAligned size align = .ok reserved
  | .concluding (.resized _ block _ _) => block.size ≤ largestRequest
  | _ => True

end Phase

variable {β : Type}

/-- The books, given the blocks in flight and those that are still to be counted. -/
structure Kept
    (engine : Engine (Recorder β))
    (history : List Event)
    (flight incoming outgoing : List Block) : Prop where
  accounted : engine.Accounted flight
  owned :
    (outstanding history).Perm ((engine.table.blocks ++ flight).map Block.holding)
  orderly : Orderly history
  entered : ∀ addr, present addr history = (engine.table.get? addr).isSome
  gauged : engine.metrics.Gauged incoming (engine.table.blocks ++ outgoing)

namespace Kept

variable {engine : Engine (Recorder β)} {history : List Event}
  {flight incoming outgoing : List Block}

theorem perm
    (kept : Kept engine history flight incoming outgoing)
    {flight' incoming' outgoing' : List Block}
    (sameFlight : flight.Perm flight')
    (sameIncoming : incoming.Perm incoming')
    (sameOutgoing : outgoing.Perm outgoing') :
    Kept engine history flight' incoming' outgoing' where
  accounted := kept.accounted.perm sameFlight
  owned := kept.owned.trans ((sameFlight.append_left _).map _)
  orderly := kept.orderly
  entered := kept.entered
  gauged := kept.gauged.perm sameIncoming (sameOutgoing.append_left _)

/-- A step that touches neither tiers nor table keeps the books if it keeps the gauges. -/
theorem recount
    (kept : Kept engine history flight incoming outgoing)
    {changed : Engine (Recorder β)}
    (tiers : changed.tiers = engine.tiers)
    (table : changed.table = engine.table)
    {incoming' outgoing' : List Block}
    (gauged : changed.metrics.Gauged incoming' (engine.table.blocks ++ outgoing')) :
    Kept changed history flight incoming' outgoing' := by
  refine ⟨kept.accounted.transport tiers table, ?_, kept.orderly, ?_, ?_⟩
  · rw [table]
    exact kept.owned
  · rw [table]
    exact kept.entered
  · rw [table]
    exact gauged

theorem transport
    (kept : Kept engine history flight incoming outgoing)
    {changed : Engine (Recorder β)}
    (tiers : changed.tiers = engine.tiers)
    (table : changed.table = engine.table)
    (metrics : changed.metrics = engine.metrics) :
    Kept changed history flight incoming outgoing := by
  apply kept.recount tiers table
  rw [metrics]
  exact kept.gauged

/-- Entering a block displaces none. -/
theorem enter
    {block : Block}
    (kept : Kept engine history (block :: flight) incoming outgoing)
    (abiding : Dealing.Abiding engine.tiers.dealings) :
    (engine.publish block).1 = none ∧
      Kept (engine.publish block).2 (.entered block (engine.publish block).1 :: history)
        flight (block :: incoming) outgoing := by
  have absent := kept.accounted.fresh abiding
  have entries := BlockTable.insert_perm absent
  refine ⟨absent, kept.accounted.publish absent, ?_, ⟨absent, ?_, kept.orderly⟩, ?_, ?_⟩
  · refine kept.owned.trans (List.Perm.map _ ?_)
    exact List.perm_middle.trans (entries.append_right flight).symm
  · rw [kept.entered, absent]
    rfl
  · intro addr
    simp only [Engine.publish, BlockTable.get?_insert, present, kept.entered]
    by_cases same : block.addr = addr
    · simp [same]
    · simp [same, Ne.symm same]
  · exact (kept.gauged.enter block).perm (.refl _) (entries.append_right outgoing).symm

theorem withdraw
    (kept : Kept engine history flight incoming outgoing)
    {addr : Nat}
    {block : Block}
    (found : engine.table.get? addr = some block) :
    Kept (engine.withdraw addr).2 (.removed addr :: history) (block :: flight) incoming
      (block :: outgoing) := by
  have entries := BlockTable.remove_perm found
  refine ⟨kept.accounted.withdraw found, ?_, ⟨?_, kept.orderly⟩, ?_, ?_⟩
  · refine kept.owned.trans (List.Perm.map _ ?_)
    exact (entries.append_right flight).trans List.perm_middle.symm
  · rw [kept.entered, found]
    rfl
  · intro other
    simp only [Engine.withdraw, BlockTable.get?_remove, present, kept.entered]
    by_cases same : addr = other
    · simp [same]
    · simp [same, Ne.symm same]
  · apply kept.gauged.perm (.refl _)
    exact (entries.append_right outgoing).trans List.perm_middle.symm

theorem withdraw_of_absent
    (kept : Kept engine history flight incoming outgoing)
    {addr : Nat}
    (absent : engine.table.get? addr = none) :
    Kept (engine.withdraw addr).2 history flight incoming outgoing :=
  kept.transport rfl (BlockTable.remove_of_absent absent) rfl

theorem giveBack
    {block : Block}
    (kept : Kept engine history (block :: flight) incoming outgoing) :
    Kept (engine.giveBack block)
      (.returned block.tier ⟨block.addr, block.reserved⟩ :: history) flight incoming
      outgoing := by
  refine ⟨kept.accounted.giveBack, ?_, kept.orderly, kept.entered, kept.gauged⟩
  have owned := kept.owned.trans (List.perm_middle.map Block.holding)
  have returned := owned.erase block.holding
  rw [List.map_cons, List.erase_cons_head] at returned
  exact returned

theorem resize
    (kept : Kept engine history flight incoming outgoing)
    {addr newSize newReserved : Nat}
    {block : Block}
    (found : engine.table.get? addr = some block)
    (rounded : Engine.reserve newSize = .ok newReserved)
    {after : Engine (Recorder β)}
    (resized : engine.resizeBlock? block newSize newReserved = some after) :
    Kept after
      (.resized block.tier ⟨block.addr, block.reserved⟩ ⟨block.addr, newReserved⟩ :: history)
      flight ({ block with size := newSize, reserved := newReserved } :: incoming)
      (block :: outgoing) := by
  have accounted := kept.accounted.resizeBlock? found rounded resized
  obtain ⟨allocator, -, rfl⟩ := Option.map_eq_some_iff.mp resized
  have sameAddr := kept.accounted.filed.get?_addr found
  rw [← sameAddr] at found
  let changed : Block := { block with size := newSize, reserved := newReserved }
  have before := BlockTable.remove_perm found
  have now := BlockTable.modify_perm found fun held =>
    { held with size := newSize, reserved := newReserved }
  refine ⟨accounted, ?_, kept.orderly, ?_, ?_⟩
  · have owned :=
      kept.owned.trans ((before.append_right flight).map Block.holding)
    have returned := owned.erase block.holding
    rw [List.cons_append, List.map_cons, List.erase_cons_head] at returned
    apply (returned.cons changed.holding).trans
    exact ((now.append_right flight).map Block.holding).symm
  · intro other
    rw [present, kept.entered, BlockTable.get?_modify]
    split
    · rw [Option.isSome_map]
    · rfl
  · -- The block as it was is still counted, the block as it is not yet.
    have standing := before.append_right outgoing
    have entered := (kept.gauged.perm (.refl _) standing).enter changed
    apply entered.perm (.refl _)
    apply (List.Perm.swap _ _ _).trans
    apply ((now.append_right outgoing).symm.cons block).trans
    exact List.perm_middle.symm

section

variable [Backend β]

/-- Carving a block, which is in flight then. -/
theorem carve_ok
    (kept : Kept engine history flight incoming outgoing)
    {tier : Tier}
    {size reserved align : Nat}
    (rounded : Engine.reserveAligned size align = .ok reserved)
    {carve : Carve}
    {after : Engine (Recorder β)}
    (carved : engine.carve tier reserved align = (.ok carve, after))
    (honest : Dealing.Honest (after.tiers.get tier).backend.dealings) :
    Kept after (.carved tier ⟨carve.addr, carve.reserved⟩ :: history)
      (⟨carve.addr, size, carve.reserved, tier⟩ :: flight) incoming outgoing := by
  have accounted := kept.accounted.carve_ok rounded carved honest
  obtain ⟨allocator, -, rfl⟩ := Engine.carve_cases carved
  refine ⟨accounted, ?_, kept.orderly, kept.entered, kept.gauged⟩
  let block : Block := ⟨carve.addr, size, carve.reserved, tier⟩
  have placed : (block :: (engine.table.blocks ++ flight)).Perm
      (engine.table.blocks ++ block :: flight) := List.perm_middle.symm
  exact (kept.owned.cons block.holding).trans (placed.map Block.holding)

theorem carve_error
    (kept : Kept engine history flight incoming outgoing)
    {tier : Tier}
    {size reserved align : Nat}
    (rounded : Engine.reserveAligned size align = .ok reserved)
    {err : GrowError}
    {after : Engine (Recorder β)}
    (carved : engine.carve tier reserved align = (.error err, after))
    (honest : Dealing.Honest (after.tiers.get tier).backend.dealings) :
    Kept after history flight incoming outgoing := by
  have accounted := kept.accounted.carve_error rounded carved honest
  obtain ⟨allocator, -, rfl⟩ := Engine.carve_cases carved
  exact ⟨accounted, kept.owned, kept.orderly, kept.entered, kept.gauged⟩

theorem trimTier
    (kept : Kept engine history flight incoming outgoing)
    (tier : Tier) :
    Kept (engine.trimTier tier).2 history flight incoming outgoing := by
  have accounted := kept.accounted.trimTier tier
  simp only [Engine.trimTier] at accounted ⊢
  split at accounted
  · exact ⟨accounted, kept.owned, kept.orderly, kept.entered, kept.gauged⟩
  · exact ⟨accounted, kept.owned, kept.orderly, kept.entered, kept.gauged⟩

end

/-! ## Counting -/

theorem tiers_conclude
    (engine : Engine β)
    (active : Tier)
    (aftermath : Aftermath) :
    (aftermath.conclude engine active).tiers = engine.tiers := by
  cases aftermath with
  | allocated symbol block grew displaced =>
      cases displaced <;> cases grew <;> rfl
  | _ =>
      rfl

theorem table_conclude
    (engine : Engine β)
    (active : Tier)
    (aftermath : Aftermath) :
    (aftermath.conclude engine active).table = engine.table := by
  cases aftermath with
  | allocated symbol block grew displaced =>
      cases displaced <;> cases grew <;> rfl
  | _ =>
      rfl

theorem metrics_conclude_allocated
    (engine : Engine β)
    (active : Tier)
    (symbol : String)
    (block : Block)
    (grew : Bool)
    (displaced : Option Block) :
    (Aftermath.conclude engine active (.allocated symbol block grew displaced)).metrics =
      engine.metrics.onAllocate block.tier block.size grew := by
  cases displaced <;> cases grew <;> rfl

/-- Counting takes off what is left to be counted. -/
theorem conclude
    {aftermath : Aftermath}
    (kept : Kept engine history flight (aftermath.incoming ++ incoming)
      (aftermath.outgoing ++ outgoing))
    (sound : (Phase.concluding aftermath).Sound)
    (active : Tier) :
    Kept (aftermath.conclude engine active) history flight incoming outgoing := by
  apply kept.recount (tiers_conclude _ _ _) (table_conclude _ _ _)
  have gauged := kept.gauged
  cases aftermath with
  | allocated symbol block grew displaced =>
      rw [metrics_conclude_allocated]
      exact gauged.onAllocate grew
  | freed block =>
      have gone : engine.metrics.Gauged incoming
          (block :: (engine.table.blocks ++ outgoing)) :=
        gauged.perm (.refl _) List.perm_middle
      exact gone.onFree
  | resized addr block newSize newReserved =>
      have changed : engine.metrics.Gauged
          ({ block with size := newSize, reserved := newReserved } :: incoming)
          (block :: (engine.table.blocks ++ outgoing)) :=
        gauged.perm (.refl _) List.perm_middle
      have small : block.size ≤ Word.bound := Nat.le_trans sound (by decide)
      exact (changed.onResize rfl small).transport (fun _ => rfl) (fun _ => rfl)
  | exhausted symbol tier size cause =>
      exact gauged.onOutOfMemory tier
  | _ =>
      exact gauged.transport (fun _ => rfl) (fun _ => rfl)

end Kept

/-- A step leaves the books kept, with what the other threads have in their hands. -/
structure Sustained
    (outcome : Session (Recorder β) × Phase × List Event)
    (history : List Event)
    (flight incoming outgoing : List Block) : Prop where
  kept :
    Kept outcome.1.engine (outcome.2.2 ++ history) (outcome.2.1.flight ++ flight)
      (outcome.2.1.incoming ++ incoming) (outcome.2.1.outgoing ++ outgoing)
  sound : outcome.2.1.Sound

section

variable {session : Session (Recorder β)} {history : List Event}
  {flight incoming outgoing : List Block}

theorem sustained_withdraw
    (kept : Kept session.engine history flight incoming outgoing)
    (addr : Nat) :
    Sustained (withdraw session addr) history flight incoming outgoing := by
  cases found : session.engine.table.get? addr with
  | none =>
      have withdrawn := kept.withdraw_of_absent found
      simp only [withdraw, Engine.withdraw, BlockTable.remove, found] at withdrawn ⊢
      exact ⟨withdrawn, trivial⟩
  | some block =>
      have withdrawn := kept.withdraw found
      simp only [withdraw, Engine.withdraw, BlockTable.remove, found] at withdrawn ⊢
      exact ⟨withdrawn, trivial⟩

theorem sustained_resize
    (kept : Kept session.engine history flight incoming outgoing)
    (addr newSize : Nat) :
    Sustained (resize session addr newSize) history flight incoming outgoing := by
  unfold resize
  split
  · exact ⟨kept, trivial⟩
  · rename_i newReserved rounded
    split
    · exact ⟨kept, trivial⟩
    · rename_i block found
      split
      · exact ⟨kept, trivial⟩
      · rename_i after resized
        refine ⟨kept.resize found rounded resized, ?_⟩
        have sameAddr := kept.accounted.filed.get?_addr found
        rw [← sameAddr] at found
        have member := kept.accounted.filed.mem_blocks_iff.mpr found
        have reserved :=
          kept.accounted.backed.reserved block (List.mem_append_left flight member)
        exact (Engine.reserve_eq_ok reserved).2.1

theorem sustained_route
    (kept : Kept session.engine history flight incoming outgoing)
    (symbol : String)
    (tier : Tier)
    (size align : Nat) :
    Sustained (session, route symbol tier size align, []) history flight incoming outgoing := by
  unfold route
  split
  · exact ⟨kept, trivial⟩
  · rename_i reserved rounded
    exact ⟨kept, rounded⟩

variable [Backend β]

theorem sustained_start
    (kept : Kept session.engine history flight incoming outgoing)
    (number : Nat)
    (call : Call) :
    Sustained (start session number call) history flight incoming outgoing := by
  cases call with
  | enable =>
      refine ⟨?_, trivial⟩
      simp only [start, Session.call, Session.withEngine, Engine.enableIndicator]
      split
      · exact kept.transport rfl rfl rfl
      · exact kept.transport rfl rfl rfl
  | setMode tier =>
      refine ⟨?_, trivial⟩
      simp only [start, Session.call, Engine.setMode]
      split
      · exact kept.transport rfl rfl rfl
      · exact kept.transport rfl rfl rfl
  | allocate size =>
      exact sustained_route kept _ _ _ _
  | allocateAligned size align =>
      exact sustained_route kept _ _ _ _
  | allocateOn tier size =>
      exact sustained_route kept _ _ _ _
  | allocateOnAligned tier size align =>
      exact sustained_route kept _ _ _ _
  | free addr =>
      exact sustained_withdraw kept addr
  | resize addr newSize =>
      exact sustained_resize kept addr newSize
  | trim =>
      refine ⟨kept.recount (by rfl) (by rfl) ?_, trivial⟩
      exact kept.gauged.transport (fun _ => rfl) (fun _ => rfl)

theorem sustained_carve
    (kept : Kept session.engine history flight incoming outgoing)
    {symbol : String}
    {tier : Tier}
    {size reserved align : Nat}
    (rounded : Engine.reserveAligned size align = .ok reserved)
    (abiding :
      Dealing.Abiding (carve session symbol tier size reserved align).1.dealings) :
    Sustained (carve session symbol tier size reserved align) history flight incoming
      outgoing := by
  unfold carve at abiding ⊢
  split at abiding
  · rename_i cause after carved
    exact ⟨kept.carve_error rounded carved (abiding.honest_tier tier), trivial⟩
  · rename_i found after carved
    exact ⟨kept.carve_ok rounded carved (abiding.honest_tier tier), trivial⟩

/-- Every turn of a thread leaves the books kept. -/
theorem Kept.turn
    {thread : Thread}
    (kept : Kept session.engine history (thread.phase.flight ++ flight)
      (thread.phase.incoming ++ incoming) (thread.phase.outgoing ++ outgoing))
    (sound : thread.phase.Sound)
    (number : Nat)
    (abiding : Dealing.Abiding (thread.turn session number).1.dealings) :
    Sustained
      ((thread.turn session number).1, (thread.turn session number).2.1.phase,
       (thread.turn session number).2.2)
      history flight incoming outgoing := by
  obtain ⟨phase, program, replies⟩ := thread
  cases phase with
  | idle =>
      cases program with
      | nil =>
          exact ⟨kept, trivial⟩
      | cons call rest =>
          exact sustained_start kept number call
  | routed symbol tier size reserved align =>
      exact sustained_carve kept sound abiding
  | carved symbol block grew =>
      exact ⟨(kept.enter abiding).2, trivial⟩
  | removed block =>
      exact ⟨kept.giveBack, trivial⟩
  | trimmingHost =>
      exact ⟨kept.trimTier .host, trivial⟩
  | trimmingCxl hostBytes =>
      exact ⟨kept.trimTier .cxl, trivial⟩
  | concluding aftermath =>
      exact ⟨kept.conclude sound _, trivial⟩

end

end TierHeap.Interleaving
