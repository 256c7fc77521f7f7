import TierHeap.Proofs.Backend.Recording
import TierHeap.Proofs.Engine.Records
import TierHeap.Proofs.Engine.Verification

/-!
# Runs of calls

Calls made one at a time, by whichever threads, leave nothing in flight.  Over backends that
owe their dealings, each call keeps the books, and so does every run
(`Session.accounted_run`).  What that means for the blocks is `Engine.Safe`; it holds of every
session that starts from new backends (`Session.safe_run`).
-/

namespace TierHeap

namespace Engine

variable {β : Type}

namespace Accounted

variable {engine : Engine (Recorder β)}

theorem enableIndicator
    (accounted : engine.Accounted [])
    (active : Tier) :
    (engine.enableIndicator active).Accounted [] := by
  simp only [Engine.enableIndicator]
  split
  · exact accounted.transport rfl rfl
  · exact accounted.transport rfl rfl

theorem setMode
    (accounted : engine.Accounted [])
    (bank : RegisterBank)
    (thread : Nat)
    (tier : Tier) :
    (engine.setMode bank thread tier).2.1.Accounted [] := by
  simp only [Engine.setMode]
  split
  · exact accounted.transport rfl rfl
  · exact accounted.transport rfl rfl

theorem free
    (accounted : engine.Accounted [])
    (active : Tier)
    (addr : Nat) :
    (engine.free active addr).2.Accounted [] := by
  simp only [Engine.free]
  split
  · rename_i after withdrawn
    have absent : engine.table.get? addr = none := congrArg Prod.fst withdrawn
    have table : after.table = engine.table :=
      (congrArg (fun result => result.2.table) withdrawn).symm.trans
        (BlockTable.remove_of_absent absent)
    have tiers : after.tiers = engine.tiers :=
      congrArg (fun result => result.2.tiers) withdrawn.symm
    exact accounted.transport tiers table
  · rename_i block after withdrawn
    have found : engine.table.get? addr = some block := congrArg Prod.fst withdrawn
    have taken := accounted.withdraw found
    rw [congrArg Prod.snd withdrawn] at taken
    exact taken.giveBack.transport rfl rfl

theorem resizeInPlace
    (accounted : engine.Accounted [])
    (addr newSize : Nat) :
    (engine.resizeInPlace addr newSize).2.Accounted [] := by
  simp only [Engine.resizeInPlace]
  split
  · exact accounted.transport rfl rfl
  · rename_i newReserved rounded
    split
    · exact accounted.transport rfl rfl
    · rename_i block found
      split
      · exact accounted.transport rfl rfl
      · rename_i after resized
        exact (accounted.resizeBlock? found rounded resized).transport rfl rfl

variable [Backend β]

/-- An allocation keeps the books and finds its address new to the table. -/
theorem route
    (accounted : engine.Accounted [])
    {tier : Tier}
    {size align : Nat}
    {symbol : String}
    (abiding : Dealing.Abiding (engine.route tier size align symbol).2.tiers.dealings) :
    (engine.route tier size align symbol).2.Accounted [] ∧
      ∀ addr, (engine.route tier size align symbol).1 = .ok addr →
        engine.table.get? addr = none := by
  simp only [Engine.route] at abiding ⊢
  split at abiding
  · rename_i err refused
    refine ⟨accounted.transport rfl rfl, ?_⟩
    intro addr same
    cases same
  · rename_i reserved rounded
    split at abiding
    · rename_i cause after carved
      have kept := accounted.carve_error rounded carved (abiding.honest_tier tier)
      refine ⟨kept.transport rfl rfl, ?_⟩
      intro addr same
      cases same
    · rename_i carve after carved
      simp only [tiers_settle] at abiding
      have inFlight :
          after.Accounted [⟨carve.addr, size, carve.reserved, tier⟩] :=
        accounted.carve_ok rounded carved (abiding.honest_tier tier)
      have absent := inFlight.fresh abiding
      refine ⟨?_, ?_⟩
      · exact (inFlight.publish absent).transport (tiers_settle _ _ _ _ _)
          (table_settle _ _ _ _ _)
      · intro addr same
        cases same
        obtain ⟨allocator, -, rfl⟩ := carve_cases carved
        exact absent

theorem trim (accounted : engine.Accounted []) : engine.trim.2.Accounted [] := by
  have counted : (engine.count Metrics.onTrim).Accounted [] := accounted.transport rfl rfl
  have trimmed := (counted.trimTier .host).trimTier .cxl
  simp only [Engine.trim]
  exact trimmed.transport (tiers_note _ _ _) (table_note _ _ _)

end Accounted

theorem accounted_withBackends
    [Backend β]
    (config : Config)
    (bank : RegisterBank)
    (backends : PerTier β) :
    (withBackends config bank (backends.map Recorder.start)).1.Accounted [] := by
  have blocks : BlockTable.empty.blocks ++ [] = [] := by rw [BlockTable.blocks_empty]; rfl
  refine ⟨BlockTable.filed_empty, ?_⟩
  simp only [withBackends, tiers_note, table_note, blocks]
  refine ⟨?_, fun _ member => absurd member List.not_mem_nil⟩
  intro tier
  rw [PerTier.get_ofFn, PerTier.get_map]
  exact Allocator.consistent_new _ _ _ _

theorem undisturbed_withBackends
    [Backend β]
    (config : Config)
    (bank : RegisterBank)
    (backends : PerTier β) :
    (withBackends config bank backends).1.Undisturbed := by
  intro record member
  simp only [withBackends] at member
  rcases Log.Lifecycle.mem_snapshot_record member with kept | new
  · cases kept
  · rw [new]
    change "engine_ready" ≠ staleEvent
    decide

/-- What the books of an engine with nothing in flight mean for its blocks. -/
structure Safe (engine : Engine β) : Prop where
  /-- No two blocks share a byte, whatever their tiers. -/
  apart : engine.table.blocks.Pairwise fun first second => first.span.Apart second.span
  /-- Every block lies in one segment that its tier holds. -/
  inside : ∀ block ∈ engine.table.blocks,
    ∃ segment ∈ (engine.tiers.get block.tier).arena.held, block.span.Within segment.span
  /-- What is set aside for a block is its size in whole granules. -/
  rounded : ∀ block ∈ engine.table.blocks,
    block.size ≤ block.reserved ∧ granuleAlign? block.size = some block.reserved
  aligned : ∀ block ∈ engine.table.blocks, block.addr % granule = 0
  inUse : ∀ tier,
    ((engine.table.blocks.filter fun block => block.tier = tier).map Block.reserved).sum =
      (engine.tierStats tier).inUseBytes
  live : ∀ tier,
    (engine.table.blocks.filter fun block => block.tier = tier).length =
      (engine.tierStats tier).liveRanges
  verified : engine.verify = .ok ()
  undisturbed : engine.Undisturbed

theorem Accounted.safe
    {engine : Engine (Recorder β)}
    (accounted : engine.Accounted [])
    (undisturbed : engine.Undisturbed)
    (abiding : Dealing.Abiding engine.tiers.dealings) :
    engine.Safe := by
  have backed := accounted.backed
  rw [List.append_nil] at backed
  refine ⟨backed.pairwise_apart abiding, ?_, ?_, ?_, ?_, ?_, accounted.verify_eq_ok abiding,
    undisturbed⟩
  · exact fun block member => (backed.holds member).inside
  · intro block member
    have reserved := backed.reserved block member
    exact ⟨(reserve_bounds reserved).2.2, (reserve_eq_ok reserved).2.2⟩
  · exact fun block member => (backed.holds member).start_aligned
  · intro tier
    rw [← Block.total_spansOf]
    exact (backed.consistent tier).arena.inUse.symm
  · intro tier
    have live := (backed.consistent tier).arena.live
    rw [Block.spansOf, List.length_map] at live
    exact live.symm

/-- Records are no part of what an engine does. -/
theorem Safe.unrecorded
    {engine : Engine (Recorder β)}
    (safe : engine.Safe) :
    engine.unrecorded.Safe where
  apart := safe.apart
  inside block member := by
    rw [get_unrecorded]
    exact safe.inside block member
  rounded := safe.rounded
  aligned := safe.aligned
  inUse tier := by
    rw [unrecorded_tierStats]
    exact safe.inUse tier
  live tier := by
    rw [unrecorded_tierStats]
    exact safe.live tier
  verified := by
    rw [unrecorded_verify]
    exact safe.verified
  undisturbed := safe.undisturbed

end Engine

/-! ## Sessions -/

namespace Session

variable {β : Type}

def opening
    [Backend β]
    (config : Config)
    (bank : RegisterBank)
    (backends : PerTier β) : Session β :=
  ⟨(Engine.withBackends config bank backends).1, (Engine.withBackends config bank backends).2⟩

def dealings (session : Session (Recorder β)) : PerTier (List Dealing) :=
  session.engine.tiers.dealings

variable [Backend β]

omit [Backend β] in
theorem ok_of_address
    {answer : Except RequestError Nat}
    {addr : Nat}
    (replied : Reply.ofAllocation answer = .address addr) :
    answer = .ok addr := by
  cases answer with
  | ok found =>
      cases replied
      rfl
  | error err =>
      cases replied

/-- A call keeps the books; the address of an allocation is new to the table. -/
theorem accounted_call
    {session : Session (Recorder β)}
    (accounted : session.engine.Accounted [])
    {thread : Nat}
    {call : Call}
    (abiding : Dealing.Abiding (session.call thread call).2.dealings) :
    (session.call thread call).2.engine.Accounted [] ∧
      ∀ addr, (session.call thread call).1 = .address addr →
        session.engine.table.get? addr = none := by
  cases call with
  | enable =>
      refine ⟨accounted.enableIndicator _, ?_⟩
      intro addr same
      cases same
  | setMode tier =>
      refine ⟨accounted.setMode _ _ _, ?_⟩
      intro addr same
      cases same
  | allocate size =>
      obtain ⟨kept, fresh⟩ := accounted.route abiding
      exact ⟨kept, fun addr replied => fresh addr (ok_of_address replied)⟩
  | allocateAligned size align =>
      obtain ⟨kept, fresh⟩ := accounted.route abiding
      exact ⟨kept, fun addr replied => fresh addr (ok_of_address replied)⟩
  | allocateOn tier size =>
      obtain ⟨kept, fresh⟩ := accounted.route abiding
      exact ⟨kept, fun addr replied => fresh addr (ok_of_address replied)⟩
  | allocateOnAligned tier size align =>
      obtain ⟨kept, fresh⟩ := accounted.route abiding
      exact ⟨kept, fun addr replied => fresh addr (ok_of_address replied)⟩
  | free addr =>
      refine ⟨accounted.free _ _, fun found replied => ?_⟩
      simp only [Session.call] at replied
      cases answer : (session.engine.free (session.active thread) addr).1 <;>
        simp [answer, Reply.ofFree] at replied
  | resize addr size =>
      refine ⟨accounted.resizeInPlace _ _, fun found replied => ?_⟩
      simp only [Session.call] at replied
      cases answer : (session.engine.resizeInPlace addr size).1 <;>
        simp [answer, Reply.ofResize] at replied
  | trim =>
      refine ⟨accounted.trim, ?_⟩
      intro addr same
      cases same

/-- A call records nothing stale if the address of an allocation is new to the table. -/
theorem undisturbed_call
    {session : Session β}
    (undisturbed : session.engine.Undisturbed)
    {thread : Nat}
    {call : Call}
    (fresh : ∀ addr, (session.call thread call).1 = .address addr →
      session.engine.table.get? addr = none) :
    (session.call thread call).2.engine.Undisturbed := by
  have allocated {answer : Except RequestError Nat}
      (fresh : ∀ addr, Reply.ofAllocation answer = .address addr →
        session.engine.table.get? addr = none)
      (addr : Nat)
      (served : answer = .ok addr) :
      session.engine.table.get? addr = none := fresh addr (by rw [served]; rfl)
  cases call with
  | enable =>
      exact undisturbed.enableIndicator _
  | setMode tier =>
      exact undisturbed.setMode _ _ _
  | allocate size =>
      exact undisturbed.route (allocated fresh)
  | allocateAligned size align =>
      exact undisturbed.route (allocated fresh)
  | allocateOn tier size =>
      exact undisturbed.route (allocated fresh)
  | allocateOnAligned tier size align =>
      exact undisturbed.route (allocated fresh)
  | free addr =>
      exact undisturbed.free _ _
  | resize addr size =>
      exact undisturbed.resizeInPlace _ _
  | trim =>
      exact undisturbed.trim

theorem run_snoc
    (session : Session β)
    (calls : List (Nat × Call))
    (thread : Nat)
    (call : Call) :
    session.run (calls ++ [(thread, call)]) = ((session.run calls).call thread call).2 := by
  rw [run, List.foldl_append]
  rfl

/-- Every run keeps the books and records nothing stale. -/
theorem accounted_run
    {session : Session (Recorder β)}
    (accounted : session.engine.Accounted [])
    (undisturbed : session.engine.Undisturbed)
    {calls : List (Nat × Call)}
    (abiding : ∀ before, before <+: calls → Dealing.Abiding (session.run before).dealings) :
    (session.run calls).engine.Accounted [] ∧ (session.run calls).engine.Undisturbed := by
  induction calls generalizing session with
  | nil =>
      exact ⟨accounted, undisturbed⟩
  | cons first rest inductionHypothesis =>
      obtain ⟨thread, call⟩ := first
      have afterCall := abiding [(thread, call)] ((List.prefix_cons_inj _).mpr List.nil_prefix)
      obtain ⟨kept, fresh⟩ := accounted_call accounted afterCall
      apply inductionHypothesis kept (undisturbed_call undisturbed fresh)
      intro before isPrefix
      exact abiding ((thread, call) :: before) ((List.prefix_cons_inj _).mpr isPrefix)

/-- Over backends that owe their dealings, every run of calls leaves its blocks safe, and no
allocation in it is given an address that is in the table. -/
theorem safe_run
    (config : Config)
    (bank : RegisterBank)
    (backends : PerTier β)
    (calls : List (Nat × Call))
    (abiding : ∀ before, before <+: calls →
      Dealing.Abiding ((opening config bank (backends.map Recorder.start)).run before).dealings) :
    ((opening config bank backends).run calls).engine.Safe ∧
      ∀ before thread call, before ++ [(thread, call)] <+: calls →
        ∀ addr, (((opening config bank backends).run before).call thread call).1 =
            .address addr →
          ((opening config bank backends).run before).engine.table.get? addr = none := by
  have plain :
      opening config bank backends =
        (opening config bank (backends.map Recorder.start)).unrecorded := by
    rw [opening, Engine.unrecorded_withBackends]
    rfl
  have accounted :
      (opening config bank (backends.map Recorder.start)).engine.Accounted [] :=
    Engine.accounted_withBackends config bank backends
  have undisturbed :
      (opening config bank (backends.map Recorder.start)).engine.Undisturbed :=
    Engine.undisturbed_withBackends config bank (backends.map Recorder.start)
  rw [plain]
  simp only [unrecorded_run, unrecorded_call]
  constructor
  · obtain ⟨kept, clean⟩ := accounted_run accounted undisturbed abiding
    exact (kept.safe clean (abiding calls (List.prefix_refl calls))).unrecorded
  · intro before thread call isPrefix addr replied
    have shorter : before <+: calls := (List.prefix_append before _).trans isPrefix
    have kept :=
      (accounted_run accounted undisturbed
        fun earlier isEarlier => abiding earlier (isEarlier.trans shorter)).1
    have afterCall := abiding _ isPrefix
    rw [run_snoc] at afterCall
    exact (accounted_call kept afterCall).2 addr replied

/-- Calls of two threads on both tiers, with a double free, a resize in place and a trim whose
first release fails. -/
def mixedCalls : List (Nat × Call) :=
  [(0, .allocateOn .host 100), (1, .allocateOnAligned .cxl 5000 4096), (0, .allocate 4096),
    (1, .resize 65536 90), (1, .setMode .cxl), (0, .free 65536), (1, .free 65536),
    (0, .allocate 24), (0, .free 69632), (1, .trim), (1, .allocateOn .host 40)]

/-- Backends of two tiers that lend from different ends of memory. -/
def distantBackends : PerTier SimulatedBackend :=
  ⟨.upwards 65536 0 [0], .upwards 1099511627776 4096 []⟩

theorem safe_run_mixedCalls :
    (∀ before, before <+: mixedCalls →
      Dealing.Abiding
        ((opening { Config.standard with segmentSize := 4096 } .initial
          (distantBackends.map Recorder.start)).run before).dealings) ∧
      ((opening { Config.standard with segmentSize := 4096 } .initial distantBackends).run
        mixedCalls).engine.Safe := by
  have abiding : ∀ before, before <+: mixedCalls →
      Dealing.Abiding
        ((opening { Config.standard with segmentSize := 4096 } .initial
          (distantBackends.map Recorder.start)).run before).dealings := by
    simp only [← List.mem_inits]
    decide +kernel
  have safe :=
    safe_run { Config.standard with segmentSize := 4096 } .initial distantBackends mixedCalls
  exact ⟨abiding, (safe abiding).1⟩

end Session

end TierHeap
