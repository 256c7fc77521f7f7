import TierHeap.Proofs.Engine.Runs
import TierHeap.Proofs.Engine.Tasks

/-!
# Selecting tiers

The register selects the tier of an allocation that names none, at the moment of the call, and
has no other say.  So a run is matched by the run in which that tier is written into every
allocation and the register is left alone (`Session.pinned`): the replies are the same, and so
are tiers, table and counters at every moment.  Queries tell the two runs apart only where they
report the register or the log.

Which tier a block is of depends on allocations and releases of its address alone
(`Session.assigned?`); a release returns it to that tier, whichever tier is selected then.
-/

namespace TierHeap

inductive Query where
  | block (addr : Nat)
  | owner (addr : Nat)
  | owns (addr : Nat)
  | usableSize (addr : Nat)
  | liveBlocks
  | tierStats (tier : Tier)
  | verify
  | mode
  | indicator
  | stats
  | records
  deriving DecidableEq, Repr

namespace Query

/-- What an answer consists of. -/
def Answer : Query → Type
  | .block _ => Option Block
  | .owner _ => Option Tier
  | .owns _ => Bool
  | .usableSize _ => Except RequestError Nat
  | .liveBlocks => Nat
  | .tierStats _ => ArenaStats
  | .verify => Except InvariantViolation Unit
  | .mode => Tier
  | .indicator => Bool
  | .stats => EngineStats
  | .records => List Log.Record

/-- The answer reports something of the register or the log. -/
def Reports : Query → Prop
  | .mode => True
  | .indicator => True
  | .stats => True
  | .records => True
  | _ => False

end Query

/-- The figures without those of the register and the log. -/
def EngineStats.unregistered (stats : EngineStats) : EngineStats :=
  { stats with
    mode := .host
    indicatorEnabled := false
    modeSwitches := 0
    recordsDropped := 0 }

namespace Session

variable {β : Type}

def ask
    (session : Session β)
    (thread : Nat) : (query : Query) → query.Answer
  | .block addr => session.engine.block? addr
  | .owner addr => session.engine.ownerOf? addr
  | .owns addr => session.engine.owns addr
  | .usableSize addr => session.engine.usableSize addr
  | .liveBlocks => session.engine.liveBlocks
  | .tierStats tier => session.engine.tierStats tier
  | .verify => session.engine.verify
  | .mode => session.active thread
  | .indicator => session.engine.mode.enabled
  | .stats => session.engine.stats (session.active thread)
  | .records => session.engine.log.snapshot

/-- Two sessions differ in the register and the log at most. -/
structure Alike (first second : Session β) : Prop where
  tiers : first.engine.tiers = second.engine.tiers
  table : first.engine.table = second.engine.table
  metrics : first.engine.metrics = second.engine.metrics
  scope : first.engine.mode.scope = second.engine.mode.scope

theorem Alike.refl (session : Session β) : session.Alike session :=
  ⟨rfl, rfl, rfl, rfl⟩

namespace Alike

variable {first second : Session β}

theorem verifyBlocks
    (alike : first.Alike second)
    (previous : Option Block)
    (tallies : PerTier BlockTally)
    (blocks : List Block) :
    first.engine.verifyBlocks previous tallies blocks =
      second.engine.verifyBlocks previous tallies blocks := by
  have inside : first.engine.insideArena = second.engine.insideArena := by
    funext block
    rw [Engine.insideArena, Engine.insideArena, alike.tiers]
  induction blocks generalizing previous tallies with
  | nil =>
      rfl
  | cons block rest inductionHypothesis =>
      simp only [Engine.verifyBlocks, inside, inductionHypothesis]

theorem tierStats (alike : first.Alike second) :
    first.engine.tierStats = second.engine.tierStats := by
  funext tier
  rw [Engine.tierStats, Engine.tierStats, alike.tiers]

theorem verifyTier (alike : first.Alike second) :
    first.engine.verifyTier = second.engine.verifyTier := by
  funext tallies tier
  simp only [Engine.verifyTier, alike.tierStats]

theorem ask
    (alike : first.Alike second)
    (thread : Nat)
    {query : Query}
    (silent : ¬query.Reports) :
    first.ask thread query = second.ask thread query := by
  cases query with
  | verify =>
      simp only [Session.ask, Engine.verify, alike.verifyBlocks, alike.verifyTier, alike.table]
      rfl
  | mode | indicator | stats | records =>
      exact absurd trivial silent
  | _ =>
      simp only [Session.ask, Engine.block?, Engine.ownerOf?, Engine.owns, Engine.usableSize,
        Engine.liveBlocks, Engine.tierStats, alike.tiers, alike.table]
      rfl

theorem stats
    (alike : first.Alike second)
    (firstActive secondActive : Tier) :
    (first.engine.stats firstActive).unregistered =
      (second.engine.stats secondActive).unregistered := by
  simp only [Engine.stats, EngineStats.unregistered, Engine.liveBlocks, alike.tierStats,
    alike.table, alike.metrics, alike.scope]

variable [Backend β]

theorem changed
    (alike : first.Alike second)
    (change : Change β)
    (firstLog secondLog : Log.Lifecycle) :
    (first.changed change firstLog).Alike (second.changed change secondLog) := by
  obtain ⟨⟨firstConfig, firstMode, tiers, table, metrics, log⟩, firstBank⟩ := first
  obtain ⟨⟨secondConfig, secondMode, tiers', table', metrics', log'⟩, secondBank⟩ := second
  obtain ⟨rfl : tiers = tiers', rfl : table = table', rfl : metrics = metrics', scope⟩ := alike
  cases change <;> exact ⟨rfl, rfl, rfl, scope⟩

end Alike

end Session

/-- The call with the tier that it selects written into it; a call that sets the register is
left out. -/
def Call.pinned? (active : Tier) : Call → Option Call
  | .enable => none
  | .setMode _ => none
  | .allocate size => some (.allocateOn active size)
  | .allocateAligned size align => some (.allocateOnAligned active size align)
  | call => some call

theorem Call.task?_of_pinned?
    {active : Tier}
    {call explicit : Call}
    (kept : call.pinned? active = some explicit) :
    ∃ task, call.task? active = some task ∧ ∀ other, explicit.task? other = some task := by
  cases call <;> cases kept <;> refine ⟨_, rfl, fun _ => rfl⟩

theorem Call.task?_of_not_pinned?
    {active : Tier}
    {call : Call}
    (leftOut : call.pinned? active = none) :
    call.task? active = none := by
  cases call <;> first | rfl | cases leftOut

namespace Session

variable {β : Type} [Backend β]

/-- The calls of a run as they are pinned, each when it is made. -/
def pinned
    (session : Session β) : List (Nat × Call) → List (Nat × Call)
  | [] => []
  | (thread, call) :: rest =>
      let later := (session.call thread call).2.pinned rest
      match call.pinned? (session.active thread) with
      | none => later
      | some explicit => (thread, explicit) :: later

theorem pinned_append
    (session : Session β)
    (first second : List (Nat × Call)) :
    session.pinned (first ++ second) =
      session.pinned first ++ (session.run first).pinned second := by
  induction first generalizing session with
  | nil =>
      rfl
  | cons head rest inductionHypothesis =>
      obtain ⟨thread, call⟩ := head
      simp only [List.cons_append, pinned, inductionHypothesis]
      cases call.pinned? (session.active thread) <;> rfl

namespace Alike

variable {first second : Session β} {thread : Nat} {call : Call}

/-- Calls with the same task do the same, whichever threads make them. -/
theorem call_of_task
    (alike : first.Alike second)
    {other : Call}
    {otherThread : Nat}
    {task : Task}
    (asked : call.task? (first.active thread) = some task)
    (otherAsked : other.task? (second.active otherThread) = some task) :
    (first.call thread call).1 = (second.call otherThread other).1 ∧
      (first.call thread call).2.Alike (second.call otherThread other).2 := by
  obtain ⟨firstLog, firstMade⟩ := Session.call_of_task asked
  obtain ⟨secondLog, secondMade⟩ := Session.call_of_task otherAsked
  rw [firstMade, secondMade, alike.tiers, alike.table]
  exact ⟨rfl, alike.changed _ firstLog secondLog⟩

theorem call_pinned
    (alike : first.Alike second)
    {explicit : Call}
    (kept : call.pinned? (first.active thread) = some explicit) :
    (first.call thread call).1 = (second.call thread explicit).1 ∧
      (first.call thread call).2.Alike (second.call thread explicit).2 := by
  obtain ⟨task, asked, askedPinned⟩ := Call.task?_of_pinned? kept
  exact alike.call_of_task asked (askedPinned (second.active thread))

theorem call_leftOut
    (alike : first.Alike second)
    (leftOut : call.pinned? (first.active thread) = none) :
    (first.call thread call).2.Alike second := by
  obtain ⟨log, same⟩ := call_of_no_task (Call.task?_of_not_pinned? leftOut)
  rw [same]
  exact
    ⟨alike.tiers, alike.table, alike.metrics,
      (Call.scope_register _ _ thread call).trans alike.scope⟩

theorem run_pinned
    (alike : first.Alike second)
    (calls : List (Nat × Call)) :
    (first.run calls).Alike (second.run (first.pinned calls)) := by
  induction calls generalizing first second with
  | nil =>
      exact alike
  | cons head rest inductionHypothesis =>
      obtain ⟨thread, call⟩ := head
      simp only [pinned]
      cases kept : call.pinned? (first.active thread) with
      | none =>
          exact inductionHypothesis (alike.call_leftOut kept)
      | some explicit =>
          exact inductionHypothesis (alike.call_pinned kept).2

end Alike

/-- The tier of the block at an address after a call: an allocation that is given the address
assigns the tier that was selected for it, and a release of the address takes it back. -/
def reassigned
    (session : Session β)
    (thread : Nat)
    (call : Call)
    (addr : Nat)
    (tier : Option Tier) : Option Tier :=
  match call.task? (session.active thread) with
  | some (.allocate selected _ _) =>
      if (session.call thread call).1 = .address addr then some selected else tier
  | some (.free freed) => if freed = addr then none else tier
  | _ => tier

/-- The tier of the block at an address after a run, told by allocations and releases alone. -/
def assigned?
    (session : Session β)
    (addr : Nat)
    (tier : Option Tier) : List (Nat × Call) → Option Tier
  | [] => tier
  | (thread, call) :: rest =>
      (session.call thread call).2.assigned? addr (session.reassigned thread call addr tier) rest

theorem ownerOf?_call
    (session : Session β)
    (thread : Nat)
    (call : Call)
    (addr : Nat) :
    (session.call thread call).2.engine.ownerOf? addr =
      session.reassigned thread call addr (session.engine.ownerOf? addr) := by
  cases asked : call.task? (session.active thread) with
  | none =>
      obtain ⟨log, same⟩ := call_of_no_task asked
      rw [same, reassigned, asked]
      rfl
  | some task =>
      obtain ⟨reply, change, log, made, ends⟩ := call_ends asked
      rw [reassigned, asked, made]
      simp only [changed, withEngine, Engine.ownerOf?, Engine.block?]
      cases ends with
      | @allocated tier size align reserved carve allocator valid tried =>
          simp only [Change.apply, BlockTable.get?_insert, Reply.address.injEq]
          by_cases same : carve.addr = addr
          · simp only [same, if_true, Option.map_some]
          · simp only [same, Ne.symm same, if_false]
      | @unknownFree freed absent =>
          by_cases same : freed = addr
          · subst same
            simp only [Change.apply, absent, if_true, Option.map_none]
          · simp only [Change.apply, same, if_false]
      | @freed freed block found =>
          simp only [Change.apply, BlockTable.get?_remove]
          by_cases same : freed = addr
          · simp only [same, if_true, Option.map_none]
          · simp only [same, Ne.symm same, if_false]
      | resized valid found tried =>
          -- The block gets a new length and keeps its tier.
          simp only [Change.apply, BlockTable.get?_modify]
          split
          · rw [Option.map_map]
            rfl
          · rfl
      | _ =>
          rfl

theorem ownerOf?_run
    (session : Session β)
    (addr : Nat)
    (calls : List (Nat × Call)) :
    (session.run calls).engine.ownerOf? addr =
      session.assigned? addr (session.engine.ownerOf? addr) calls := by
  induction calls generalizing session with
  | nil =>
      rfl
  | cons head rest inductionHypothesis =>
      obtain ⟨thread, call⟩ := head
      rw [assigned?, ← ownerOf?_call]
      exact inductionHypothesis (session.call thread call).2

theorem call_free_of_found
    {session : Session β}
    {addr : Nat}
    {block : Block}
    (found : session.engine.block? addr = some block)
    (thread : Nat) :
    (session.call thread (.free addr)).1 = .freed block.tier ∧
      (session.call thread (.free addr)).2.engine.tiers =
        session.engine.tiers.modify block.tier (·.free block.addr block.reserved) := by
  have present : session.engine.table.get? addr = some block := found
  have asked : Call.task? (session.active thread) (.free addr) = some (.free addr) := rfl
  obtain ⟨log, made⟩ := call_of_task asked
  rw [made, Task.outcome, Task.release, present]
  exact ⟨rfl, rfl⟩

/-! ## Runs -/

/-- A run is matched by the run of its pinned calls. -/
structure MatchesPinned
    (session : Session β)
    (calls : List (Nat × Call)) : Prop where
  /-- Tiers, table and counters are the same at every moment. -/
  alike : ∀ before, before <+: calls →
    session.pinned before <+: session.pinned calls ∧
      (session.run before).Alike (session.run (session.pinned before))
  /-- A call that is kept has the same reply. -/
  replies : ∀ before thread call, before ++ [(thread, call)] <+: calls →
    ∀ explicit, call.pinned? ((session.run before).active thread) = some explicit →
      session.pinned (before ++ [(thread, call)]) =
          session.pinned before ++ [(thread, explicit)] ∧
        ((session.run before).call thread call).1 =
          ((session.run (session.pinned before)).call thread explicit).1
  /-- So has a query at any moment, unless it reports something of the register or the log. -/
  answers : ∀ before, before <+: calls → ∀ thread query, ¬query.Reports →
    (session.run before).ask thread query =
      (session.run (session.pinned before)).ask thread query
  /-- Of the figures, only those of the register and the log differ. -/
  figures : ∀ before, before <+: calls → ∀ thread,
    EngineStats.unregistered ((session.run before).ask thread .stats) =
      EngineStats.unregistered ((session.run (session.pinned before)).ask thread .stats)
  /-- The tier of a block is the one that was selected when it was allocated, until it is
  released. -/
  assigned : ∀ before, before <+: calls → ∀ addr,
    (session.run before).engine.ownerOf? addr =
      session.assigned? addr (session.engine.ownerOf? addr) before
  /-- Any thread's release returns a block to the tier it is of. -/
  freed : ∀ before, before <+: calls → ∀ addr block,
    (session.run before).engine.block? addr = some block → ∀ thread,
      ((session.run before).call thread (.free addr)).1 = .freed block.tier ∧
        ((session.run before).call thread (.free addr)).2.engine.tiers =
          (session.run before).engine.tiers.modify block.tier
            (·.free block.addr block.reserved)

/-- In any scope and over any backends, the register has no say but for the tiers that it
selects. -/
theorem matchesPinned_run
    (session : Session β)
    (calls : List (Nat × Call)) :
    session.MatchesPinned calls := by
  have alike (before : List (Nat × Call)) :
      (session.run before).Alike (session.run (session.pinned before)) :=
    (Alike.refl session).run_pinned before
  refine ⟨?_, ?_, ?_, ?_, ?_, ?_⟩
  · rintro before ⟨later, rfl⟩
    rw [pinned_append]
    exact ⟨List.prefix_append _ _, alike before⟩
  · intro before thread call _ explicit kept
    refine ⟨?_, ((alike before).call_pinned kept).1⟩
    rw [pinned_append, pinned, kept]
    rfl
  · exact fun before _ thread query silent => (alike before).ask thread silent
  · exact fun before _ thread => (alike before).stats _ _
  · exact fun before _ addr => session.ownerOf?_run addr before
  · exact fun before _ addr block found thread => call_free_of_found found thread

/-- In thread scope, one thread selects the other tier, and both allocate and release what the
other one has allocated. -/
def crossedCalls : List (Nat × Call) :=
  [(0, .enable), (0, .setMode .cxl), (0, .allocate 100), (1, .allocate 100), (0, .setMode .host),
    (1, .free 1099511627776), (0, .free 65536)]

theorem matchesPinned_run_crossedCalls :
    (opening { Config.standard with scope := .thread } .initial distantBackends).pinned
          crossedCalls =
        [(0, .allocateOn .cxl 100), (1, .allocateOn .host 100), (1, .free 1099511627776),
          (0, .free 65536)] ∧
      (((opening { Config.standard with scope := .thread } .initial distantBackends).run
        (crossedCalls.take 5)).call 1 (.free 1099511627776)).1 = .freed .cxl := by
  refine ⟨by decide +kernel, ?_⟩
  have matched :=
    matchesPinned_run (opening { Config.standard with scope := .thread } .initial distantBackends)
      crossedCalls
  have found :
      ((opening { Config.standard with scope := .thread } .initial distantBackends).run
          (crossedCalls.take 5)).engine.block? 1099511627776 =
        some ⟨1099511627776, 100, 112, .cxl⟩ := by decide +kernel
  exact (matched.freed (crossedCalls.take 5) (List.take_prefix 5 crossedCalls) _ _ found 1).1

/-- Figures that report the register tell a run from that of its pinned calls. -/
theorem figures_tell_pinned :
    ¬∀ before, before <+: [(0, Call.setMode .cxl)] → ∀ thread query,
      ((opening Config.standard .initial distantBackends).run before).ask thread query =
        ((opening Config.standard .initial distantBackends).run
          ((opening Config.standard .initial distantBackends).pinned before)).ask thread query := by
  intro same
  have figures := same [(0, .setMode .cxl)] (List.prefix_refl _) 0 .stats
  have modes : Tier.cxl = Tier.host := congrArg EngineStats.mode figures
  cases modes

end Session

end TierHeap
