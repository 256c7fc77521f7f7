import TierHeap.Proofs.Allocator.Figures
import TierHeap.Proofs.Engine.Changes

/-!
# What the counters count

The counters of an engine are compared with the outcomes of the calls that were made, and with
the figures of the tiers.  A call counts what its reply says: each counter goes up by one with
the outcomes it counts and stays as it is with the others.  Counters are words, so they are the
exact numbers up to the bound of words.

The gauges are compared with the table elsewhere (`Engine.Reconciled`); here they are tied to
the numbers of allocations and frees.
-/

namespace TierHeap

structure Outcome where
  call : Call
  reply : Reply
  deriving DecidableEq, Repr

namespace Outcome

def outOfMemory
    (tier : Tier)
    (outcome : Outcome) : Bool :=
  match outcome.reply with
  | .refused (.outOfMemory asked _) => asked == tier
  | _ => false

/-- The size or the alignment of the request is not valid. -/
def invalid (outcome : Outcome) : Bool :=
  match outcome.reply with
  | .refused (.invalidSize _) => true
  | .refused (.invalidAlignment _) => true
  | _ => false

def resizedInPlace (outcome : Outcome) : Bool :=
  outcome.reply == .resized true

def failedFree : Outcome → Bool
  | ⟨.free _, .refused _⟩ => true
  | _ => false

def trim (outcome : Outcome) : Bool :=
  outcome.call == .trim

end Outcome

/-- The outcomes of a list of calls, each on behalf of its thread. -/
def Session.outcomes
    {β : Type}
    [Backend β]
    (session : Session β) : List (Nat × Call) → List Outcome
  | [] => []
  | (thread, call) :: rest =>
      ⟨call, (session.call thread call).1⟩ :: (session.call thread call).2.outcomes rest

/-- The counters of a tier agree with its figures and with the number of requests that it could
not supply. -/
structure TierCounters.Tallied
    (counters : TierCounters)
    (stats : ArenaStats)
    (exhausted : Nat) : Prop where
  frees_word : counters.frees < Word.bound
  live : Word.sub counters.allocations counters.frees = counters.liveBlocks
  arenaGrowths : counters.arenaGrowths = stats.growths % Word.bound
  outOfMemory : counters.outOfMemory = exhausted % Word.bound
  /-- A growth that the ceiling refuses is one of those requests. -/
  capacityFailures : stats.capacityFailures ≤ exhausted

namespace TierCounters.Tallied

variable {counters : TierCounters} {stats after : ArenaStats} {exhausted : Nat}

theorem transport
    (tallied : counters.Tallied stats exhausted)
    (growths : after.growths = stats.growths)
    (failures : after.capacityFailures = stats.capacityFailures) :
    counters.Tallied after exhausted := by
  refine ⟨tallied.frees_word, tallied.live, ?_, tallied.outOfMemory, ?_⟩
  · rw [growths]
    exact tallied.arenaGrowths
  · rw [failures]
    exact tallied.capacityFailures

theorem countAllocation
    (tallied : counters.Tallied stats exhausted)
    (size : Nat)
    {grew : Bool}
    (growths : after.growths = stats.growths + grew.toNat)
    (failures : after.capacityFailures = stats.capacityFailures) :
    (counters.countAllocation size grew).Tallied after exhausted := by
  have word := tallied.frees_word
  have live := tallied.live
  refine ⟨word, ?_, ?_, tallied.outOfMemory, ?_⟩
  · simp only [TierCounters.countAllocation, Word.add, Word.sub, Word.bound] at *
    omega
  · rw [growths]
    simp only [TierCounters.countAllocation, tallied.arenaGrowths, Word.add]
    cases grew with
    | false =>
        rfl
    | true =>
        exact Nat.mod_add_mod _ _ _
  · rw [failures]
    exact tallied.capacityFailures

theorem countFree
    (tallied : counters.Tallied stats exhausted)
    (size : Nat)
    (growths : after.growths = stats.growths)
    (failures : after.capacityFailures = stats.capacityFailures) :
    (counters.countFree size).Tallied after exhausted := by
  have word := tallied.frees_word
  have live := tallied.live
  have same := tallied.transport growths failures
  refine ⟨Nat.mod_lt _ (by decide), ?_, same.arenaGrowths, same.outOfMemory,
    same.capacityFailures⟩
  simp only [TierCounters.countFree, Word.add, Word.sub, Word.bound] at *
  omega

theorem countResize
    (tallied : counters.Tallied stats exhausted)
    (oldSize newSize : Nat)
    (growths : after.growths = stats.growths)
    (failures : after.capacityFailures = stats.capacityFailures) :
    (counters.countResize oldSize newSize).Tallied after exhausted := by
  have same := tallied.transport growths failures
  exact ⟨same.frees_word, same.live, same.arenaGrowths, same.outOfMemory,
    same.capacityFailures⟩

theorem countOutOfMemory
    (tallied : counters.Tallied stats exhausted)
    (growths : after.growths = stats.growths)
    (failures : after.capacityFailures ≤ stats.capacityFailures + 1) :
    counters.countOutOfMemory.Tallied after (exhausted + 1) := by
  refine ⟨tallied.frees_word, tallied.live, ?_, ?_, ?_⟩
  · rw [growths]
    exact tallied.arenaGrowths
  · simp only [TierCounters.countOutOfMemory, tallied.outOfMemory, Word.add]
    exact Nat.mod_add_mod _ _ _
  · have before := tallied.capacityFailures
    omega

end TierCounters.Tallied

/-! ## One call -/

def Word.countIf
    (counts : Bool)
    (counter : Nat) : Nat :=
  if counts then Word.add counter 1 else counter

theorem Word.countIf_countP
    {α : Type}
    (counted : α → Bool)
    {counter : Nat}
    {past : List α}
    (exact : counter = past.countP counted % Word.bound)
    (item : α) :
    Word.countIf (counted item) counter = (past ++ [item]).countP counted % Word.bound := by
  rw [List.countP_append, List.countP_singleton, exact, Word.countIf]
  by_cases counts : counted item = true
  · rw [if_pos counts, if_pos counts]
    exact Nat.mod_add_mod _ _ _
  · rw [if_neg counts, if_neg counts, Nat.add_zero]

/-- The counters of an engine agree with the figures of its tiers and with the outcomes of the
calls that were made. -/
structure Engine.Tallied
    {β : Type}
    (engine : Engine β)
    (outcomes : List Outcome) : Prop where
  tiers : ∀ tier,
    (engine.metrics.tiers.get tier).Tallied (engine.tierStats tier)
      (outcomes.countP (·.outOfMemory tier))
  unknownFrees :
    engine.metrics.unknownFrees = outcomes.countP Outcome.failedFree % Word.bound
  invalidRequests :
    engine.metrics.invalidRequests = outcomes.countP Outcome.invalid % Word.bound
  resizesInPlace :
    engine.metrics.resizesInPlace = outcomes.countP Outcome.resizedInPlace % Word.bound
  trims : engine.metrics.trims = outcomes.countP Outcome.trim % Word.bound

/-- From one state of the counters to another, those that belong to no tier have counted the
outcome. -/
structure Outcome.CountedBy
    (outcome : Outcome)
    (before after : Metrics) : Prop where
  unknownFrees : after.unknownFrees = Word.countIf outcome.failedFree before.unknownFrees
  invalidRequests : after.invalidRequests = Word.countIf outcome.invalid before.invalidRequests
  resizesInPlace :
    after.resizesInPlace = Word.countIf outcome.resizedInPlace before.resizesInPlace
  trims : after.trims = Word.countIf outcome.trim before.trims

/-- The release of a block, if the task is one. -/
def Task.isFree : Task → Bool
  | .free _ => true
  | _ => false

namespace Outcome

variable {active : Tier} {call : Call} {task : Task}

theorem failedFree_eq
    (asked : call.task? active = some task)
    (reply : Reply) :
    failedFree ⟨call, reply⟩ =
      (task.isFree && match reply with | .refused _ => true | _ => false) := by
  cases call <;> cases asked <;> cases reply <;> rfl

theorem trim_eq
    (asked : call.task? active = some task)
    (reply : Reply) :
    trim ⟨call, reply⟩ = (task == .trim) := by
  cases call <;> cases asked <;> rfl

end Outcome

namespace Task.Ends

variable {β : Type} [Backend β] {engine : Engine (Recorder β)} {task : Task} {reply : Reply}
  {change : Change (Recorder β)}

theorem countedBy
    (ends : task.Ends engine.tiers engine.table reply change)
    {active : Tier}
    {call : Call}
    (asked : call.task? active = some task) :
    Outcome.CountedBy ⟨call, reply⟩ engine.metrics (change.apply engine).metrics := by
  have free := Outcome.failedFree_eq asked reply
  have trim := Outcome.trim_eq asked reply
  cases ends with
  | invalid invalid =>
      rcases Engine.reserveAligned_eq_error invalid with rfl | rfl <;>
        exact ⟨by rw [free]; rfl, rfl, rfl, by rw [trim]; rfl⟩
  | invalidResize invalid =>
      cases (Engine.reserve_eq_error invalid).1
      exact ⟨by rw [free]; rfl, rfl, rfl, by rw [trim]; rfl⟩
  | _ =>
      exact ⟨by rw [free]; rfl, rfl, rfl, by rw [trim]; rfl⟩

/-- The counters of each tier have counted the outcome, in agreement with the tier's
figures. -/
theorem tallied_tier
    (ends : task.Ends engine.tiers engine.table reply change)
    {flight : List Block}
    (accounted : engine.Accounted flight)
    (abiding : Dealing.Abiding (change.apply engine).tiers.dealings)
    {tier : Tier}
    {exhausted : Nat}
    (tallied : (engine.metrics.tiers.get tier).Tallied (engine.tierStats tier) exhausted)
    (call : Call) :
    ((change.apply engine).metrics.tiers.get tier).Tallied ((change.apply engine).tierStats tier)
      (exhausted + (Outcome.outOfMemory tier ⟨call, reply⟩).toNat) := by
  cases ends with
  | invalid invalid =>
      rcases Engine.reserveAligned_eq_error invalid with rfl | rfl <;> exact tallied
  | invalidResize invalid =>
      cases (Engine.reserve_eq_error invalid).1
      exact tallied
  | @exhausted wanted size align reserved cause allocator valid tried =>
      by_cases own : tier = wanted
      · subst own
        have growths := growths_exhausted accounted valid tried abiding
        have failures := Allocator.capacityFailures_allocate_error tried
        simp only [Change.apply, Engine.tierStats, PerTier.get_set_self, Metrics.onOutOfMemory,
          PerTier.get_modify_self, Outcome.outOfMemory, beq_self_eq_true]
        exact tallied.countOutOfMemory growths failures
      · have other : (wanted == tier) = false := beq_false_of_ne (Ne.symm own)
        simp only [Change.apply, Engine.tierStats, PerTier.get_set_other _ own,
          Metrics.onOutOfMemory, PerTier.get_modify_other _ own, Outcome.outOfMemory, other]
        exact tallied
  | @allocated wanted size align reserved carve allocator valid tried =>
      by_cases own : tier = wanted
      · subst own
        obtain ⟨failures, growth⟩ := Allocator.figures_allocate_ok tried
        have growths : allocator.arena.growths =
            (engine.tiers.get tier).arena.growths + carve.grew.toNat := by
          rcases growth with ⟨grew, same⟩ | ⟨grew, segment, enlarged⟩
          · rw [grew]
            exact same
          · rw [grew]
            exact enlarged.growths
        simp only [Change.apply, Engine.tierStats, PerTier.get_set_self, Metrics.onAllocate,
          PerTier.get_modify_self]
        exact tallied.countAllocation size growths failures
      · simp only [Change.apply, Engine.tierStats, PerTier.get_set_other _ own,
          Metrics.onAllocate, PerTier.get_modify_other _ own]
        exact tallied
  | @freed addr block found =>
      by_cases own : tier = block.tier
      · subst own
        obtain ⟨growths, failures⟩ :=
          Allocator.figures_free (engine.tiers.get block.tier) block.addr block.reserved
        simp only [Change.apply, Engine.tierStats, Metrics.onFree, PerTier.get_modify_self]
        exact tallied.countFree block.size growths failures
      · simp only [Change.apply, Engine.tierStats, Metrics.onFree,
          PerTier.get_modify_other _ own]
        exact tallied
  | @resized addr size reserved block allocator valid found tried =>
      by_cases own : tier = block.tier
      · subst own
        obtain ⟨growths, failures⟩ := Allocator.figures_resize? tried
        simp only [Change.apply, Engine.tierStats, PerTier.get_set_self, Metrics.onResize,
          PerTier.get_modify_self]
        exact tallied.countResize block.size size growths failures
      · simp only [Change.apply, Engine.tierStats, PerTier.get_set_other _ own,
          Metrics.onResize, PerTier.get_modify_other _ own]
        exact tallied
  | trimmed =>
      obtain ⟨growths, failures⟩ :=
        Allocator.figures_releaseAll Engine.depth 0
          ((engine.tiers.get tier).arena.idle.drop 1) (engine.tiers.get tier)
      simp only [Change.apply, Engine.tierStats, PerTier.get_map]
      exact tallied.transport growths failures
  | _ =>
      exact tallied

end Task.Ends

structure Outcome.Uncounted (outcome : Outcome) : Prop where
  outOfMemory : ∀ tier, outcome.outOfMemory tier = false
  failedFree : outcome.failedFree = false
  invalid : outcome.invalid = false
  resizedInPlace : outcome.resizedInPlace = false
  trim : outcome.trim = false

theorem Engine.Tallied.skip
    {β : Type}
    {engine : Engine β}
    {past : List Outcome}
    (tallied : engine.Tallied past)
    {outcome : Outcome}
    (uncounted : outcome.Uncounted) :
    engine.Tallied (past ++ [outcome]) := by
  have same {counted : Outcome → Bool} (not : counted outcome = false) :
      (past ++ [outcome]).countP counted = past.countP counted := by
    rw [List.countP_append, List.countP_singleton, not]
    rfl
  refine ⟨fun tier => ?_, ?_, ?_, ?_, ?_⟩
  · rw [same (uncounted.outOfMemory tier)]
    exact tallied.tiers tier
  · rw [same uncounted.failedFree]
    exact tallied.unknownFrees
  · rw [same uncounted.invalid]
    exact tallied.invalidRequests
  · rw [same uncounted.resizedInPlace]
    exact tallied.resizesInPlace
  · rw [same uncounted.trim]
    exact tallied.trims

/-- A call that asks nothing of the tiers is counted by nothing. -/
theorem Call.uncounted_register
    {active : Tier}
    {call : Call}
    (none : call.task? active = none)
    (mode : ModeRegister)
    (bank : RegisterBank)
    (thread : Nat) :
    Outcome.Uncounted ⟨call, (call.register mode bank thread).1⟩ := by
  cases call with
  | enable =>
      exact ⟨fun _ => rfl, rfl, rfl, rfl, rfl⟩
  | setMode tier =>
      exact ⟨fun _ => rfl, rfl, rfl, rfl, rfl⟩
  | _ =>
      cases none

namespace Session

variable {β : Type} [Backend β] {session : Session (Recorder β)} {thread : Nat} {call : Call}

/-- A call counts its outcome. -/
theorem tallied_call
    (accounted : session.engine.Accounted [])
    (abiding : Dealing.Abiding (session.call thread call).2.dealings)
    {past : List Outcome}
    (tallied : session.engine.Tallied past) :
    (session.call thread call).2.engine.Tallied
      (past ++ [⟨call, (session.call thread call).1⟩]) := by
  cases asked : call.task? (session.active thread) with
  | none =>
      obtain ⟨log, made⟩ := call_of_no_task asked
      rw [made]
      have skipped :=
        tallied.skip (Call.uncounted_register asked session.engine.mode session.bank thread)
      exact { skipped with }
  | some task =>
      obtain ⟨reply, change, log, made, ends⟩ := call_ends asked
      rw [made] at abiding ⊢
      have counted := ends.countedBy asked
      refine ⟨fun tier => ?_, ?_, ?_, ?_, ?_⟩
      · -- The tier's number of failed requests is a `Nat`, so it grows by one or by none.
        rw [List.countP_append, List.countP_singleton]
        have ofTier := ends.tallied_tier accounted abiding (tallied.tiers tier) call
        by_cases exhausted : Outcome.outOfMemory tier ⟨call, reply⟩ = true
        · rw [exhausted] at ofTier ⊢
          exact ofTier
        · rw [Bool.eq_false_of_not_eq_true exhausted] at ofTier ⊢
          exact ofTier
      · exact counted.unknownFrees.trans (Word.countIf_countP _ tallied.unknownFrees _)
      · exact counted.invalidRequests.trans (Word.countIf_countP _ tallied.invalidRequests _)
      · exact counted.resizesInPlace.trans (Word.countIf_countP _ tallied.resizesInPlace _)
      · exact counted.trims.trans (Word.countIf_countP _ tallied.trims _)

/-- A call leaves the gauges showing the table. -/
theorem gauged_call
    (accounted : session.engine.Accounted [])
    (abiding : Dealing.Abiding (session.call thread call).2.dealings)
    (gauged : session.engine.Gauged) :
    (session.call thread call).2.engine.Gauged := by
  cases asked : call.task? (session.active thread) with
  | none =>
      obtain ⟨log, made⟩ := call_of_no_task asked
      rw [made]
      exact gauged
  | some task =>
      obtain ⟨reply, change, log, made, ends⟩ := call_ends asked
      rw [made] at abiding ⊢
      exact ends.gauged accounted abiding gauged

theorem tallied_run_of
    (accounted : session.engine.Accounted [])
    (gauged : session.engine.Gauged)
    {past : List Outcome}
    (tallied : session.engine.Tallied past)
    {calls : List (Nat × Call)}
    (abiding : ∀ before, before <+: calls → Dealing.Abiding (session.run before).dealings) :
    (session.run calls).engine.Accounted [] ∧
      (session.run calls).engine.Gauged ∧
        (session.run calls).engine.Tallied (past ++ session.outcomes calls) := by
  induction calls generalizing session past with
  | nil =>
      rw [outcomes, List.append_nil]
      exact ⟨accounted, gauged, tallied⟩
  | cons first rest inductionHypothesis =>
      obtain ⟨thread, call⟩ := first
      have afterCall := abiding [(thread, call)] ((List.prefix_cons_inj _).mpr List.nil_prefix)
      have kept := (accounted_call accounted afterCall).1
      have shown := gauged_call accounted afterCall gauged
      have counted := tallied_call accounted afterCall tallied
      rw [outcomes, List.append_cons]
      apply inductionHypothesis kept shown counted
      intro before isPrefix
      exact abiding ((thread, call) :: before) ((List.prefix_cons_inj _).mpr isPrefix)

omit [Backend β] in
theorem Unused.tallied (unused : session.Unused) : session.engine.Tallied [] := by
  refine ⟨fun tier => ?_, ?_, ?_, ?_, ?_⟩
  · have arena := unused.arena tier
    rw [unused.metrics]
    simp only [Engine.tierStats, Allocator.stats, arena]
    cases tier <;> exact ⟨by decide, by decide, rfl, rfl, Nat.le_refl _⟩
  all_goals rw [unused.metrics]; rfl

/-- Over backends that owe their dealings, the counters of an engine agree after every run with
the table, with the figures of the tiers and with the outcomes of the calls. -/
theorem tallied_run
    (built : session.Built)
    (calls : List (Nat × Call))
    (abiding : ∀ before, before <+: calls → Dealing.Abiding (session.run before).dealings) :
    (session.run calls).engine.Reconciled ∧
      (session.run calls).engine.Tallied (session.outcomes calls) := by
  have unused := built.unused
  obtain ⟨accounted, gauged, tallied⟩ :=
    tallied_run_of unused.accounted unused.gauged unused.tallied abiding
  exact ⟨accounted.reconciled gauged (abiding calls (List.prefix_refl calls)), tallied⟩

/-- Calls that are counted in every way: an oversized request, a request beyond the ceiling,
one that the backend refuses, a double release, a resize in place and a trim. -/
def countedCalls : List (Nat × Call) :=
  [(0, .allocateOn .host 100), (1, .allocateOnAligned .cxl 5000 3), (0, .allocate 0),
    (1, .resize 65536 90), (0, .allocateOn .cxl 9000), (0, .allocateOn .host 20000),
    (1, .allocateOn .cxl 4096), (0, .free 65536), (1, .free 65536), (1, .setMode .cxl),
    (0, .trim)]

/-- A configuration with small segments and a ceiling of two pages for the CXL tier. -/
def cappedConfig : Config :=
  { Config.standard with segmentSize := 4096 }.withCapacity .cxl (some 8192)

theorem tallied_run_countedCalls :
    ((opening cappedConfig .initial (stingyBackends.map Recorder.start)).run
        countedCalls).engine.Reconciled ∧
      ((opening cappedConfig .initial (stingyBackends.map Recorder.start)).run
          countedCalls).engine.Tallied
        ((opening cappedConfig .initial (stingyBackends.map Recorder.start)).outcomes
          countedCalls) := by
  have abiding : ∀ before, before <+: countedCalls →
      Dealing.Abiding
        ((opening cappedConfig .initial (stingyBackends.map Recorder.start)).run
          before).dealings := by
    simp only [← List.mem_inits]
    decide +kernel
  exact tallied_run (.withBackends cappedConfig .initial stingyBackends) countedCalls abiding

end Session

end TierHeap
