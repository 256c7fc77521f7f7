import TierHeap.Proofs.Engine.Selection

/-!
# Separation of the tiers

Leave out of a run what does not concern a tier: the allocations on the other one, and the
releases and resizes of its blocks (`Session.confined`).  What is left does the same as before:
it gets the same replies, and the tier's allocator, its backend with it, its counters and its
blocks are the same at every moment.  So nothing that happens to one tier changes what the other
one does.

Both tiers share the block table, where an address has one block.  So this takes that no
allocation on the other tier is given the address of a block of the tier (`Session.Unmixed`),
which backends that owe their dealings never let happen.
-/

namespace TierHeap

namespace PerTier

variable {α : Type}

theorem get_set_congr
    {first second : PerTier α}
    {tier : Tier}
    (same : second.get tier = first.get tier)
    (changed : Tier)
    (value : α) :
    (second.set changed value).get tier = (first.set changed value).get tier := by
  by_cases own : tier = changed
  · subst own
    rw [get_set_self, get_set_self]
  · rw [get_set_other _ own, get_set_other _ own]
    exact same

theorem get_modify_congr
    {first second : PerTier α}
    {tier : Tier}
    (same : second.get tier = first.get tier)
    (changed : Tier)
    (change : α → α) :
    (second.modify changed change).get tier = (first.modify changed change).get tier := by
  by_cases own : tier = changed
  · subst own
    rw [get_modify_self, get_modify_self, same]
  · rw [get_modify_other _ own, get_modify_other _ own]
    exact same

end PerTier

namespace Session

variable {β : Type}

/-- The block at an address, if it is of the tier. -/
def ownBlock?
    (session : Session β)
    (tier : Tier)
    (addr : Nat) : Option Block :=
  (session.engine.table.get? addr).filter fun block => block.tier = tier

def ownOrVacant
    (session : Session β)
    (tier : Tier)
    (addr : Nat) : Bool :=
  (session.engine.ownerOf? addr).all (· = tier)

/-- The call concerns a tier: it is no allocation on the other one, and neither releases nor
resizes a block of it. -/
def concerns
    (session : Session β)
    (tier : Tier)
    (thread : Nat)
    (call : Call) : Bool :=
  match call.task? (session.active thread) with
  | some (.allocate asked _ _) => asked = tier
  | some (.free addr) => session.ownOrVacant tier addr
  | some (.resize addr _) => session.ownOrVacant tier addr
  | some .trim => true
  | none => true

/-- The query is about a tier: it asks for its figures, or about an address that has no block
of the other one. -/
def asksAbout
    (session : Session β)
    (tier : Tier) : Query → Bool
  | .tierStats asked => asked = tier
  | .block addr => session.ownOrVacant tier addr
  | .owner addr => session.ownOrVacant tier addr
  | .owns addr => session.ownOrVacant tier addr
  | .usableSize addr => session.ownOrVacant tier addr
  | _ => false

/-- The calls of a run that concern a tier, each when it is made. -/
def confined
    [Backend β]
    (tier : Tier)
    (session : Session β) : List (Nat × Call) → List (Nat × Call)
  | [] => []
  | (thread, call) :: rest =>
      let later := (session.call thread call).2.confined tier rest
      if session.concerns tier thread call then (thread, call) :: later else later

theorem confined_append
    [Backend β]
    (tier : Tier)
    (session : Session β)
    (first second : List (Nat × Call)) :
    session.confined tier (first ++ second) =
      session.confined tier first ++ (session.run first).confined tier second := by
  induction first generalizing session with
  | nil =>
      rfl
  | cons head rest inductionHypothesis =>
      obtain ⟨thread, call⟩ := head
      simp only [List.cons_append, confined, inductionHypothesis]
      split <;> rfl

/-- The second session is the first one without the blocks of the other tier, whose allocator
may be different. -/
structure AgreeOn
    (tier : Tier)
    (first second : Session β) : Prop where
  allocator : second.engine.tiers.get tier = first.engine.tiers.get tier
  blocks : ∀ addr, second.engine.table.get? addr = first.ownBlock? tier addr
  counters : second.engine.metrics.tiers.get tier = first.engine.metrics.tiers.get tier
  mode : second.engine.mode = first.engine.mode
  bank : second.bank = first.bank

namespace AgreeOn

variable {tier : Tier} {first second : Session β}

theorem active
    (agree : AgreeOn tier first second)
    (thread : Nat) :
    second.active thread = first.active thread := by
  rw [Session.active, Session.active, agree.mode, agree.bank]

theorem get?_of_own
    (agree : AgreeOn tier first second)
    {addr : Nat}
    (own : first.ownOrVacant tier addr = true) :
    second.engine.table.get? addr = first.engine.table.get? addr := by
  rw [agree.blocks, ownBlock?]
  simp only [ownOrVacant, Engine.ownerOf?, Engine.block?] at own
  cases found : first.engine.table.get? addr with
  | none =>
      rfl
  | some block =>
      rw [found] at own
      exact Option.filter_eq_some_iff.mpr ⟨rfl, own⟩

theorem ask
    (agree : AgreeOn tier first second)
    (thread : Nat)
    {query : Query}
    (about : first.asksAbout tier query = true) :
    second.ask thread query = first.ask thread query := by
  cases query with
  | tierStats asked =>
      obtain rfl : asked = tier := of_decide_eq_true about
      simp only [Session.ask, Engine.tierStats, agree.allocator]
      rfl
  | block addr | owner addr | owns addr | usableSize addr =>
      simp only [Session.ask, Engine.block?, Engine.ownerOf?, Engine.owns, Engine.usableSize,
        BlockTable.contains, agree.get?_of_own about]
      rfl
  | _ =>
      cases about

variable [Backend β]

theorem outcome
    (agree : AgreeOn tier first second)
    {thread : Nat}
    {call : Call}
    {task : Task}
    (asked : call.task? (first.active thread) = some task)
    (concerned : first.concerns tier thread call = true)
    (notTrim : task ≠ .trim) :
    task.outcome second.engine.tiers second.engine.table =
      task.outcome first.engine.tiers first.engine.table := by
  rw [concerns, asked] at concerned
  cases task with
  | allocate wanted size align =>
      obtain rfl : wanted = tier := of_decide_eq_true concerned
      simp only [Task.outcome, Task.allocation, agree.allocator]
  | free addr =>
      simp only [Task.outcome, Task.release, agree.get?_of_own concerned]
  | resize addr size =>
      simp only [Task.outcome, Task.resizing, agree.get?_of_own concerned]
      cases Engine.reserve size with
      | error err =>
          rfl
      | ok reserved =>
          cases found : first.engine.table.get? addr with
          | none =>
              rfl
          | some block =>
              have own : block.tier = tier := by
                simp only [ownOrVacant, Engine.ownerOf?, Engine.block?, found] at concerned
                exact of_decide_eq_true concerned
              simp only [own, agree.allocator]
  | trim =>
      exact absurd rfl notTrim

/-- A change that both make leaves them in agreement, unless it enters a block of the other
tier. -/
theorem changed
    (agree : AgreeOn tier first second)
    {change : Change β}
    (entersOwn : ∀ block grew allocator, change = .allocated block grew allocator →
      block.tier = tier)
    (firstLog secondLog : Log.Lifecycle) :
    AgreeOn tier (first.changed change firstLog) (second.changed change secondLog) := by
  obtain ⟨allocator, blocks, counters, mode, bank⟩ := agree
  cases change with
  | nothing | invalidRequest | unknownFree =>
      exact ⟨allocator, blocks, counters, mode, bank⟩
  | exhausted wanted after =>
      refine ⟨?_, blocks, ?_, mode, bank⟩
      · exact PerTier.get_set_congr allocator wanted after
      · exact PerTier.get_modify_congr counters wanted _
  | allocated block grew after =>
      have own := entersOwn block grew after rfl
      refine ⟨?_, ?_, ?_, mode, bank⟩
      · exact PerTier.get_set_congr allocator block.tier after
      · intro addr
        simp only [Session.changed, withEngine, Change.apply, ownBlock?, BlockTable.get?_insert]
        split
        · exact (Option.filter_eq_some_iff.mpr ⟨rfl, by simp [own]⟩).symm
        · exact blocks addr
      · exact PerTier.get_modify_congr counters block.tier _
  | freed freed block =>
      refine ⟨?_, ?_, ?_, mode, bank⟩
      · exact PerTier.get_modify_congr allocator block.tier _
      · intro addr
        simp only [Session.changed, withEngine, Change.apply, ownBlock?, BlockTable.get?_remove]
        split
        · rfl
        · exact blocks addr
      · exact PerTier.get_modify_congr counters block.tier _
  | resized block newSize newReserved after =>
      refine ⟨?_, ?_, ?_, mode, bank⟩
      · exact PerTier.get_set_congr allocator block.tier after
      · intro addr
        simp only [Session.changed, withEngine, Change.apply, ownBlock?, BlockTable.get?_modify]
        split
        · rw [blocks, ownBlock?, Option.filter_map]
          rfl
        · exact blocks addr
      · exact PerTier.get_modify_congr counters block.tier _
  | trimmed =>
      refine ⟨?_, blocks, counters, mode, bank⟩
      simp only [Session.changed, withEngine, Change.apply, PerTier.get_map, allocator]

/-- A call that concerns the tier keeps the agreement, and unless it is a trim it has the same
reply. -/
theorem call_kept
    (agree : AgreeOn tier first second)
    {thread : Nat}
    {call : Call}
    (concerned : first.concerns tier thread call = true) :
    (call ≠ .trim → (second.call thread call).1 = (first.call thread call).1) ∧
      AgreeOn tier (first.call thread call).2 (second.call thread call).2 := by
  cases asked : call.task? (first.active thread) with
  | none =>
      have secondAsked : call.task? (second.active thread) = none := by
        rw [agree.active]
        exact asked
      obtain ⟨firstLog, firstMade⟩ := call_of_no_task asked
      obtain ⟨secondLog, secondMade⟩ := call_of_no_task secondAsked
      rw [firstMade, secondMade, agree.mode, agree.bank]
      exact ⟨fun _ => rfl, agree.allocator, agree.blocks, agree.counters, rfl, rfl⟩
  | some task =>
      have secondAsked : call.task? (second.active thread) = some task := by
        rw [agree.active]
        exact asked
      obtain ⟨firstLog, firstMade⟩ := call_of_task asked
      obtain ⟨secondLog, secondMade⟩ := call_of_task secondAsked
      rw [firstMade, secondMade]
      by_cases trims : task = .trim
      · -- The other tier may have other segments to return, which the reply counts as well.
        subst trims
        refine ⟨fun notTrim => absurd (Call.eq_trim_of_task asked) notTrim, ?_⟩
        exact agree.changed (fun _ _ _ same => by cases same) firstLog secondLog
      · rw [agree.outcome asked concerned trims]
        refine ⟨fun _ => rfl, agree.changed ?_ firstLog secondLog⟩
        intro block grew allocator entered
        have ends := task.ends_outcome first.engine.tiers first.engine.table
        rw [entered] at ends
        rw [concerns, asked] at concerned
        -- Only an allocation enters a block, and this one is on the tier.
        generalize (task.outcome first.engine.tiers first.engine.table).1 = reply at ends
        cases ends with
        | allocated valid tried =>
            exact of_decide_eq_true concerned

end AgreeOn

/-! ## Calls that concern the other tier -/

/-- From one session to another, the side of a tier has not changed. -/
structure LeavesAlone
    (tier : Tier)
    (before after : Session β) : Prop where
  allocator : after.engine.tiers.get tier = before.engine.tiers.get tier
  blocks : ∀ addr, after.ownBlock? tier addr = before.ownBlock? tier addr
  counters : after.engine.metrics.tiers.get tier = before.engine.metrics.tiers.get tier
  mode : after.engine.mode = before.engine.mode
  bank : after.bank = before.bank

theorem AgreeOn.leavesAlone
    {tier : Tier}
    {first second after : Session β}
    (agree : AgreeOn tier first second)
    (alone : LeavesAlone tier first after) :
    AgreeOn tier after second where
  allocator := agree.allocator.trans alone.allocator.symm
  blocks addr := (agree.blocks addr).trans (alone.blocks addr).symm
  counters := agree.counters.trans alone.counters.symm
  mode := agree.mode.trans alone.mode.symm
  bank := agree.bank.trans alone.bank.symm

variable {tier : Tier} {session : Session β}

theorem ownBlock?_eq_none
    {addr : Nat}
    (other : session.engine.ownerOf? addr ≠ some tier) :
    session.ownBlock? tier addr = none := by
  rw [ownBlock?, Option.filter_eq_none_iff]
  intro block found own
  apply other
  rw [Engine.ownerOf?, Engine.block?, found, Option.map_some, of_decide_eq_true own]

theorem ownerOf?_ne_of_not_own
    {addr : Nat}
    (elsewhere : session.ownOrVacant tier addr = false) :
    session.engine.ownerOf? addr ≠ some tier := by
  intro own
  rw [ownOrVacant, own] at elsewhere
  exact of_decide_eq_false elsewhere rfl

theorem ownOrVacant_of_absent
    {addr : Nat}
    (absent : session.engine.table.get? addr = none) :
    session.ownOrVacant tier addr = true := by
  rw [ownOrVacant, Engine.ownerOf?, Engine.block?, absent]
  rfl

theorem tier_ne_of_not_own
    {addr : Nat}
    {block : Block}
    (elsewhere : session.ownOrVacant tier addr = false)
    (found : session.engine.table.get? addr = some block) :
    tier ≠ block.tier := by
  intro own
  apply ownerOf?_ne_of_not_own elsewhere
  rw [Engine.ownerOf?, Engine.block?, found, own]
  rfl

variable [Backend β]

/-- A change of the other tier's allocator and counters, and of the table at one address,
leaves the side of a tier alone if neither the old block there nor the new one is the
tier's. -/
theorem leavesAlone_changed
    {change : Change β}
    {other : Tier}
    (different : tier ≠ other)
    {log : Log.Lifecycle}
    (tiers : ∃ after, (change.apply session.engine).tiers = session.engine.tiers.set other after)
    (counters : ∃ after,
      (change.apply session.engine).metrics.tiers = session.engine.metrics.tiers.set other after)
    (blocks : ∀ addr,
      (session.changed change log).ownBlock? tier addr = session.ownBlock? tier addr) :
    LeavesAlone tier session (session.changed change log) := by
  obtain ⟨allocator, tiers⟩ := tiers
  obtain ⟨counted, counters⟩ := counters
  refine ⟨?_, blocks, ?_, ?_, rfl⟩
  · exact (congrArg (PerTier.get · tier) tiers).trans (PerTier.get_set_other _ different _)
  · exact (congrArg (PerTier.get · tier) counters).trans (PerTier.get_set_other _ different _)
  · cases change <;> rfl

/-- A call that does not concern a tier leaves its side alone, unless an allocation is given
the address of one of its blocks. -/
theorem leavesAlone_call
    (filed : session.engine.table.Filed)
    {thread : Nat}
    {call : Call}
    (elsewhere : session.concerns tier thread call = false)
    (unmixed : ∀ addr, (session.call thread call).1 = .address addr →
      session.engine.ownerOf? addr ≠ some tier) :
    LeavesAlone tier session (session.call thread call).2 := by
  rw [concerns] at elsewhere
  cases asked : call.task? (session.active thread) with
  | none =>
      rw [asked] at elsewhere
      cases elsewhere
  | some task =>
      obtain ⟨reply, change, log, made, ends⟩ := call_ends asked
      rw [asked] at elsewhere
      rw [made] at unmixed ⊢
      cases ends with
      | exhausted valid tried =>
          have other := Ne.symm (of_decide_eq_false elsewhere)
          exact leavesAlone_changed other ⟨_, rfl⟩ ⟨_, rfl⟩ fun _ => rfl
      | allocated valid tried =>
          have other := Ne.symm (of_decide_eq_false elsewhere)
          refine leavesAlone_changed other ⟨_, rfl⟩ ⟨_, rfl⟩ fun addr => ?_
          simp only [ownBlock?, changed, withEngine, Change.apply, BlockTable.get?_insert]
          split
          · rename_i same
            rw [Option.filter_some, if_neg (of_decide_eq_false elsewhere ∘ of_decide_eq_true)]
            exact (ownBlock?_eq_none (unmixed addr (congrArg Reply.address same.symm))).symm
          · rfl
      | unknownFree absent | unknownResize valid absent =>
          cases (ownOrVacant_of_absent absent).symm.trans elsewhere
      | @freed freed block found =>
          have other := tier_ne_of_not_own elsewhere found
          refine leavesAlone_changed other ⟨_, rfl⟩ ⟨_, rfl⟩ fun addr => ?_
          simp only [ownBlock?, changed, withEngine, Change.apply, BlockTable.get?_remove]
          split
          · rename_i same
            rw [same]
            exact (ownBlock?_eq_none (ownerOf?_ne_of_not_own elsewhere)).symm
          · rfl
      | @resized resized size reserved block allocator valid found tried =>
          have other := tier_ne_of_not_own elsewhere found
          -- The table finds a block at the address that the block itself records.
          have sameAddr := filed.get?_addr found
          refine leavesAlone_changed other ⟨_, rfl⟩ ⟨_, rfl⟩ fun addr => ?_
          simp only [ownBlock?, changed, withEngine, Change.apply, BlockTable.get?_modify]
          split
          · rename_i same
            rw [same, sameAddr, found, Option.map_some, Option.filter_some, Option.filter_some]
            simp only [Ne.symm other, decide_false, Bool.false_eq_true, if_false]
          · rfl
      | trimmed =>
          cases elsewhere
      | _ =>
          exact ⟨rfl, fun _ => rfl, rfl, rfl, rfl⟩

theorem filed_call
    (filed : session.engine.table.Filed)
    (thread : Nat)
    (call : Call) :
    (session.call thread call).2.engine.table.Filed := by
  cases asked : call.task? (session.active thread) with
  | none =>
      obtain ⟨log, same⟩ := call_of_no_task asked
      rw [same]
      exact filed
  | some task =>
      obtain ⟨reply, change, log, made, -⟩ := call_ends asked
      rw [made]
      cases change with
      | allocated block grew allocator =>
          exact filed.insert block
      | freed addr block =>
          exact filed.remove addr
      | resized block newSize newReserved allocator =>
          exact filed.modify fun _ => rfl
      | _ =>
          exact filed

/-- No allocation of a run on the other tier is given the address of a block of the tier. -/
def Unmixed
    (tier : Tier)
    (session : Session β)
    (calls : List (Nat × Call)) : Prop :=
  ∀ before thread call, before ++ [(thread, call)] <+: calls →
    (session.run before).concerns tier thread call = false →
      ∀ addr, ((session.run before).call thread call).1 = .address addr →
        (session.run before).engine.ownerOf? addr ≠ some tier

theorem Unmixed.tail
    {thread : Nat}
    {call : Call}
    {calls : List (Nat × Call)}
    (unmixed : Unmixed tier session ((thread, call) :: calls)) :
    Unmixed tier (session.call thread call).2 calls := by
  intro before other later isPrefix
  exact unmixed ((thread, call) :: before) other later ((List.prefix_cons_inj _).mpr isPrefix)

theorem Unmixed.earlier
    {before calls : List (Nat × Call)}
    (unmixed : Unmixed tier session calls)
    (isPrefix : before <+: calls) :
    Unmixed tier session before :=
  fun earlier thread call isEarlier => unmixed earlier thread call (isEarlier.trans isPrefix)

theorem AgreeOn.run
    {first second : Session β}
    (agree : AgreeOn tier first second)
    (filed : first.engine.table.Filed)
    {calls : List (Nat × Call)}
    (unmixed : Unmixed tier first calls) :
    AgreeOn tier (first.run calls) (second.run (first.confined tier calls)) := by
  -- A call that is left out is a step of the first run alone.
  induction calls generalizing first second with
  | nil =>
      exact agree
  | cons head rest inductionHypothesis =>
      obtain ⟨thread, call⟩ := head
      have filedAfter := filed_call filed thread call
      simp only [confined]
      cases concerned : first.concerns tier thread call with
      | true =>
          exact inductionHypothesis (agree.call_kept concerned).2 filedAfter unmixed.tail
      | false =>
          have fresh :=
            unmixed [] thread call ((List.prefix_cons_inj _).mpr List.nil_prefix) concerned
          have alone := leavesAlone_call filed concerned fresh
          exact inductionHypothesis (agree.leavesAlone alone) filedAfter unmixed.tail

omit [Backend β] in
theorem agreeOn_of_empty
    (empty : session.engine.table = .empty)
    (tier : Tier) :
    AgreeOn tier session session := by
  refine ⟨rfl, fun addr => ?_, rfl, rfl, rfl⟩
  rw [ownBlock?, empty, BlockTable.get?_empty]
  rfl

/-- A run does the same for a tier as its calls that concern it do alone. -/
structure Insulated
    (tier : Tier)
    (session : Session (Recorder β))
    (calls : List (Nat × Call)) : Prop where
  /-- The tier's allocator, counters and blocks are the same at every moment. -/
  agree : ∀ before, before <+: calls →
    session.confined tier before <+: session.confined tier calls ∧
      AgreeOn tier (session.run before) (session.run (session.confined tier before))
  /-- The tier's backend gets the same requests and gives the same answers. -/
  dealings : ∀ before, before <+: calls →
    (session.run (session.confined tier before)).dealings.get tier =
      (session.run before).dealings.get tier
  /-- A call that is kept has the same reply; but a trim counts the bytes of both tiers. -/
  replies : ∀ before thread call, before ++ [(thread, call)] <+: calls →
    (session.run before).concerns tier thread call = true →
      session.confined tier (before ++ [(thread, call)]) =
          session.confined tier before ++ [(thread, call)] ∧
        (call ≠ .trim →
          ((session.run (session.confined tier before)).call thread call).1 =
            ((session.run before).call thread call).1)
  /-- So has a query about the tier at any moment. -/
  answers : ∀ before, before <+: calls → ∀ thread query,
    (session.run before).asksAbout tier query = true →
      (session.run (session.confined tier before)).ask thread query =
        (session.run before).ask thread query

theorem Unmixed.insulated
    {session : Session (Recorder β)}
    {calls : List (Nat × Call)}
    (unmixed : Unmixed tier session calls)
    (empty : session.engine.table = .empty) :
    Insulated tier session calls := by
  have filed : session.engine.table.Filed := by
    rw [empty]
    exact BlockTable.filed_empty
  have agree {before : List (Nat × Call)} (isPrefix : before <+: calls) :
      AgreeOn tier (session.run before) (session.run (session.confined tier before)) :=
    (agreeOn_of_empty empty tier).run filed (unmixed.earlier isPrefix)
  refine ⟨?_, ?_, ?_, ?_⟩
  · intro before isPrefix
    refine ⟨?_, agree isPrefix⟩
    obtain ⟨later, rfl⟩ := isPrefix
    rw [confined_append]
    exact List.prefix_append _ _
  · intro before isPrefix
    simp only [Session.dealings, PerTier.dealings, PerTier.get_map, (agree isPrefix).allocator]
  · intro before thread call isPrefix concerned
    have shorter := (List.prefix_append before _).trans isPrefix
    refine ⟨?_, ((agree shorter).call_kept concerned).1⟩
    rw [confined_append, confined, concerned]
    rfl
  · exact fun before isPrefix thread query about => (agree isPrefix).ask thread about

theorem unmixed_of_abiding
    {session : Session (Recorder β)}
    (accounted : session.engine.Accounted [])
    (undisturbed : session.engine.Undisturbed)
    {calls : List (Nat × Call)}
    (abiding : ∀ before, before <+: calls → Dealing.Abiding (session.run before).dealings)
    (tier : Tier) :
    Unmixed tier session calls := by
  intro before thread call isPrefix _ addr replied
  have shorter : before <+: calls := (List.prefix_append before _).trans isPrefix
  have kept :=
    (accounted_run accounted undisturbed
      fun earlier isEarlier => abiding earlier (isEarlier.trans shorter)).1
  have afterCall := abiding _ isPrefix
  rw [run_snoc] at afterCall
  have absent := (accounted_call kept afterCall).2 addr replied
  rw [Engine.ownerOf?, Engine.block?, absent]
  intro same
  cases same

/-- What does not concern a tier makes no difference to it, as long as no allocation on the
other tier is given the address of one of its blocks; over backends that owe their dealings
none is. -/
theorem insulated_run
    (config : Config)
    (bank : RegisterBank)
    (backends : PerTier β)
    (tier : Tier)
    (calls : List (Nat × Call)) :
    (Unmixed tier (opening config bank (backends.map Recorder.start)) calls →
        Insulated tier (opening config bank (backends.map Recorder.start)) calls) ∧
      ((∀ before, before <+: calls →
          Dealing.Abiding
            ((opening config bank (backends.map Recorder.start)).run before).dealings) →
        Unmixed tier (opening config bank (backends.map Recorder.start)) calls) := by
  refine ⟨fun unmixed => unmixed.insulated rfl, fun abiding => ?_⟩
  exact unmixed_of_abiding (Engine.accounted_withBackends config bank backends)
    (Engine.undisturbed_withBackends config bank (backends.map Recorder.start)) abiding tier

theorem insulated_run_mixedCalls :
    (opening { Config.standard with segmentSize := 4096 } .initial
          (distantBackends.map Recorder.start)).confined .cxl mixedCalls =
        [(1, .allocateOnAligned .cxl 5000 4096), (1, .setMode .cxl), (1, .free 65536),
          (0, .allocate 24), (1, .trim)] ∧
      Insulated .cxl
        (opening { Config.standard with segmentSize := 4096 } .initial
          (distantBackends.map Recorder.start))
        mixedCalls := by
  refine ⟨by decide +kernel, ?_⟩
  have abiding : ∀ before, before <+: mixedCalls →
      Dealing.Abiding
        ((opening { Config.standard with segmentSize := 4096 } .initial
          (distantBackends.map Recorder.start)).run before).dealings := by
    simp only [← List.mem_inits]
    decide +kernel
  obtain ⟨ofUnmixed, unmixed⟩ :=
    insulated_run { Config.standard with segmentSize := 4096 } .initial distantBackends .cxl
      mixedCalls
  exact ofUnmixed (unmixed abiding)

def overlappingBackends : PerTier SimulatedBackend :=
  .both (.upwards 65536 0 [])

def oneOnEach : List (Nat × Call) :=
  [(0, .allocateOn .host 100), (0, .allocateOn .cxl 100)]

/-- Over such backends, the block of one tier takes the place of the other tier's block. -/
theorem overlap_mixes :
    ¬∀ addr,
      ((opening Config.standard .initial overlappingBackends).run oneOnEach).ownBlock? .host
          addr =
        ((opening Config.standard .initial overlappingBackends).run
          ((opening Config.standard .initial overlappingBackends).confined .host
            oneOnEach)).ownBlock? .host addr := by
  intro same
  have atBase := same 65536
  revert atBase
  decide +kernel

end Session

end TierHeap
