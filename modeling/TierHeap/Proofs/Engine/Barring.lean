import TierHeap.Proofs.Allocator.ZeroCeiling
import TierHeap.Proofs.Engine.Separation

/-!
# Barred tiers

A tier with a ceiling of zero bytes never has a block: whatever calls are made, its backend is
asked for nothing and every valid request for it fails (`Session.Barred.refuses`).  The other
tier does not notice.  It does the same in a session where the tier is barred as in one where it
is not, unless the latter is given the address of a block that the other tier has
(`Session.Matches`).
-/

namespace TierHeap

/-- There are two tiers. -/
theorem Tier.eq_of_ne_of_ne
    {first second third : Tier}
    (left : first ≠ third)
    (right : second ≠ third) :
    first = second := by
  cases first <;> cases second <;> cases third <;> first | rfl | contradiction

namespace Session

variable {β : Type}

/-- The tier's ceiling is zero bytes, its allocator holds nothing over the given backend, and
no block is of it. -/
structure Barred
    (tier : Tier)
    (backend : β)
    (session : Session β) : Prop where
  shut : (session.engine.tiers.get tier).Shut backend
  blocks : ∀ addr block, session.engine.table.get? addr = some block → block.tier ≠ tier

namespace Barred

variable {tier : Tier} {backend : β} {session : Session β}

/-- What has become of the tiers and of a table at one address. -/
theorem transport
    (barred : session.Barred tier backend)
    {after : Session β}
    (tiers : after.engine.tiers.get tier = session.engine.tiers.get tier)
    (blocks : ∀ addr block, after.engine.table.get? addr = some block →
      block.tier ≠ tier ∨ ∃ before, session.engine.table.get? addr = some before ∧
        block.tier = before.tier) :
    after.Barred tier backend := by
  refine ⟨by rw [tiers]; exact barred.shut, fun addr block found => ?_⟩
  rcases blocks addr block found with other | ⟨before, foundBefore, same⟩
  · exact other
  · rw [same]
    exact barred.blocks addr before foundBefore

variable [Backend β]

theorem changed
    (barred : session.Barred tier backend)
    {task : Task}
    {reply : Reply}
    {change : Change β}
    (ends : task.Ends session.engine.tiers session.engine.table reply change)
    (log : Log.Lifecycle) :
    (session.changed change log).Barred tier backend := by
  cases ends with
  | @exhausted asked size align reserved cause allocator valid tried =>
      by_cases own : asked = tier
      · subst own
        have positive :=
          (Engine.reserve_bounds (Engine.reserveAligned_eq_ok valid).2.2).1
        obtain ⟨cause, after, refused, shut⟩ := barred.shut.allocate Engine.depth
          positive align
        rw [refused] at tried
        cases tried
        refine ⟨?_, barred.blocks⟩
        simp only [Session.changed, withEngine, Change.apply, PerTier.get_set_self]
        exact shut
      · exact barred.transport (PerTier.get_set_other _ (Ne.symm own) _)
          fun addr block found => .inr ⟨block, found, rfl⟩
  | @allocated asked size align reserved carve allocator valid tried =>
      by_cases own : asked = tier
      · subst own
        have positive :=
          (Engine.reserve_bounds (Engine.reserveAligned_eq_ok valid).2.2).1
        obtain ⟨cause, after, refused, -⟩ := barred.shut.allocate Engine.depth
          positive align
        rw [refused] at tried
        cases tried
      · refine barred.transport (PerTier.get_set_other _ (Ne.symm own) _) ?_
        intro addr block found
        simp only [Session.changed, withEngine, Change.apply, BlockTable.get?_insert] at found
        split at found
        · cases found
          exact .inl own
        · exact .inr ⟨block, found, rfl⟩
  | @freed addr freed found =>
      have other := barred.blocks addr freed found
      refine barred.transport (PerTier.get_modify_other _ (Ne.symm other) _) ?_
      intro wanted block kept
      simp only [Session.changed, withEngine, Change.apply, BlockTable.get?_remove] at kept
      split at kept
      · cases kept
      · exact .inr ⟨block, kept, rfl⟩
  | @resized addr size reserved resized allocator valid found tried =>
      have other := barred.blocks addr resized found
      refine barred.transport (PerTier.get_set_other _ (Ne.symm other) _) ?_
      intro wanted block kept
      simp only [Session.changed, withEngine, Change.apply, BlockTable.get?_modify] at kept
      split at kept
      · obtain ⟨before, foundBefore, rfl⟩ := Option.map_eq_some_iff.mp kept
        exact .inr ⟨before, foundBefore, rfl⟩
      · exact .inr ⟨block, kept, rfl⟩
  | trimmed =>
      refine barred.transport ?_ fun addr block found => .inr ⟨block, found, rfl⟩
      simp only [Session.changed, withEngine, Change.apply, PerTier.get_map, barred.shut.trim]
  | _ =>
      exact ⟨barred.shut, barred.blocks⟩

/-- Every call leaves the tier barred. -/
theorem call
    (barred : session.Barred tier backend)
    (thread : Nat)
    (call : Call) :
    (session.call thread call).2.Barred tier backend := by
  cases asked : call.task? (session.active thread) with
  | none =>
      obtain ⟨log, made⟩ := call_of_no_task asked
      rw [made]
      exact ⟨barred.shut, barred.blocks⟩
  | some task =>
      obtain ⟨reply, change, log, made, ends⟩ := call_ends asked
      rw [made]
      exact barred.changed ends log

theorem run
    (barred : session.Barred tier backend)
    (calls : List (Nat × Call)) :
    (session.run calls).Barred tier backend := by
  induction calls generalizing session with
  | nil =>
      exact barred
  | cons first rest inductionHypothesis =>
      obtain ⟨thread, call⟩ := first
      exact inductionHypothesis (barred.call thread call)

/-- Every valid request for the tier fails for want of memory. -/
theorem refuses
    (barred : session.Barred tier backend)
    {thread : Nat}
    {call : Call}
    {size align reserved : Nat}
    (asked : call.task? (session.active thread) = some (.allocate tier size align))
    (valid : Engine.reserveAligned size align = .ok reserved) :
    (session.call thread call).1 = .refused (.outOfMemory tier size) := by
  obtain ⟨reply, change, log, made, ends⟩ := call_ends asked
  have positive := (Engine.reserve_bounds (Engine.reserveAligned_eq_ok valid).2.2).1
  obtain ⟨cause, after, refused, -⟩ := barred.shut.allocate Engine.depth positive align
  rw [made]
  cases ends with
  | invalid invalid =>
      rw [valid] at invalid
      cases invalid
  | exhausted =>
      rfl
  | allocated validAgain tried =>
      rw [valid] at validAgain
      cases validAgain
      rw [refused] at tried
      cases tried

end Barred

variable {tier : Tier} {backend : β}

/-- Every block is of the tier that is not barred. -/
theorem Barred.ownBlock?_eq
    {session : Session β}
    {other : Tier}
    (barred : session.Barred other backend)
    (different : other ≠ tier)
    (addr : Nat) :
    session.ownBlock? tier addr = session.engine.table.get? addr := by
  rw [ownBlock?]
  cases found : session.engine.table.get? addr with
  | none =>
      rfl
  | some block =>
      have notOther := barred.blocks addr block found
      have own : block.tier = tier := Tier.eq_of_ne_of_ne notOther different.symm
      exact Option.filter_eq_some_iff.mpr ⟨rfl, decide_eq_true own⟩

variable [Backend β]

/-- A call that does not concern a tier in one session leaves the tier alone in a session that
agrees on it and in which the other tier is barred. -/
theorem AgreeOn.leavesAlone_barred
    {first second : Session β}
    (agree : AgreeOn tier first second)
    {other : Tier}
    (different : other ≠ tier)
    (barred : second.Barred other backend)
    {thread : Nat}
    {call : Call}
    (elsewhere : first.concerns tier thread call = false) :
    LeavesAlone tier second (second.call thread call).2 := by
  have vacant {addr : Nat} (notOwn : first.ownOrVacant tier addr = false) :
      second.engine.table.get? addr = none := by
    rw [agree.blocks]
    exact ownBlock?_eq_none (ownerOf?_ne_of_not_own notOwn)
  rw [concerns, ← agree.active] at elsewhere
  cases asked : call.task? (second.active thread) with
  | none =>
      rw [asked] at elsewhere
      cases elsewhere
  | some task =>
      obtain ⟨reply, change, log, made, ends⟩ := call_ends asked
      rw [asked] at elsewhere
      rw [made]
      cases ends with
      | exhausted valid tried =>
          have apart := Ne.symm (of_decide_eq_false elsewhere)
          exact leavesAlone_changed apart ⟨_, rfl⟩ ⟨_, rfl⟩ fun _ => rfl
      | @allocated wanted size align reserved carve allocator valid tried =>
          have notOwn : wanted ≠ tier := of_decide_eq_false elsewhere
          obtain rfl : wanted = other := Tier.eq_of_ne_of_ne notOwn different
          have refused := barred.refuses asked valid
          rw [made] at refused
          cases refused
      | freed found | blocked valid found tried | resized valid found tried =>
          rw [vacant elsewhere] at found
          cases found
      | trimmed =>
          cases elsewhere
      | _ =>
          exact ⟨rfl, fun _ => rfl, rfl, rfl, rfl⟩

/-- The second session does the same on a tier as the first. -/
structure Matches
    (tier : Tier)
    (first second : Session (Recorder β))
    (calls : List (Nat × Call)) : Prop where
  /-- The tier's allocator, counters and blocks are the same at every moment. -/
  agree : ∀ before, before <+: calls → AgreeOn tier (first.run before) (second.run before)
  /-- The tier's backend gets the same requests and gives the same answers. -/
  dealings : ∀ before, before <+: calls →
    (second.run before).dealings.get tier = (first.run before).dealings.get tier
  /-- A call that concerns the tier has the same reply; but a trim counts the bytes of both
  tiers. -/
  replies : ∀ before thread call, before ++ [(thread, call)] <+: calls →
    (first.run before).concerns tier thread call = true → call ≠ .trim →
      ((second.run before).call thread call).1 = ((first.run before).call thread call).1
  /-- So has a query about the tier at any moment. -/
  answers : ∀ before, before <+: calls → ∀ thread query,
    (first.run before).asksAbout tier query = true →
      (second.run before).ask thread query = (first.run before).ask thread query

theorem AgreeOn.run_barred
    {first second : Session β}
    (agree : AgreeOn tier first second)
    (filed : first.engine.table.Filed)
    {other : Tier}
    (different : other ≠ tier)
    (barred : second.Barred other backend)
    {calls : List (Nat × Call)}
    (unmixed : Unmixed tier first calls) :
    AgreeOn tier (first.run calls) (second.run calls) := by
  induction calls generalizing first second with
  | nil =>
      exact agree
  | cons head rest inductionHypothesis =>
      obtain ⟨thread, call⟩ := head
      refine inductionHypothesis ?_ (filed_call filed thread call) (barred.call thread call)
        unmixed.tail
      cases concerned : first.concerns tier thread call with
      | true =>
          exact (agree.call_kept concerned).2
      | false =>
          have fresh :=
            unmixed [] thread call ((List.prefix_cons_inj _).mpr List.nil_prefix) concerned
          -- Neither session does anything to the tier, but the first may use the other one.
          have aloneFirst := leavesAlone_call filed concerned fresh
          have aloneSecond := agree.leavesAlone_barred different barred concerned
          have barredAfter := barred.call thread call
          obtain ⟨allocator, blocks, counters, mode, bank⟩ := agree.leavesAlone aloneFirst
          refine ⟨aloneSecond.allocator.trans allocator, fun addr => ?_,
            aloneSecond.counters.trans counters, aloneSecond.mode.trans mode,
            aloneSecond.bank.trans bank⟩
          rw [← barredAfter.ownBlock?_eq different, aloneSecond.blocks,
            barred.ownBlock?_eq different]
          exact blocks addr

/-- A tier that is barred in one session and not in the other makes no difference to the other
tier. -/
theorem AgreeOn.matches_barred
    {first second : Session (Recorder β)}
    (agree : AgreeOn tier first second)
    (filed : first.engine.table.Filed)
    {other : Tier}
    (different : other ≠ tier)
    {untouched : Recorder β}
    (barred : second.Barred other untouched)
    {calls : List (Nat × Call)}
    (unmixed : Unmixed tier first calls) :
    Matches tier first second calls := by
  have kept {before : List (Nat × Call)} (isPrefix : before <+: calls) :
      AgreeOn tier (first.run before) (second.run before) :=
    agree.run_barred filed different barred (unmixed.earlier isPrefix)
  refine ⟨fun before => kept, ?_, ?_, ?_⟩
  · intro before isPrefix
    simp only [Session.dealings, PerTier.dealings, PerTier.get_map, (kept isPrefix).allocator]
  · intro before thread call isPrefix concerned notTrim
    have shorter := (List.prefix_append before _).trans isPrefix
    exact ((kept shorter).call_kept concerned).1 notTrim
  · exact fun before isPrefix thread query about => (kept isPrefix).ask thread about

end Session

end TierHeap
