import TierHeap.Proofs.Engine.Barring
import TierHeap.Proofs.Interleaving.Books

/-!
# Barred tiers and many threads

A tier with a ceiling of zero bytes stays barred whatever the schedule: no thread ever has a block
of it in its hands (`Machine.Barred.run`), and a thread with a valid request for it is refused
(`Machine.Barred.refuses`).
-/

namespace TierHeap.Interleaving

variable {β : Type}

/-- What a thread has in its hands is not of the tier. -/
def Phase.Shuns (tier : Tier) : Phase → Prop
  | .routed _ _ size reserved align => Engine.reserveAligned size align = .ok reserved
  | .carved _ block _ => block.tier ≠ tier
  | .removed block => block.tier ≠ tier
  | _ => True

section

variable {session : Session β} {tier : Tier} {backend : β}

/-- A step leaves the tier barred. -/
structure StaysBarred
    (tier : Tier)
    (backend : β)
    (outcome : Session β × Phase × List Event) : Prop where
  barred : outcome.1.Barred tier backend
  shuns : outcome.2.1.Shuns tier

theorem staysBarred_route
    (barred : session.Barred tier backend)
    (symbol : String)
    (asked : Tier)
    (size align : Nat) :
    StaysBarred tier backend (session, route symbol asked size align, []) := by
  unfold route
  split
  · exact ⟨barred, trivial⟩
  · rename_i reserved valid
    exact ⟨barred, valid⟩

theorem staysBarred_withdraw
    (barred : session.Barred tier backend)
    (addr : Nat) :
    StaysBarred tier backend (withdraw session addr) := by
  have kept : (session.withEngine (session.engine.withdraw addr).2).Barred tier backend := by
    refine barred.transport rfl fun wanted block found => ?_
    simp only [Session.withEngine, Engine.withdraw, BlockTable.get?_remove] at found
    split at found
    · cases found
    · exact .inr ⟨block, found, rfl⟩
  cases found : session.engine.table.get? addr with
  | none =>
      simp only [withdraw, Engine.withdraw, BlockTable.remove, found] at kept ⊢
      exact ⟨kept, trivial⟩
  | some block =>
      have other := barred.blocks addr block found
      simp only [withdraw, Engine.withdraw, BlockTable.remove, found] at kept ⊢
      exact ⟨kept, other⟩

theorem staysBarred_resize
    (barred : session.Barred tier backend)
    (addr newSize : Nat) :
    StaysBarred tier backend (resize session addr newSize) := by
  unfold resize
  split
  · exact ⟨barred, trivial⟩
  · split
    · exact ⟨barred, trivial⟩
    · rename_i block found
      split
      · exact ⟨barred, trivial⟩
      · rename_i after resized
        have other := barred.blocks addr block found
        obtain ⟨allocator, -, rfl⟩ := Option.map_eq_some_iff.mp resized
        refine ⟨barred.transport (PerTier.get_set_other _ (Ne.symm other) _) ?_, trivial⟩
        intro wanted held kept
        simp only [Session.withEngine, BlockTable.get?_modify] at kept
        split at kept
        · obtain ⟨before, foundBefore, rfl⟩ := Option.map_eq_some_iff.mp kept
          exact .inr ⟨before, foundBefore, rfl⟩
        · exact .inr ⟨held, kept, rfl⟩

variable [Backend β]

theorem staysBarred_start
    (barred : session.Barred tier backend)
    (number : Nat)
    (call : Call) :
    StaysBarred tier backend (start session number call) := by
  cases call with
  | enable =>
      exact ⟨barred.call number .enable, trivial⟩
  | setMode selected =>
      exact ⟨barred.call number (.setMode selected), trivial⟩
  | free addr =>
      exact staysBarred_withdraw barred addr
  | resize addr newSize =>
      exact staysBarred_resize barred addr newSize
  | trim =>
      exact ⟨⟨barred.shut, barred.blocks⟩, trivial⟩
  | _ =>
      exact staysBarred_route barred _ _ _ _

/-- A valid request for the barred tier is refused. -/
theorem carve_barred
    (barred : session.Barred tier backend)
    (symbol : String)
    {size reserved align : Nat}
    (valid : Engine.reserveAligned size align = .ok reserved) :
    ∃ cause after,
      carve session symbol tier size reserved align =
          (after, .concluding (.exhausted symbol tier size cause), []) ∧
        after.Barred tier backend := by
  have positive := (Engine.reserve_bounds (Engine.reserveAligned_eq_ok valid).2.2).1
  obtain ⟨cause, after, refused, shut⟩ :=
    barred.shut.allocate Engine.depth positive align
  let unserved : Session β :=
    session.withEngine
      { session.engine with tiers := session.engine.tiers.set tier after }
  refine ⟨cause, unserved, ?_, ?_, barred.blocks⟩
  · simp only [carve, Engine.carve, refused]
    rfl
  · simp only [unserved, Session.withEngine, PerTier.get_set_self]
    exact shut

theorem staysBarred_carve
    (barred : session.Barred tier backend)
    {symbol : String}
    {asked : Tier}
    {size reserved align : Nat}
    (valid : Engine.reserveAligned size align = .ok reserved) :
    StaysBarred tier backend (carve session symbol asked size reserved align) := by
  by_cases own : asked = tier
  · subst own
    obtain ⟨cause, after, carved, barredAfter⟩ := carve_barred barred symbol valid
    rw [carved]
    exact ⟨barredAfter, trivial⟩
  · have elsewhere (allocator : Allocator β) :
        (session.withEngine
          { session.engine with tiers := session.engine.tiers.set asked allocator }).Barred
            tier backend :=
      barred.transport (PerTier.get_set_other _ (Ne.symm own) _)
        fun addr block found => .inr ⟨block, found, rfl⟩
    unfold carve
    split
    · rename_i cause after carved
      obtain ⟨allocator, -, rfl⟩ := Engine.carve_cases carved
      exact ⟨elsewhere allocator, trivial⟩
    · rename_i found after carved
      obtain ⟨allocator, -, rfl⟩ := Engine.carve_cases carved
      exact ⟨elsewhere allocator, own⟩

theorem barred_trimTier
    (barred : session.Barred tier backend)
    (trimmed : Tier) :
    (session.withEngine (session.engine.trimTier trimmed).2).Barred tier backend := by
  obtain ⟨log, made⟩ := session.engine.trimTier_eq trimmed
  rw [made]
  refine barred.transport ?_ fun addr block found => .inr ⟨block, found, rfl⟩
  by_cases own : tier = trimmed
  · subst own
    exact (PerTier.get_modify_self _ _ _).trans (congrArg Prod.snd (barred.shut.trim _))
  · exact PerTier.get_modify_other _ own _

/-- Every turn of a thread leaves the tier barred. -/
theorem staysBarred_turn
    (barred : session.Barred tier backend)
    {thread : Thread}
    (shuns : thread.phase.Shuns tier)
    (number : Nat) :
    StaysBarred tier backend
      ((thread.turn session number).1, (thread.turn session number).2.1.phase,
       (thread.turn session number).2.2) := by
  obtain ⟨phase, program, replies⟩ := thread
  cases phase with
  | idle =>
      cases program with
      | nil =>
          exact ⟨barred, trivial⟩
      | cons call rest =>
          exact staysBarred_start barred number call
  | routed symbol asked size reserved align =>
      exact staysBarred_carve barred shuns
  | carved symbol block grew =>
      refine ⟨barred.transport rfl fun addr held found => ?_, trivial⟩
      simp only [Thread.turn, enter, Session.withEngine, Engine.publish,
        BlockTable.get?_insert] at found
      split at found
      · cases found
        exact .inl shuns
      · exact .inr ⟨held, found, rfl⟩
  | removed block =>
      exact ⟨barred.transport (PerTier.get_modify_other _ (Ne.symm shuns) _)
        fun addr held found => .inr ⟨held, found, rfl⟩, trivial⟩
  | trimmingHost =>
      exact ⟨barred_trimTier barred .host, trivial⟩
  | trimmingCxl hostBytes =>
      exact ⟨barred_trimTier barred .cxl, trivial⟩
  | concluding aftermath =>
      refine ⟨barred.transport ?_ fun addr held found => .inr ⟨held, ?_, rfl⟩, trivial⟩
      · exact congrArg (PerTier.get · tier) (Kept.tiers_conclude _ _ _)
      · rw [← Kept.table_conclude session.engine (session.active number) aftermath]
        exact found

end

namespace Machine

/-- The tier is barred, and no thread has a block of it in its hands. -/
structure Barred
    (tier : Tier)
    (backend : β)
    (machine : Machine β) : Prop where
  session : machine.session.Barred tier backend
  shuns : ∀ thread ∈ machine.threads, thread.phase.Shuns tier

theorem barred_opening
    {tier : Tier}
    {backend : β}
    {session : Session β}
    (barred : session.Barred tier backend)
    (programs : List (List Call)) :
    (opening session programs).Barred tier backend := by
  refine ⟨barred, fun thread member => ?_⟩
  obtain ⟨program, -, rfl⟩ := List.mem_map.mp member
  exact trivial

variable [Backend β] {tier : Tier} {backend : β} {machine : Machine β}

theorem Barred.step
    (barred : machine.Barred tier backend)
    (number : Nat) :
    (machine.step number).Barred tier backend := by
  rw [Machine.step]
  split
  · exact barred
  · rename_i thread found
    have turned :=
      staysBarred_turn barred.session (barred.shuns thread (List.mem_of_getElem? found)) number
    refine ⟨turned.barred, fun other member => ?_⟩
    rcases List.mem_or_eq_of_mem_set member with old | rfl
    · exact barred.shuns other old
    · exact turned.shuns

/-- Every schedule leaves the tier barred. -/
theorem Barred.run
    (barred : machine.Barred tier backend)
    (schedule : List Nat) :
    (machine.run schedule).Barred tier backend := by
  induction schedule generalizing machine with
  | nil =>
      exact barred
  | cons number rest inductionHypothesis =>
      exact inductionHypothesis (barred.step number)

/-- A thread whose request for the tier has been checked is refused at its next step. -/
theorem Barred.refuses
    (barred : machine.Barred tier backend)
    {number : Nat}
    {thread : Thread}
    (found : machine.threads[number]? = some thread)
    {symbol : String}
    {size reserved align : Nat}
    (asks : thread.phase = .routed symbol tier size reserved align) :
    ∃ cause, (thread.turn machine.session number).2.1.phase =
      .concluding (.exhausted symbol tier size cause) := by
  have valid := barred.shuns thread (List.mem_of_getElem? found)
  rw [asks] at valid
  obtain ⟨cause, after, carved, -⟩ := carve_barred barred.session symbol valid
  refine ⟨cause, ?_⟩
  simp only [Thread.turn, asks, carved]

end Machine

end TierHeap.Interleaving
