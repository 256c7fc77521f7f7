import TierHeap.Proofs.Interleaving.Custody

/-!
# Safety of interleaved calls

Backends are asked to take back idle segments only, whatever the step (`sparing_turn`), and no
outstanding range lies in an idle segment.  With that, over backends that owe their dealings,
threads that share a session find everything in order after every schedule
(`Machine.inOrder_run`).
-/

namespace TierHeap.Interleaving

variable {β : Type}

/-- From one state of an engine to another, backends were asked to take back segments that
were idle at first, and no others. -/
def Sparing (before after : Engine (Recorder β)) : Prop :=
  ∀ tier, ∃ recent,
    (after.tiers.get tier).backend.dealings =
        recent ++ (before.tiers.get tier).backend.dealings ∧
      ∀ segment accepted, Dealing.release segment accepted ∈ recent →
        segment ∈ (before.tiers.get tier).arena.idle

namespace Sparing

variable {before after : Engine (Recorder β)}

theorem of_tiers_eq (tiers : after.tiers = before.tiers) : Sparing before after := by
  intro tier
  rw [tiers]
  exact ⟨[], rfl, fun _ _ member => nomatch member⟩

theorem of_tiers_set
    {tier : Tier}
    {allocator : Allocator (Recorder β)}
    (tiers : after.tiers = before.tiers.set tier allocator)
    {recent : List Dealing}
    (dealings :
      allocator.backend.dealings = recent ++ (before.tiers.get tier).backend.dealings)
    (idle : ∀ segment accepted, Dealing.release segment accepted ∈ recent →
      segment ∈ (before.tiers.get tier).arena.idle) :
    Sparing before after := by
  intro other
  rw [tiers]
  by_cases same : other = tier
  · subst same
    rw [PerTier.get_set_self]
    exact ⟨recent, dealings, idle⟩
  · rw [PerTier.get_set_other _ same]
    exact ⟨[], rfl, fun _ _ member => nomatch member⟩

theorem resizeBlock?
    {block : Block}
    {newSize newReserved : Nat}
    (resized : before.resizeBlock? block newSize newReserved = some after) :
    Sparing before after := by
  obtain ⟨allocator, resizedTier, rfl⟩ := Option.map_eq_some_iff.mp resized
  obtain ⟨arena, -, rfl⟩ := Allocator.resize?_eq_some resizedTier
  exact of_tiers_set rfl (List.nil_append _).symm fun _ _ member => nomatch member

theorem giveBack
    (engine : Engine (Recorder β))
    (block : Block) :
    Sparing engine (engine.giveBack block) :=
  of_tiers_set rfl (List.nil_append _).symm fun _ _ member => nomatch member

variable [Backend β]

theorem carve
    {tier : Tier}
    {reserved align : Nat}
    {answer : Except GrowError Carve}
    (carved : before.carve tier reserved align = (answer, after)) :
    Sparing before after := by
  obtain ⟨allocator, allocated, rfl⟩ := Engine.carve_cases carved
  rcases Allocator.allocate_dealings allocated with same | ⟨len, granted, committed⟩
  · have recent :
        allocator.backend.dealings = [] ++ (before.tiers.get tier).backend.dealings := same
    exact of_tiers_set rfl recent fun _ _ member => nomatch member
  · have recent :
        allocator.backend.dealings =
          [.commit len granted] ++ (before.tiers.get tier).backend.dealings := committed
    apply of_tiers_set rfl recent
    intro segment accepted member
    cases List.mem_singleton.mp member

theorem trimTier
    (engine : Engine (Recorder β))
    (tier : Tier) :
    Sparing engine (engine.trimTier tier).2 := by
  obtain ⟨recent, dealings, releases⟩ :=
    Allocator.trim_dealings (engine.tiers.get tier) Engine.depth
  have tiers :
      (engine.trimTier tier).2.tiers =
        engine.tiers.set tier ((engine.tiers.get tier).trim Engine.depth).2 := by
    simp only [Engine.trimTier]
    split <;> rfl
  apply of_tiers_set tiers dealings
  intro segment accepted member
  obtain ⟨candidate, idle, accepted, same⟩ := releases _ member
  cases same
  exact idle

end Sparing

theorem sparing_resize
    (session : Session (Recorder β))
    (addr newSize : Nat) :
    Sparing session.engine (resize session addr newSize).1.engine := by
  unfold resize
  split
  · exact .of_tiers_eq rfl
  · split
    · exact .of_tiers_eq rfl
    · split
      · exact .of_tiers_eq rfl
      · rename_i after resized
        exact .resizeBlock? resized

variable [Backend β]

theorem sparing_start
    (session : Session (Recorder β))
    (number : Nat)
    (call : Call) :
    Sparing session.engine (start session number call).1.engine := by
  cases call with
  | enable =>
      refine .of_tiers_eq ?_
      simp only [start, Session.call, Session.withEngine, Engine.enableIndicator]
      split <;> rfl
  | setMode tier =>
      refine .of_tiers_eq ?_
      simp only [start, Session.call, Engine.setMode]
      split <;> rfl
  | free addr =>
      refine .of_tiers_eq ?_
      simp only [start, withdraw, Engine.withdraw, BlockTable.remove]
      cases session.engine.table.get? addr <;> rfl
  | resize addr newSize =>
      exact sparing_resize session addr newSize
  | _ =>
      exact .of_tiers_eq rfl

/-- No step asks for a segment back that is not idle. -/
theorem sparing_turn
    (thread : Thread)
    (session : Session (Recorder β))
    (number : Nat) :
    Sparing session.engine (thread.turn session number).1.engine := by
  obtain ⟨phase, program, replies⟩ := thread
  cases phase with
  | idle =>
      cases program with
      | nil =>
          exact .of_tiers_eq rfl
      | cons call rest =>
          exact sparing_start session number call
  | routed symbol tier size reserved align =>
      simp only [Thread.turn, carve]
      split
      · rename_i cause after carved
        exact .carve carved
      · rename_i found after carved
        exact .carve carved
  | carved symbol block grew =>
      exact .of_tiers_eq rfl
  | removed block =>
      exact .giveBack session.engine block
  | trimmingHost =>
      exact .trimTier session.engine .host
  | trimmingCxl hostBytes =>
      exact .trimTier session.engine .cxl
  | concluding aftermath =>
      exact .of_tiers_eq (Kept.tiers_conclude _ _ _)

namespace Machine

theorem sparing_step
    (machine : Machine (Recorder β))
    (number : Nat) :
    Sparing machine.session.engine (machine.step number).session.engine := by
  cases found : machine.threads[number]? with
  | none =>
      rw [step_of_none found]
      exact .of_tiers_eq rfl
  | some thread =>
      rw [step_of_some found]
      exact sparing_turn thread machine.session number

/-- No segment that a step asks back overlaps an outstanding range. -/
theorem Accounted.release_apart
    {machine : Machine (Recorder β)}
    (accounted : machine.Accounted)
    (abiding : Dealing.Abiding machine.dealings)
    (number : Nat)
    (tier : Tier) :
    ∃ recent,
      (machine.step number).dealings.get tier = recent ++ machine.dealings.get tier ∧
        ∀ segment accepted, Dealing.release segment accepted ∈ recent →
          ∀ held ∈ outstanding machine.history, segment.span.Apart held.2 := by
  obtain ⟨recent, dealings, idle⟩ := sparing_step machine number tier
  refine ⟨recent, ?_, ?_⟩
  · simp only [Machine.dealings, Session.dealings, PerTier.dealings, PerTier.get_map]
    exact dealings
  · intro segment accepted member held isOutstanding
    obtain ⟨block, inBooks, rfl⟩ :=
      List.mem_map.mp (accounted.kept.owned.mem_iff.mp isOutstanding)
    exact accounted.kept.accounted.backed.idle_apart abiding (idle segment accepted member)
      inBooks

/-- Over backends that owe their dealings, everything is in order after every schedule of the
steps of any threads, and no step asks for a segment back that an outstanding range lies in. -/
theorem inOrder_run
    (config : Config)
    (bank : RegisterBank)
    (backends : PerTier β)
    (programs : List (List Call))
    (schedule : List Nat)
    (abiding : ∀ before, before <+: schedule →
      Dealing.Abiding
        ((opening (Session.opening config bank (backends.map Recorder.start)) programs).run
          before).dealings) :
    ((opening (Session.opening config bank backends) programs).run schedule).InOrder ∧
      ∀ before number, before ++ [number] <+: schedule → ∀ tier, ∃ recent,
        ((opening (Session.opening config bank (backends.map Recorder.start)) programs).run
            (before ++ [number])).dealings.get tier =
          recent ++
            ((opening (Session.opening config bank (backends.map Recorder.start))
              programs).run before).dealings.get tier ∧
          ∀ segment accepted, Dealing.release segment accepted ∈ recent →
            ∀ held ∈ outstanding
              ((opening (Session.opening config bank backends) programs).run before).history,
              segment.span.Apart held.2 := by
  have plain :
      opening (Session.opening config bank backends) programs =
        (opening (Session.opening config bank (backends.map Recorder.start))
          programs).unrecorded := by
    rw [Session.opening, Engine.unrecorded_withBackends]
    rfl
  have accounted := accounted_opening config bank backends programs
  rw [plain]
  simp only [unrecorded_run]
  constructor
  · have kept := accounted_run accounted abiding
    exact (kept.inOrder (abiding schedule (List.prefix_refl schedule))).unrecorded
  · intro before number isPrefix tier
    have shorter : before <+: schedule := (List.prefix_append before _).trans isPrefix
    have kept := accounted_run accounted
      fun earlier isEarlier => abiding earlier (isEarlier.trans shorter)
    rw [run_snoc]
    exact kept.release_apart (abiding before shorter) number tier

/-- Two threads that use the same address: one frees the block that the other one resizes and
frees as well. -/
def contendingPrograms : List (List Call) :=
  [[.allocateOn .host 100, .free 65536, .trim],
   [.allocateOnAligned .cxl 5000 4096, .resize 65536 90, .free 65536, .allocateOn .host 24]]

/-- The steps of the two threads in turns; the trim comes between the carving of the last
block and its entry. -/
def contendingSchedule : List Nat :=
  [0, 1, 0, 1, 0, 1, 0, 1, 1, 0, 1, 1, 0, 1, 0, 1, 0, 1, 0, 1, 0, 1, 0]

theorem inOrder_run_contendingPrograms :
    (∀ before, before <+: contendingSchedule →
      Dealing.Abiding
        ((opening
          (Session.opening { Config.standard with segmentSize := 4096 } .initial
            (Session.distantBackends.map Recorder.start))
          contendingPrograms).run before).dealings) ∧
      ((opening
        (Session.opening { Config.standard with segmentSize := 4096 } .initial
          Session.distantBackends)
        contendingPrograms).run contendingSchedule).session.engine.Reconciled := by
  have abiding : ∀ before, before <+: contendingSchedule →
      Dealing.Abiding
        ((opening
          (Session.opening { Config.standard with segmentSize := 4096 } .initial
            (Session.distantBackends.map Recorder.start))
          contendingPrograms).run before).dealings := by
    simp only [← List.mem_inits]
    decide +kernel
  have atRest :
      ∀ thread ∈ ((opening
        (Session.opening { Config.standard with segmentSize := 4096 } .initial
          Session.distantBackends)
        contendingPrograms).run contendingSchedule).threads, thread.phase = .idle := by
    decide +kernel
  have inOrder :=
    inOrder_run { Config.standard with segmentSize := 4096 } .initial Session.distantBackends
      contendingPrograms contendingSchedule
  exact ⟨abiding, (inOrder abiding).1.reconciled atRest⟩

end Machine

end TierHeap.Interleaving
