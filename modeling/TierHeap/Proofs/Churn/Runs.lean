import TierHeap.Proofs.Churn.Books

/-!
# Churn runs

Whatever the schedule, a churn keeps its books and its workers sound (`State.Kept`); also between
the selection of a tier and the allocation from it, a thread reads the tier it has selected.  A
turn of a worker that has not finished brings it nearer to its end, so all workers have finished
when each has had as many turns as it may need (`State.finished_of_turns`).
-/

namespace TierHeap

namespace Session

variable {β : Type} [Backend β] {session : Session β}

/-- A call on the tiers and the table leaves settings, register and slots as they are. -/
theorem settings_of_task
    {thread : Nat}
    {call : Call}
    {task : Task}
    (asked : call.task? (session.active thread) = some task) :
    (session.call thread call).2.engine.config = session.engine.config ∧
      (session.call thread call).2.engine.mode = session.engine.mode ∧
        (session.call thread call).2.bank = session.bank := by
  obtain ⟨log, made⟩ := call_of_task asked
  rw [made]
  generalize (task.outcome session.engine.tiers session.engine.table).2 = change
  cases change <;> exact ⟨rfl, rfl, rfl⟩

theorem config_call
    (session : Session β)
    (thread : Nat)
    (call : Call) :
    (session.call thread call).2.engine.config = session.engine.config := by
  cases asked : call.task? (session.active thread) with
  | none =>
      obtain ⟨log, made⟩ := call_of_no_task asked
      rw [made]
  | some task =>
      exact (settings_of_task asked).1

/-- The register of a session can be read by its threads: in thread scope it is a live one. -/
def Registered (session : Session β) : Prop :=
  session.engine.mode.scope = session.engine.config.scope ∧
    (session.engine.mode.scope = .thread → session.engine.mode.id ∈ session.bank.live)

omit [Backend β] in
theorem Registered.congr
    (registered : session.Registered)
    {after : Session β}
    (config : after.engine.config = session.engine.config)
    (mode : after.engine.mode = session.engine.mode)
    (bank : after.bank = session.bank) :
    after.Registered := by
  rw [Registered, config, mode, bank]
  exact registered

/-- Selecting a tier is heard by the threads that it is meant for. -/
theorem Registered.setMode
    (registered : session.Registered)
    (thread : Nat)
    (tier : Tier) :
    (session.call thread (.setMode tier)).2.Registered ∧
      ∀ reader, (session.call thread (.setMode tier)).2.active reader =
        if ModeRegister.heardBy session.engine.config.scope thread reader then tier
        else session.active reader := by
  obtain ⟨scope, alive⟩ := registered
  have asked : Call.task? (session.active thread) (.setMode tier) = none := rfl
  obtain ⟨log, made⟩ := call_of_no_task asked
  rw [made]
  obtain ⟨sameScope, sameId, -⟩ :=
    session.engine.mode.set_register session.bank thread tier
  obtain ⟨-, live, -⟩ := session.engine.mode.set_bank session.bank thread tier
  refine ⟨⟨sameScope.trans scope, fun threadScoped => ?_⟩, fun reader => ?_⟩
  · change (session.engine.mode.set session.bank thread tier).2.1.id ∈
      (session.engine.mode.set session.bank thread tier).2.2.live
    rw [sameId, live]
    exact alive (sameScope.symm.trans threadScoped)
  · rw [← scope]
    exact session.engine.mode.read_set session.bank thread reader tier alive

end Session

namespace Churn.State

open Worker (Asks Sound)

variable {β : Type} {plan : Plan}

/-- The books are kept, the workers are sound, and a worker that has selected a tier reads
it. -/
structure Kept
    (plan : Plan)
    (state : State (Recorder β)) : Prop where
  books : Books state.session state.workers
  sound : ∀ worker ∈ state.workers, worker.Sound plan state.session.engine.config.scope
  registered : state.session.Registered
  selected : ∀ (index : Nat) (worker : Worker) tier size,
    state.workers[index]? = some worker → worker.pending = some (tier, size) →
      state.session.active (threadOf index) = tier

/-- One worker has been served, and nothing has happened to the others. -/
theorem Kept.served
    {state : State (Recorder β)}
    (kept : state.Kept plan)
    {index : Nat}
    {worker : Worker}
    (found : state.workers[index]? = some worker)
    {after : Session (Recorder β)}
    {changed : Worker}
    (config : after.engine.config = state.session.engine.config)
    (registered : after.Registered)
    (books : Books after (changed :: state.workers.eraseIdx index))
    (sound : changed.Sound plan state.session.engine.config.scope)
    (own : ∀ tier size, changed.pending = some (tier, size) → after.active (threadOf index) = tier)
    (others : ∀ other, other ≠ index → state.session.engine.config.scope = .thread →
      after.active (threadOf other) = state.session.active (threadOf other)) :
    Kept plan ⟨after, state.workers.set index changed⟩ := by
  obtain ⟨inside, rfl⟩ := List.getElem?_eq_some_iff.mp found
  refine ⟨books.perm (List.set_perm_cons_eraseIdx inside changed).symm, ?_, registered, ?_⟩
  · intro other member
    rw [config]
    rcases List.mem_or_eq_of_mem_set member with old | rfl
    · exact kept.sound other old
    · exact sound
  · intro place other tier size placed pending
    rw [List.getElem?_set] at placed
    split at placed
    · rename_i same
      cases placed
      rw [← same]
      exact own tier size pending
    · -- A tier is selected in thread scope only, where no other thread can change it.
      rename_i different
      have threadScoped :=
        ((kept.sound other (List.mem_of_getElem? placed)).selected tier size pending).1
      exact (others place (Ne.symm different) threadScoped).trans
        (kept.selected place other tier size placed pending)

variable [Backend β]

/-- A call on the tiers and the table lets every thread read what it has read before. -/
theorem Kept.served_of_task
    {state : State (Recorder β)}
    (kept : state.Kept plan)
    {index : Nat}
    {worker : Worker}
    (found : state.workers[index]? = some worker)
    {call : Call}
    {task : Task}
    (asked : call.task? (state.session.active (threadOf index)) = some task)
    {changed : Worker}
    (books : Books (state.session.call (threadOf index) call).2
      (changed :: state.workers.eraseIdx index))
    (sound : changed.Sound plan state.session.engine.config.scope)
    (ready : changed.pending = none) :
    Kept plan
      ⟨(state.session.call (threadOf index) call).2, state.workers.set index changed⟩ := by
  obtain ⟨config, mode, bank⟩ := Session.settings_of_task asked
  refine kept.served found config (kept.registered.congr config mode bank) books sound ?_ ?_
  · intro tier size pending
    rw [ready] at pending
    cases pending
  · intro other _ _
    rw [Session.active, mode, bank, Session.active]

/-- A worker that asks for nothing has no turn, another one makes its call. -/
theorem advance_cases
    (plan : Plan)
    (state : State β)
    (index : Nat) :
    (state.advance plan index = state ∧
        ∀ worker, state.workers[index]? = some worker →
          worker.next? plan state.session.engine.config.scope = none) ∨
      ∃ worker call receive, state.workers[index]? = some worker ∧
        worker.next? plan state.session.engine.config.scope = some (call, receive) ∧
          state.advance plan index =
            ⟨(state.session.call (threadOf index) call).2,
             state.workers.set index
              (receive (state.session.call (threadOf index) call).1)⟩ := by
  rw [State.advance]
  split
  · rename_i nothing
    refine .inl ⟨rfl, fun worker found => ?_⟩
    rw [found, Option.bind_some] at nothing
    exact nothing
  · rename_i call receive next
    obtain ⟨worker, found, asked⟩ := Option.bind_eq_some_iff.mp next
    exact .inr ⟨worker, call, receive, found, asked, rfl⟩

/-- Every turn keeps a churn going. -/
theorem Kept.advance
    {state : State (Recorder β)}
    (kept : state.Kept plan)
    (index : Nat)
    (abiding : Dealing.Abiding (state.advance plan index).session.dealings) :
    (state.advance plan index).Kept plan := by
  rcases advance_cases plan state index with
    ⟨same, -⟩ | ⟨worker, call, receive, found, next, made⟩
  · rw [same]
    exact kept
  · rw [made] at abiding ⊢
    obtain ⟨inside, rfl⟩ := List.getElem?_eq_some_iff.mp found
    have sound := kept.sound _ (List.mem_of_getElem? found)
    have budget := sound.budget
    have books := kept.books.perm (List.getElem_cons_eraseIdx_perm inside).symm
    cases Worker.asks_of_next? next with
    | @select random opsLeft size tier threadScoped ready operation room valid =>
        obtain ⟨registered, heard⟩ := kept.registered.setMode (threadOf index) tier
        refine kept.served found (Session.config_call _ _ _) registered ?_
          (sound.select threadScoped ready room random operation tier valid) ?_ ?_
        · exact (books.setMode (threadOf index) tier).congr rfl rfl
        · intro chosen asked pending
          cases pending
          rw [heard]
          simp [ModeRegister.heardBy]
        · intro other different _
          have apart : threadOf index ≠ threadOf other := by
            rw [threadOf, threadOf]
            omega
          rw [heard]
          simp [ModeRegister.heardBy, threadScoped, apart]
    | @pin random opsLeft size tier ready operation room valid =>
        -- The operation is spent before the call is made, and only then does the reply count.
        rw [ready, operation] at budget
        have fewer : opsLeft ≤ state.workers[index].opsLeft := by omega
        have left : state.workers[index].asked + opsLeft < plan.opsPerThread := by
          simp only [Option.isSome_none, Bool.false_eq_true, if_false] at budget
          omega
        have current : Books state.session
            ({ state.workers[index] with random := random, opsLeft := opsLeft } ::
              state.workers.eraseIdx index) := books.congr rfl rfl
        obtain ⟨booksAfter, soundAfter⟩ :=
          current.allocate (sound.proceed random fewer) left room rfl valid abiding
        exact kept.served_of_task found rfl booksAfter soundAfter
          (Worker.pending_receiveAllocation _ _ _)
    | @route size tier pending =>
        rw [pending] at budget
        obtain ⟨-, room, valid⟩ := sound.selected tier size pending
        -- Turns of other workers have passed since the selection.
        have selected := kept.selected index _ tier size found pending
        have asked : Call.task? (state.session.active (threadOf index)) (.allocate size) =
            some (.allocate tier size granule) := by
          rw [selected]
          rfl
        have left : state.workers[index].asked + state.workers[index].opsLeft <
            plan.opsPerThread := by
          simp only [Option.isSome_some, if_true] at budget
          omega
        obtain ⟨booksAfter, soundAfter⟩ :=
          books.allocate sound left room asked valid abiding
        exact kept.served_of_task found asked booksAfter soundAfter
          (Worker.pending_receiveAllocation _ _ _)
    | @release random opsLeft addr tier rest ready operation split =>
        have current : Books state.session
            ({ state.workers[index] with random := random, opsLeft := opsLeft } ::
              state.workers.eraseIdx index) := books.congr rfl rfl
        obtain ⟨booksAfter, soundAfter⟩ :=
          current.release (sound.proceed random operation) ready split abiding
        exact kept.served_of_task found rfl booksAfter soundAfter ready

/-! ## Schedules -/

/-- What every turn keeps, as long as the state after it is allowed, is kept by every schedule
whose states are all allowed. -/
theorem kept_run_of
    (keeps allowed : State β → Prop)
    (turn : ∀ state index, keeps state → allowed (state.advance plan index) →
      keeps (state.advance plan index))
    {state : State β}
    (kept : keeps state)
    {schedule : List Nat}
    (always : ∀ before, before <+: schedule → allowed (state.runSchedule plan before)) :
    keeps (state.runSchedule plan schedule) := by
  induction schedule generalizing state with
  | nil =>
      exact kept
  | cons index rest inductionHypothesis =>
      have isTurn : [index] <+: index :: rest := (List.prefix_cons_inj _).mpr List.nil_prefix
      apply inductionHypothesis (turn state index kept (always _ isTurn))
      intro before isPrefix
      exact always (index :: before) ((List.prefix_cons_inj _).mpr isPrefix)

/-- At every moment of a schedule, the backends have given what they owe. -/
def Abides
    (plan : Plan)
    (state : State (Recorder β))
    (schedule : List Nat) : Prop :=
  ∀ before, before <+: schedule →
    Dealing.Abiding (state.runSchedule plan before).session.dealings

/-- Every schedule keeps a churn going. -/
theorem Kept.run
    {state : State (Recorder β)}
    (kept : state.Kept plan)
    {schedule : List Nat}
    (abides : state.Abides plan schedule) :
    (state.runSchedule plan schedule).Kept plan :=
  kept_run_of (Kept plan) (fun after => Dealing.Abiding after.session.dealings)
    (fun _ index kept abiding => kept.advance index abiding) kept abides

theorem total_start
    (plan : Plan)
    (indices : List Nat)
    (tier : Tier) :
    total (indices.map (Worker.start plan)) tier = ⟨0, 0, 0⟩ := by
  induction indices with
  | nil =>
      rfl
  | cons index rest inductionHypothesis =>
      rw [List.map_cons, total, List.foldr_cons]
      rw [total] at inductionHypothesis
      rw [inductionHypothesis]
      cases tier <;> rfl

theorem kept_start
    {session : Session (Recorder β)}
    (built : session.Built)
    (plan : Plan) :
    (start session plan).Kept plan := by
  have unused := built.unused
  obtain ⟨source, config, bank, fresh⟩ := built.fresh
  refine ⟨⟨unused.accounted, ?_, fun tier => ?_⟩, ?_, ⟨?_, ?_⟩, ?_⟩
  · have nothing : (start session plan).workers.flatMap Worker.live = [] := by
      rw [List.flatMap_eq_nil_iff]
      intro worker member
      obtain ⟨index, -, rfl⟩ := List.mem_map.mp member
      rfl
    rw [nothing, start, unused.table, BlockTable.blocks_empty]
    exact .refl _
  · rw [start, total_start, unused.metrics]
    cases tier <;> exact ⟨rfl, rfl, rfl⟩
  · intro worker member
    obtain ⟨index, -, rfl⟩ := List.mem_map.mp member
    exact Worker.sound_start plan _ index
  · rw [start, fresh.mode, fresh.config_eq]
    rfl
  · rw [start, fresh.mode, fresh.bank_eq]
    intro threadScoped
    have made : config.scope = .thread := threadScoped
    rw [made]
    exact List.mem_cons_self
  · intro index worker tier size placed pending
    obtain ⟨index, -, rfl⟩ := List.mem_map.mp (List.mem_of_getElem? placed)
    cases pending

def Finished
    (plan : Plan)
    (state : State β) : Prop :=
  ∀ worker ∈ state.workers, worker.next? plan state.session.engine.config.scope = none

section

variable {state : State β} {place : Nat} {worker : Worker}

theorem config_advance
    (plan : Plan)
    (state : State β)
    (index : Nat) :
    (state.advance plan index).session.engine.config = state.session.engine.config := by
  rcases advance_cases plan state index with ⟨same, -⟩ | ⟨worker, call, receive, -, -, made⟩
  · rw [same]
  · rw [made]
    exact Session.config_call _ _ _

theorem config_run
    (plan : Plan)
    (state : State β)
    (schedule : List Nat) :
    (state.runSchedule plan schedule).session.engine.config = state.session.engine.config := by
  induction schedule generalizing state with
  | nil =>
      rfl
  | cons index rest inductionHypothesis =>
      exact (inductionHypothesis _).trans (config_advance plan state index)

/-- A turn of another worker, or of one that has finished, leaves a worker as it is. -/
theorem worker_advance
    (found : state.workers[place]? = some worker)
    {index : Nat}
    (unmoved : index = place → worker.next? plan state.session.engine.config.scope = none) :
    (state.advance plan index).workers[place]? = some worker := by
  rcases advance_cases plan state index with
    ⟨same, -⟩ | ⟨moved, call, receive, isMoved, next, made⟩
  · rw [same]
    exact found
  · rw [made]
    by_cases own : index = place
    · subst own
      rw [found] at isMoved
      cases isMoved
      rw [unmoved rfl] at next
      cases next
    · simp only [List.getElem?_set_ne own]
      exact found

/-- A turn of a worker that has not finished takes one of its turns. -/
theorem turnsLeft_advance
    (found : state.workers[place]? = some worker)
    (going : worker.next? plan state.session.engine.config.scope ≠ none) :
    ∃ after, (state.advance plan place).workers[place]? = some after ∧
      after.turnsLeft < worker.turnsLeft := by
  rcases advance_cases plan state place with
    ⟨-, finished⟩ | ⟨moved, call, receive, isMoved, next, made⟩
  · exact absurd (finished worker found) going
  · rw [found] at isMoved
    cases isMoved
    obtain ⟨inside, -⟩ := List.getElem?_eq_some_iff.mp found
    rw [made]
    refine ⟨_, List.getElem?_set_self inside, ?_⟩
    exact (Worker.asks_of_next? next).turnsLeft_lt _

/-- A worker that has finished stays as it is. -/
theorem finished_run
    (found : state.workers[place]? = some worker)
    (finished : worker.next? plan state.session.engine.config.scope = none)
    (schedule : List Nat) :
    (state.runSchedule plan schedule).workers[place]? = some worker := by
  induction schedule generalizing state with
  | nil =>
      exact found
  | cons index rest inductionHypothesis =>
      refine inductionHypothesis (worker_advance found fun _ => finished) ?_
      rw [config_advance]
      exact finished

/-- After a schedule, a worker has finished or has fewer turns left by those it had. -/
theorem worker_run
    (found : state.workers[place]? = some worker)
    (schedule : List Nat) :
    ∃ after, (state.runSchedule plan schedule).workers[place]? = some after ∧
      (after.next? plan state.session.engine.config.scope = none ∨
        after.turnsLeft + schedule.count place ≤ worker.turnsLeft) := by
  induction schedule generalizing state worker with
  | nil =>
      exact ⟨worker, found, .inr (Nat.le_refl _)⟩
  | cons index rest inductionHypothesis =>
      by_cases finished : worker.next? plan state.session.engine.config.scope = none
      · exact ⟨worker, finished_run found finished _, .inl finished⟩
      by_cases own : index = place
      · subst own
        obtain ⟨moved, placed, fewer⟩ := turnsLeft_advance found finished
        obtain ⟨after, isAfter, outcome⟩ := inductionHypothesis placed
        rw [config_advance] at outcome
        refine ⟨after, isAfter, outcome.imp_right fun bound => ?_⟩
        rw [List.count_cons_self]
        omega
      · have placed : (state.advance plan index).workers[place]? = some worker :=
          worker_advance found fun same => absurd same own
        obtain ⟨after, isAfter, outcome⟩ := inductionHypothesis placed
        rw [config_advance] at outcome
        rw [List.count_cons_of_ne own]
        exact ⟨after, isAfter, outcome⟩

theorem length_advance
    (plan : Plan)
    (state : State β)
    (index : Nat) :
    (state.advance plan index).workers.length = state.workers.length := by
  rcases advance_cases plan state index with ⟨same, -⟩ | ⟨worker, call, receive, -, -, made⟩
  · rw [same]
  · rw [made]
    exact List.length_set

theorem length_run
    (plan : Plan)
    (state : State β)
    (schedule : List Nat) :
    (state.runSchedule plan schedule).workers.length = state.workers.length := by
  induction schedule generalizing state with
  | nil =>
      rfl
  | cons index rest inductionHypothesis =>
      exact (inductionHypothesis _).trans (length_advance plan state index)

/-- When each worker has had as many turns as it may need, all have finished. -/
theorem finished_of_turns
    (plan : Plan)
    (session : Session β)
    {schedule : List Nat}
    (turns : ∀ index < max plan.threads 1, callLimit plan ≤ schedule.count index) :
    ((start session plan).runSchedule plan schedule).Finished plan := by
  intro worker member
  obtain ⟨place, isWorker⟩ := List.mem_iff_getElem?.mp member
  obtain ⟨inside, -⟩ := List.getElem?_eq_some_iff.mp isWorker
  rw [length_run, start, List.length_map, List.length_range] at inside
  have started : (start session plan).workers[place]? = some (Worker.start plan place) := by
    simp [start, inside]
  have ran : ∃ after,
      ((start session plan).runSchedule plan schedule).workers[place]? = some after ∧ _ :=
    worker_run started schedule
  obtain ⟨after, isAfter, outcome⟩ := ran
  rw [isWorker] at isAfter
  cases isAfter
  rw [config_run]
  rcases outcome with finished | bound
  · exact finished
  · have enough := turns place inside
    rw [Worker.turnsLeft_start] at bound
    exact Worker.next?_of_turnsLeft _ (by omega)

end

end Churn.State

end TierHeap
