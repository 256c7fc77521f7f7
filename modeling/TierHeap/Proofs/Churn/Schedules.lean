import TierHeap.Proofs.Churn.Courses
import TierHeap.Proofs.Churn.Summary
import TierHeap.Proofs.Engine.Granting
import TierHeap.Proofs.Engine.Tallies

/-!
# Churns in any order

Where no tier has a ceiling and no commit fails, every call of a worker is granted, so each worker
is on its course (`State.Traced`).  What the workers tell and the engine counts in the end is then
the same for all schedules (`State.schedules_agree`); the addresses and the growths are not.
-/

namespace TierHeap

namespace Session

variable {β : Type} [Backend β]

/-- The register counts the tiers that are selected. -/
theorem switches_call
    (session : Session β)
    (thread : Nat)
    (call : Call)
    {selected : Nat}
    (counted : session.engine.mode.switches = Word.wrap selected) :
    (session.call thread call).2.engine.mode.switches =
      Word.wrap (selected + call.selections) := by
  cases asked : call.task? (session.active thread) with
  | some task =>
      have none : call.selections = 0 := by
        cases call with
        | setMode tier =>
            cases asked
        | _ =>
            rfl
      rw [(settings_of_task asked).2.1, none]
      exact counted
  | none =>
      obtain ⟨log, made⟩ := call_of_no_task asked
      rw [made]
      cases call with
      | enable =>
          exact counted
      | setMode tier =>
          have stepped : Word.add session.engine.mode.switches 1 = Word.wrap (selected + 1 + 0) :=
            Churn.wrap_succ counted
          exact (session.engine.mode.switches_set session.bank thread tier).trans stepped
      | _ =>
          cases asked

end Session

namespace Churn

variable {β : Type} {plan : Plan}

namespace State

/-- The churn is going, every worker is on its course, and what they have selected and have not
been supplied with is counted. -/
structure Traced
    (plan : Plan)
    (state : State (Recorder β)) : Prop where
  kept : state.Kept plan
  gauged : state.session.engine.Gauged
  unlimited : ∀ tier, (state.session.engine.tiers.get tier).capacity = none
  onCourse : ∀ (index : Nat) (worker : Worker), state.workers[index]? = some worker →
    worker.OnCourse plan state.session.engine.config.scope index
  supplied : ∀ worker ∈ state.workers, ∀ tier,
    (worker.tally.tiers.get tier).outOfMemory = 0
  switches : state.session.engine.mode.switches =
    Word.wrap
      (state.workers.map (Worker.selections state.session.engine.config.scope)).sum

variable [Backend β]

/-- Without ceilings and failing commits, a worker is granted what it asks for. -/
theorem Kept.grants
    {state : State (Recorder β)}
    (kept : state.Kept plan)
    (unlimited : ∀ tier, (state.session.engine.tiers.get tier).capacity = none)
    {index : Nat}
    {worker : Worker}
    (found : state.workers[index]? = some worker)
    {call : Call}
    {receive : Reply → Worker}
    (next : worker.next? plan state.session.engine.config.scope = some (call, receive))
    (abiding : Dealing.Abiding (state.session.call (threadOf index) call).2.dealings)
    (granted : Dealing.AllGranted (state.session.call (threadOf index) call).2.dealings) :
    worker.Grants call (state.session.call (threadOf index) call).1 := by
  obtain ⟨inside, rfl⟩ := List.getElem?_eq_some_iff.mp found
  have sound := kept.sound _ (List.mem_of_getElem? found)
  have books := kept.books.perm (List.getElem_cons_eraseIdx_perm inside).symm
  have accounted := kept.books.accounted
  cases Worker.asks_of_next? next with
  | select threadScoped ready operation room valid =>
      trivial
  | @pin random opsLeft size tier ready operation room valid =>
      obtain ⟨addr, served⟩ :=
        Session.address_of_granted accounted (unlimited tier) rfl valid abiding granted
      rw [served]
      trivial
  | @route size tier pending =>
      obtain ⟨-, room, valid⟩ := sound.selected tier size pending
      have selected := kept.selected index _ tier size found pending
      have asked : Call.task? (state.session.active (threadOf index)) (.allocate size) =
          some (.allocate tier size granule) := by
        rw [selected]
        rfl
      obtain ⟨addr, served⟩ :=
        Session.address_of_granted accounted (unlimited tier) asked valid abiding granted
      rw [served]
      trivial
  | @release random opsLeft addr tier rest ready operation split =>
      obtain ⟨block, inTable, ofTier⟩ := books.found (split.mem_iff.mp List.mem_cons_self)
      have asked : Call.task? (state.session.active (threadOf index)) (.free addr) =
          some (.free addr) := rfl
      obtain ⟨reply, change, log, made, ends⟩ := Session.call_ends asked
      rw [made]
      cases ends with
      | unknownFree absent =>
          rw [inTable] at absent
          cases absent
      | freed foundAgain =>
          -- The table, like the worker, has the block on the tier that it was asked for on.
          intro wanted held
          obtain ⟨other, alsoInTable, ofWanted⟩ := books.found held
          rw [foundAgain] at alsoInTable
          cases alsoInTable
          exact ofWanted.symm

/-- One worker is replaced. -/
theorem sum_map_set
    (measure : Worker → Nat)
    {workers : List Worker}
    {index : Nat}
    {worker : Worker}
    (found : workers[index]? = some worker)
    (changed : Worker) :
    ∃ rest, (workers.map measure).sum = measure worker + rest ∧
      ((workers.set index changed).map measure).sum = measure changed + rest := by
  obtain ⟨inside, rfl⟩ := List.getElem?_eq_some_iff.mp found
  have before := ((List.getElem_cons_eraseIdx_perm inside).map measure).sum_eq
  have after := ((List.set_perm_cons_eraseIdx inside changed).map measure).sum_eq
  exact ⟨_, before.symm, after⟩

/-- A turn of a worker leaves it on its course. -/
theorem Traced.advance
    {state : State (Recorder β)}
    (traced : state.Traced plan)
    (index : Nat)
    (abiding : Dealing.Abiding (state.advance plan index).session.dealings)
    (granted : Dealing.AllGranted (state.advance plan index).session.dealings) :
    (state.advance plan index).Traced plan := by
  have kept := traced.kept.advance index abiding
  rcases advance_cases plan state index with
    ⟨same, -⟩ | ⟨worker, call, receive, found, next, made⟩
  · rw [same]
    exact traced
  · rw [made] at kept abiding granted ⊢
    have grants := traced.kept.grants traced.unlimited found next abiding granted
    have counts := Worker.counts_of_next? next grants
    have member := List.mem_of_getElem? found
    have scope := congrArg Config.scope (Session.config_call state.session (threadOf index) call)
    refine ⟨kept, ?_, fun tier => ?_, ?_, ?_, ?_⟩
    · exact Session.gauged_call traced.kept.books.accounted abiding traced.gauged
    · exact (Session.sameSettings_call _ _ _ tier).capacity.trans (traced.unlimited tier)
    · intro place other placed
      rw [scope]
      by_cases own : index = place
      · subst own
        obtain ⟨inside, -⟩ := List.getElem?_eq_some_iff.mp found
        rw [List.getElem?_set_self inside] at placed
        cases placed
        exact (traced.onCourse index worker found).next next grants
      · rw [List.getElem?_set_ne own] at placed
        exact traced.onCourse place other placed
    · intro other held tier
      rcases List.mem_or_eq_of_mem_set held with old | rfl
      · exact traced.supplied other old tier
      · exact (counts.outOfMemory tier).trans (traced.supplied worker member tier)
    · obtain ⟨rest, before, after⟩ := sum_map_set
        (Worker.selections state.session.engine.config.scope) found
        (receive (state.session.call (threadOf index) call).1)
      rw [scope, after, counts.selections, Nat.add_right_comm, ← before]
      exact state.session.switches_call (threadOf index) call traced.switches

/-- At every moment of a schedule, no commit has failed. -/
def Grants
    (plan : Plan)
    (state : State (Recorder β))
    (schedule : List Nat) : Prop :=
  ∀ before, before <+: schedule →
    Dealing.AllGranted (state.runSchedule plan before).session.dealings

/-- Every schedule leaves all workers on their courses. -/
theorem Traced.run
    {state : State (Recorder β)}
    (traced : state.Traced plan)
    {schedule : List Nat}
    (abides : state.Abides plan schedule)
    (grants : state.Grants plan schedule) :
    (state.runSchedule plan schedule).Traced plan :=
  kept_run_of (Traced plan)
    (fun after =>
      Dealing.Abiding after.session.dealings ∧ Dealing.AllGranted after.session.dealings)
    (fun _ index traced ⟨abiding, granted⟩ => traced.advance index abiding granted) traced
    fun before isPrefix => ⟨abides before isPrefix, grants before isPrefix⟩

theorem traced_start
    {session : Session (Recorder β)}
    (built : session.Built)
    (unlimited : ∀ tier, (session.engine.config.tiers.get tier).capacity = none)
    (plan : Plan) :
    (start session plan).Traced plan := by
  refine ⟨kept_start built plan, built.unused.gauged, fun tier => ?_, ?_, ?_, ?_⟩
  · obtain ⟨source, config, bank, fresh⟩ := built.fresh
    have ceiling := unlimited tier
    rw [fresh.config_eq] at ceiling
    rw [start, fresh.allocator]
    exact ceiling
  · intro index worker placed
    rw [start, List.getElem?_map] at placed
    obtain ⟨place, isPlace, rfl⟩ := Option.map_eq_some_iff.mp placed
    obtain ⟨-, rfl⟩ := List.getElem?_eq_some_iff.mp isPlace
    rw [List.getElem_range]
    exact ⟨0, Worker.outline_start plan _ index⟩
  · intro worker member tier
    obtain ⟨index, -, rfl⟩ := List.mem_map.mp member
    cases tier <;> rfl
  · have none : ∀ selected ∈ (start session plan).workers.map
        (Worker.selections session.engine.config.scope), selected = 0 := by
      intro selected member
      obtain ⟨worker, started, rfl⟩ := List.mem_map.mp member
      obtain ⟨index, -, rfl⟩ := List.mem_map.mp started
      cases session.engine.config.scope <;> rfl
    obtain ⟨source, config, bank, fresh⟩ := built.fresh
    have sum : ((start session plan).workers.map
        (Worker.selections session.engine.config.scope)).sum = 0 := List.sum_eq_zero none
    have switches : session.engine.mode.switches = 0 := by
      rw [fresh.mode]
      rfl
    exact switches.trans (congrArg Word.wrap sum).symm

/-! ## Two schedules -/

omit [Backend β] in
/-- Workers that have finished have the outlines at the ends of their courses. -/
theorem Traced.outlines_eq
    {γ : Type}
    {first : State (Recorder β)}
    {second : State (Recorder γ)}
    (traced : first.Traced plan)
    (alsoTraced : second.Traced plan)
    (scope : first.session.engine.config.scope = second.session.engine.config.scope)
    (crowd : first.workers.length = second.workers.length)
    (finished : first.Finished plan)
    (alsoFinished : second.Finished plan) :
    first.workers.map Worker.outline = second.workers.map Worker.outline := by
  apply List.ext_getElem
  · rw [List.length_map, List.length_map, crowd]
  intro index inFirst inSecond
  rw [List.getElem_map, List.getElem_map]
  rw [List.length_map] at inFirst inSecond
  have onCourse := alsoTraced.onCourse index _ (List.getElem?_eq_getElem inSecond)
  have ended := alsoFinished _ (List.getElem_mem inSecond)
  rw [← scope] at onCourse ended
  exact
    (traced.onCourse index _ (List.getElem?_eq_getElem inFirst)).outline_eq_of_finished onCourse
      (finished _ (List.getElem_mem inFirst)) ended

end State

/-- Workers with the same outlines have counted the same. -/
theorem tallied_congr
    {workers others : List Worker}
    (same : workers.map Worker.outline = others.map Worker.outline) :
    tallied workers = tallied others := by
  have ofOutlines (workers : List Worker) :
      tallied (workers.map Worker.outline) = tallied workers := List.foldl_map
  rw [← ofOutlines workers, same, ofOutlines]

theorem outOfMemory_tallied
    {workers : List Worker}
    {tier : Tier}
    (supplied : ∀ worker ∈ workers, (worker.tally.tiers.get tier).outOfMemory = 0) :
    ((tallied workers).tiers.get tier).outOfMemory = 0 := by
  rw [tiers_tallied]
  induction workers with
  | nil =>
      rfl
  | cons worker rest inductionHypothesis =>
      have others := inductionHypothesis fun other member =>
        supplied other (List.mem_cons_of_mem _ member)
      rw [total, List.foldr_cons]
      exact congrArg₂ (· + ·) (supplied worker List.mem_cons_self) others

theorem sum_selections_congr
    (scope : ModeScope)
    {workers others : List Worker}
    (same : workers.map Worker.outline = others.map Worker.outline) :
    (workers.map (Worker.selections scope)).sum = (others.map (Worker.selections scope)).sum := by
  have ofOutlines (workers : List Worker) :
      (workers.map Worker.outline).map (Worker.selections scope) =
        workers.map (Worker.selections scope) := List.map_map
  rw [← ofOutlines workers, same, ofOutlines]

/-- The result of a churn whose workers have their turns in the order of a schedule, once they
have reserved their lists in a system that has room for some lists only. -/
def runInOrder
    [Backend β]
    (room : Nat → Bool)
    (plan : Plan)
    (session : Session β)
    (schedule : List Nat)
    (thread elapsedMs : Nat) : Except Ending Summary :=
  match plan.reservationFailure? room with
  | some ending => .error ending
  | none =>
      let last := (State.start session plan).runSchedule plan schedule
      (summarize plan last.session last.workers thread elapsedMs).mapError .failed

/-- The workers tell the same, and the engines show the same of what they count by calls and by
blocks. -/
structure Summary.Agrees (first second : Summary) : Prop where
  tiers : first.tiers = second.tiers
  tierMismatches : first.tierMismatches = second.tierMismatches
  unknownFrees : first.unknownFrees = second.unknownFrees
  sumOfWorkerPeaks : first.sumOfWorkerPeaks = second.sumOfWorkerPeaks
  allocations : ∀ tier, (first.engine.metrics.tiers.get tier).allocations =
    (second.engine.metrics.tiers.get tier).allocations
  frees : ∀ tier, (first.engine.metrics.tiers.get tier).frees =
    (second.engine.metrics.tiers.get tier).frees
  outOfMemory : ∀ tier, (first.engine.metrics.tiers.get tier).outOfMemory =
    (second.engine.metrics.tiers.get tier).outOfMemory
  tierLiveBlocks : ∀ tier, (first.engine.metrics.tiers.get tier).liveBlocks =
    (second.engine.metrics.tiers.get tier).liveBlocks
  outstandingBytes : ∀ tier, (first.engine.metrics.tiers.get tier).outstandingBytes =
    (second.engine.metrics.tiers.get tier).outstandingBytes
  liveBlocks : first.engine.liveBlocks = second.engine.liveBlocks
  modeSwitches : first.engine.modeSwitches = second.engine.modeSwitches

namespace State

/-- A schedule in which all workers of a churn of a new engine finish, over backends without
ceilings that owe their dealings and let no commit fail. -/
structure Supplied
    [Backend β]
    (plan : Plan)
    (session : Session (Recorder β))
    (schedule : List Nat) : Prop where
  built : session.Built
  unlimited : ∀ tier, (session.engine.config.tiers.get tier).capacity = none
  abides : (start session plan).Abides plan schedule
  grants : (start session plan).Grants plan schedule
  finished : ((start session plan).runSchedule plan schedule).Finished plan

theorem Supplied.traced
    [Backend β]
    {session : Session (Recorder β)}
    {schedule : List Nat}
    (supplied : Supplied plan session schedule) :
    ((start session plan).runSchedule plan schedule).Traced plan :=
  (traced_start supplied.built supplied.unlimited plan).run supplied.abides supplied.grants

/-- In the end, the gauges show that nothing is left. -/
theorem Traced.gauges
    {state : State (Recorder β)}
    (traced : state.Traced plan)
    (finished : state.Finished plan)
    (abiding : Dealing.Abiding state.session.dealings) :
    state.session.engine.liveBlocks = 0 ∧
      ∀ tier, (state.session.engine.metrics.tiers.get tier).liveBlocks = 0 ∧
        (state.session.engine.metrics.tiers.get tier).outstandingBytes = 0 := by
  have nothing := traced.kept.blocks_eq_nil finished
  have reconciled := traced.kept.books.accounted.reconciled traced.gauged abiding
  refine ⟨?_, fun tier => ⟨?_, ?_⟩⟩
  · rw [Engine.liveBlocks, BlockTable.size_eq_length, nothing, List.length_nil]
  · rw [reconciled.live, nothing]
    rfl
  · rw [reconciled.bytes, nothing]
    rfl

/-- A churn that runs one worker after the other is one of those in which the workers have
their turns in an order. -/
theorem runWithin_eq_runInOrder
    [Backend β]
    (room : Nat → Bool)
    (plan : Plan)
    (session : Session β)
    (thread elapsedMs : Nat) :
    (runWithin room plan session thread elapsedMs).1 =
      runInOrder room plan session (inTurn plan) thread elapsedMs := by
  rw [runWithin, runInOrder, runAll_eq]
  cases plan.reservationFailure? room <;> rfl

theorem runInOrder_eq_ok
    [Backend β]
    {room : Nat → Bool}
    (reserved : plan.reservationFailure? room = none)
    {session : Session β}
    {schedule : List Nat}
    {thread elapsedMs : Nat}
    {summary : Summary}
    (summed :
      summarize plan ((start session plan).runSchedule plan schedule).session
          ((start session plan).runSchedule plan schedule).workers thread elapsedMs =
        .ok summary) :
    runInOrder room plan session schedule thread elapsedMs = .ok summary := by
  rw [runInOrder, reserved]
  exact congrArg (Except.mapError Ending.failed) summed

/-- Over any two engines of one scope whose tiers supply all that is asked for, and in any two
orders of their calls, the workers tell the same and the engines count the same; no request is
one that a tier could not supply.  This is so wherever the lists of the workers are
reserved. -/
theorem schedules_agree
    {γ : Type}
    [Backend β]
    [Backend γ]
    {plan : Plan}
    {room otherRoom : Nat → Bool}
    (reserved : plan.reservationFailure? room = none)
    (alsoReserved : plan.reservationFailure? otherRoom = none)
    {session : Session (Recorder β)}
    {other : Session (Recorder γ)}
    (sameScope : session.engine.config.scope = other.engine.config.scope)
    {schedule reordered : List Nat}
    (supplied : Supplied plan session schedule)
    (alsoSupplied : Supplied plan other reordered)
    (thread elapsedMs otherThread otherMs : Nat) :
    ∃ summary otherSummary,
      runInOrder room plan session schedule thread elapsedMs = .ok summary ∧
        runInOrder otherRoom plan other reordered otherThread otherMs = .ok otherSummary ∧
          summary.Agrees otherSummary ∧ ∀ tier, (summary.tiers.get tier).outOfMemory = 0 := by
  have abiding := supplied.abides schedule (List.prefix_refl schedule)
  have alsoAbiding := alsoSupplied.abides reordered (List.prefix_refl reordered)
  have traced := supplied.traced
  have alsoTraced := alsoSupplied.traced
  have scope : ((start session plan).runSchedule plan schedule).session.engine.config.scope =
      ((start other plan).runSchedule plan reordered).session.engine.config.scope := by
    rw [config_run, config_run]
    exact sameScope
  -- The runs have no turn in common, so they are compared at their ends only.
  have outlines := traced.outlines_eq alsoTraced scope
    (by rw [length_run, length_run, start, start]) supplied.finished alsoSupplied.finished
  have tallies := tallied_congr outlines
  have totals (tier : Tier) :
      total ((start session plan).runSchedule plan schedule).workers tier =
        total ((start other plan).runSchedule plan reordered).workers tier := by
    rw [← tiers_tallied, ← tiers_tallied, tallies]
  have counted (tier : Tier) := traced.kept.books.counted tier
  have alsoCounted (tier : Tier) := alsoTraced.kept.books.counted tier
  simp only [← totals] at alsoCounted
  obtain ⟨liveBlocks, gauges⟩ := traced.gauges supplied.finished abiding
  obtain ⟨alsoLiveBlocks, alsoGauges⟩ := alsoTraced.gauges alsoSupplied.finished alsoAbiding
  have switches := alsoTraced.switches
  rw [← scope, ← sum_selections_congr _ outlines, ← traced.switches] at switches
  refine ⟨_, _, runInOrder_eq_ok reserved (traced.kept.summarize_eq abiding thread elapsedMs),
    runInOrder_eq_ok alsoReserved
      (alsoTraced.kept.summarize_eq alsoAbiding otherThread otherMs), ?_, fun tier => ?_⟩
  · exact
      { tiers := congrArg Tally.tiers tallies
        tierMismatches := congrArg Tally.tierMismatches tallies
        unknownFrees := congrArg Tally.unknownFrees tallies
        sumOfWorkerPeaks := congrArg Tally.peakLive tallies
        allocations tier := (counted tier).allocations.trans (alsoCounted tier).allocations.symm
        frees tier := (counted tier).frees.trans (alsoCounted tier).frees.symm
        outOfMemory tier := (counted tier).outOfMemory.trans (alsoCounted tier).outOfMemory.symm
        tierLiveBlocks tier := (gauges tier).1.trans (alsoGauges tier).1.symm
        outstandingBytes tier := (gauges tier).2.trans (alsoGauges tier).2.symm
        liveBlocks := liveBlocks.trans alsoLiveBlocks.symm
        modeSwitches := switches.symm }
  · exact outOfMemory_tallied fun worker member => traced.supplied worker member tier

/-- The workers select their tiers in the register of small tiers without ceilings. -/
def roomy : Session (Recorder SimulatedBackend) :=
  .opening { Config.standard with segmentSize := 4096, scope := .thread } .initial
    (PerTier.map Recorder.start
      ⟨.upwards 65536 0 [], .upwards 1099511627776 4096 []⟩)

theorem supplied_roomy
    {plan : Plan}
    {schedule : List Nat}
    (abides : (start roomy plan).Abides plan schedule)
    (grants : (start roomy plan).Grants plan schedule)
    (turns : ∀ index < max plan.threads 1, callLimit plan ≤ schedule.count index) :
    Supplied plan roomy schedule :=
  ⟨.withBackends _ .initial _, fun tier => by cases tier <;> rfl, abides, grants,
    finished_of_turns plan roomy turns⟩

def sharing : Plan :=
  { crowded with seed := 11 }

/-- In turn, one worker is served from what the other one has released; mixed with it, the
tier has to grow once more. -/
theorem schedules_agree_sharing :
    (∃ summary otherSummary,
        runInOrder SystemBackend.hasRoom sharing roomy mixedTurns 0 12 = .ok summary ∧
          (Churn.run sharing roomy 0 34).1 = .ok otherSummary ∧
            summary.Agrees otherSummary ∧ ∀ tier, (summary.tiers.get tier).outOfMemory = 0) ∧
      ((Churn.run sharing roomy 0 34).2.engine.tierStats .cxl).growths <
        (((start roomy sharing).runSchedule sharing
          mixedTurns).session.engine.tierStats .cxl).growths := by
  have mixed : Supplied sharing roomy mixedTurns := by
    refine supplied_roomy ?_ ?_ (by decide)
    · simp only [Abides, ← List.mem_inits]
      decide +kernel
    · simp only [Grants, ← List.mem_inits]
      decide +kernel
  have ordered : Supplied sharing roomy (inTurn sharing) := by
    refine supplied_roomy ?_ ?_ fun index => count_inTurn sharing
    · simp only [Abides, ← List.mem_inits]
      decide +kernel
    · simp only [Grants, ← List.mem_inits]
      decide +kernel
  rw [Churn.run, runWithin_eq_runInOrder]
  exact ⟨schedules_agree (by decide) (by decide) rfl mixed ordered 0 12 0 34, by decide +kernel⟩

/-- One worker, whose list is longer than a list can be. -/
def hoarding : Plan :=
  { sharing with threads := 1, maxLivePerThread := Nat.pow 2 60 }

/-- The worker panics before its first call, though all of its calls would be granted; so
there is no summary. -/
theorem no_summary_hoarding :
    Supplied hoarding roomy (inTurn hoarding) ∧
      runInOrder SystemBackend.hasRoom hoarding roomy (inTurn hoarding) 0 12 =
        .error (.failed .workerPanicked) ∧
      (Churn.run hoarding roomy 0 34).1 = .error (.failed .workerPanicked) := by
  have panics : hoarding.reservationFailure? SystemBackend.hasRoom =
      some (.failed .workerPanicked) := by decide
  refine ⟨supplied_roomy ?_ ?_ fun index => count_inTurn hoarding, ?_, ?_⟩
  · simp only [Abides, ← List.mem_inits]
    decide +kernel
  · simp only [Grants, ← List.mem_inits]
    decide +kernel
  · rw [runInOrder, panics]
  · rw [Churn.run, runWithin, panics]

end State

end Churn

end TierHeap
