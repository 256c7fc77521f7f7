import TierHeap.Proofs.Churn.Runs
import TierHeap.Proofs.Engine.Refusals

/-!
# Churn summaries

When all workers have finished, the engine verifies, nothing is left in its table, and the
tallies of the workers add up to what its counters show (`State.Kept.summarized`).  This is so for
every schedule in which each worker has had its turns, and so for the one that runs a churn
worker by worker (`cleans_up`).
-/

namespace TierHeap.Churn

variable {β : Type}

def tallied (workers : List Worker) : Tally :=
  workers.foldl (fun tally worker => tally.add worker.tally) Tally.zero

/-- Adding up starts from a tally, and ends with the outcomes of all workers on each tier. -/
theorem tiers_foldl
    (workers : List Worker)
    (first : Tally)
    (tier : Tier) :
    (workers.foldl (fun tally worker => tally.add worker.tally) first).tiers.get tier =
      (first.tiers.get tier).add (total workers tier) := by
  -- The first tally is arbitrary since the tally of each worker is added to those before it.
  induction workers generalizing first with
  | nil =>
      rfl
  | cons worker rest inductionHypothesis =>
      rw [List.foldl_cons, inductionHypothesis, Tally.add, PerTier.get_ofFn, total, total,
        List.foldr_cons]
      simp only [TierTally.add, Nat.add_assoc]

theorem tiers_tallied
    (workers : List Worker)
    (tier : Tier) :
    (tallied workers).tiers.get tier = total workers tier := by
  rw [tallied, tiers_foldl]
  cases tier <;> simp [Tally.zero, PerTier.both, PerTier.get, TierTally.add]

/-- Sound workers add no release that went wrong, and no more to the peak than they may
hold. -/
theorem errors_foldl
    {plan : Plan}
    {scope : ModeScope}
    {workers : List Worker}
    (sound : ∀ worker ∈ workers, worker.Sound plan scope)
    (first : Tally) :
    (workers.foldl (fun tally worker => tally.add worker.tally) first).tierMismatches =
        first.tierMismatches ∧
      (workers.foldl (fun tally worker => tally.add worker.tally) first).unknownFrees =
        first.unknownFrees ∧
      (workers.foldl (fun tally worker => tally.add worker.tally) first).peakLive ≤
        first.peakLive + workers.length * plan.liveBound := by
  induction workers generalizing first with
  | nil =>
      exact ⟨rfl, rfl, Nat.le_add_right _ _⟩
  | cons worker rest inductionHypothesis =>
      have ofWorker := sound worker List.mem_cons_self
      obtain ⟨mismatches, unknown, peak⟩ :=
        inductionHypothesis (fun other member => sound other (List.mem_cons_of_mem _ member))
          (first.add worker.tally)
      rw [List.foldl_cons]
      refine ⟨?_, ?_, ?_⟩
      · rw [mismatches, Tally.add, ofWorker.matched, Nat.add_zero]
      · rw [unknown, Tally.add, ofWorker.known, Nat.add_zero]
      · apply peak.trans
        rw [Tally.add, List.length_cons, Nat.succ_mul]
        have bound := ofWorker.peak
        simp only
        omega

/-- Workers that hold nothing have released what they have allocated. -/
theorem total_balanced
    {plan : Plan}
    {scope : ModeScope}
    {workers : List Worker}
    (sound : ∀ worker ∈ workers, worker.Sound plan scope)
    (empty : ∀ worker ∈ workers, worker.live = [])
    (tier : Tier) :
    (total workers tier).allocations = (total workers tier).frees := by
  induction workers with
  | nil =>
      rfl
  | cons worker rest inductionHypothesis =>
      have balanced := (sound worker List.mem_cons_self).balanced tier
      rw [empty worker List.mem_cons_self, List.countP_nil, Nat.add_zero] at balanced
      have others :=
        inductionHypothesis (fun other member => sound other (List.mem_cons_of_mem _ member))
          (fun other member => empty other (List.mem_cons_of_mem _ member))
      rw [total, List.foldr_cons]
      exact congrArg₂ (· + ·) balanced others

/-- Every allocation that was asked for is an operation. -/
theorem total_le
    {plan : Plan}
    {scope : ModeScope}
    {workers : List Worker}
    (sound : ∀ worker ∈ workers, worker.Sound plan scope)
    (tier : Tier) :
    (total workers tier).allocations ≤ workers.length * plan.opsPerThread ∧
      (total workers tier).outOfMemory ≤ workers.length * plan.opsPerThread := by
  induction workers with
  | nil =>
      exact ⟨Nat.zero_le _, Nat.zero_le _⟩
  | cons worker rest inductionHypothesis =>
      have budget := (sound worker List.mem_cons_self).budget
      have others :=
        inductionHypothesis fun other member => sound other (List.mem_cons_of_mem _ member)
      rw [total] at others
      rw [total, List.foldr_cons, List.length_cons, Nat.succ_mul]
      cases tier <;>
        simp only [TierTally.add, PerTier.get, Worker.asked] at budget others ⊢ <;>
        omega

/-- Where no worker gave up and the engine verifies, the tallies are added up. -/
theorem summarize_eq_ok
    {plan : Plan}
    {session : Session β}
    {workers : List Worker}
    (served : workers.findSome? Worker.failed = none)
    (verified : session.engine.verify = .ok ())
    {thread elapsedMs : Nat} :
    summarize plan session workers thread elapsedMs =
      .ok
        { plan := plan
          scope := session.engine.config.scope
          elapsedMs := elapsedMs
          tiers := (tallied workers).tiers
          tierMismatches := (tallied workers).tierMismatches
          unknownFrees := (tallied workers).unknownFrees
          sumOfWorkerPeaks := (tallied workers).peakLive
          engine := session.engine.stats (session.active thread) } := by
  rw [summarize, served]
  dsimp only
  rw [verified]
  rfl

/-- No free went wrong and nothing is left; on each tier as much was freed as allocated, the
counters of the engine show what the workers tell, and the peaks are within their bounds. -/
structure Summary.Correct
    (plan : Plan)
    (summary : Summary) : Prop where
  clean : summary.isClean = true
  balanced : ∀ tier,
    (summary.tiers.get tier).allocations = (summary.tiers.get tier).frees
  counted : ∀ tier,
    (summary.engine.metrics.tiers.get tier).Shows (summary.tiers.get tier)
  /-- If there are no more operations than words, they are the same numbers. -/
  sameNumbers : max plan.threads 1 * plan.opsPerThread < Word.bound → ∀ tier,
    (summary.engine.metrics.tiers.get tier).allocations =
        (summary.tiers.get tier).allocations ∧
      (summary.engine.metrics.tiers.get tier).frees = (summary.tiers.get tier).frees ∧
        (summary.engine.metrics.tiers.get tier).outOfMemory =
          (summary.tiers.get tier).outOfMemory
  peaks : summary.sumOfWorkerPeaks ≤ max plan.threads 1 * max plan.maxLivePerThread 1

namespace State

variable {plan : Plan}

/-- Workers that have finished hold nothing. -/
theorem Kept.nothing_held
    {state : State (Recorder β)}
    (kept : state.Kept plan)
    (finished : state.Finished plan) :
    ∀ worker ∈ state.workers, worker.live = [] := fun worker member =>
  (Worker.finished_of_next? (finished worker member) (kept.sound worker member).served).2.2

/-- The table has just what workers hold, in the end nothing. -/
theorem Kept.blocks_eq_nil
    {state : State (Recorder β)}
    (kept : state.Kept plan)
    (finished : state.Finished plan) :
    state.session.engine.table.blocks = [] := by
  have owned := kept.books.owned
  rw [List.flatMap_eq_nil_iff.mpr (kept.nothing_held finished)] at owned
  exact List.map_eq_nil_iff.mp owned.eq_nil

/-- No worker has given up and the engine verifies, so the workers are summed up. -/
theorem Kept.summarize_eq
    {state : State (Recorder β)}
    (kept : state.Kept plan)
    (abiding : Dealing.Abiding state.session.dealings)
    (thread elapsedMs : Nat) :
    summarize plan state.session state.workers thread elapsedMs =
      .ok
        { plan := plan
          scope := state.session.engine.config.scope
          elapsedMs := elapsedMs
          tiers := (tallied state.workers).tiers
          tierMismatches := (tallied state.workers).tierMismatches
          unknownFrees := (tallied state.workers).unknownFrees
          sumOfWorkerPeaks := (tallied state.workers).peakLive
          engine := state.session.engine.stats (state.session.active thread) } :=
  summarize_eq_ok
    (List.findSome?_eq_none_iff.mpr fun worker member => (kept.sound worker member).served)
    (kept.books.accounted.verify_eq_ok abiding)

/-- Finished workers are summed up, and the summary is correct. -/
theorem Kept.summarized
    {state : State (Recorder β)}
    (kept : state.Kept plan)
    (crowd : state.workers.length = max plan.threads 1)
    (finished : state.Finished plan)
    (abiding : Dealing.Abiding state.session.dealings)
    (thread elapsedMs : Nat) :
    ∃ summary, summarize plan state.session state.workers thread elapsedMs = .ok summary ∧
      summary.Correct plan := by
  have nothing : state.session.engine.liveBlocks = 0 := by
    rw [Engine.liveBlocks, BlockTable.size_eq_length, kept.blocks_eq_nil finished,
      List.length_nil]
  obtain ⟨mismatches, unknown, peak⟩ := errors_foldl kept.sound Tally.zero
  rw [← tallied] at mismatches unknown peak
  have tiers := tiers_tallied state.workers
  have balanced := total_balanced kept.sound (kept.nothing_held finished)
  refine ⟨_, kept.summarize_eq abiding thread elapsedMs, ?_, fun tier => ?_, fun tier => ?_,
    fun few tier => ?_, ?_⟩
  · simp only [Summary.isClean, mismatches, unknown, Engine.stats, nothing]
    rfl
  · rw [tiers]
    exact balanced tier
  · rw [tiers]
    exact kept.books.counted tier
  · -- Each count is at most the number of operations, so it has not wrapped.
    obtain ⟨allocations, outOfMemory⟩ := total_le kept.sound tier
    obtain ⟨sameAllocations, sameFrees, sameOutOfMemory⟩ := kept.books.counted tier
    rw [crowd] at allocations outOfMemory
    simp only [tiers, Engine.stats, sameAllocations, sameFrees, sameOutOfMemory, Word.wrap,
      ← balanced tier]
    refine ⟨Nat.mod_eq_of_lt ?_, Nat.mod_eq_of_lt ?_, Nat.mod_eq_of_lt ?_⟩ <;> omega
  · have none : Tally.zero.peakLive = 0 := rfl
    rw [crowd, Plan.liveBound, none, Nat.zero_add] at peak
    exact peak

/-! ## One worker after the other -/

variable [Backend β]

/-- A worker that runs alone has its turns in a row. -/
theorem runWorker_eq
    (plan : Plan)
    (finished rest : List Worker)
    (fuel : Nat)
    (session : Session β)
    (worker : Worker) :
    runSchedule plan ⟨session, finished ++ worker :: rest⟩
        (List.replicate fuel finished.length) =
      ⟨(runWorker plan (threadOf finished.length) fuel session worker).1,
       finished ++ (runWorker plan (threadOf finished.length) fuel session worker).2 :: rest⟩ := by
  induction fuel generalizing session worker with
  | zero =>
      rfl
  | succ fuel inductionHypothesis =>
      have found : (finished ++ worker :: rest)[finished.length]? = some worker := by simp
      rw [List.replicate_succ, runSchedule, List.foldl_cons]
      rcases advance_cases plan ⟨session, finished ++ worker :: rest⟩ finished.length with
        ⟨same, idle⟩ | ⟨moved, call, receive, isMoved, next, made⟩
      · -- The worker has finished, and its other turns pass without a call.
        have nothing := idle worker found
        have stays (fuel : Nat) :
            runWorker plan (threadOf finished.length) fuel session worker = (session, worker) := by
          cases fuel with
          | zero =>
              rfl
          | succ fuel =>
              rw [runWorker, nothing]
        have remains := inductionHypothesis session worker
        rw [stays] at remains
        rw [same, stays]
        exact remains
      · rw [found] at isMoved
        cases isMoved
        have placed (after : Worker) :
            (finished ++ worker :: rest).set finished.length after =
              finished ++ after :: rest := by simp
        rw [made, placed, runWorker, next]
        exact inductionHypothesis _ _

/-- The schedule of a churn that runs one worker after the other. -/
def inTurn (plan : Plan) : List Nat :=
  (List.range (max plan.threads 1)).flatMap fun index => List.replicate (callLimit plan) index

/-- The first workers have finished one after the other, and the rest have not started. -/
theorem inTurn_prefix
    (plan : Plan)
    (session : Session β)
    {count : Nat}
    (few : count ≤ max plan.threads 1) :
    ∃ after finished, finished.length = count ∧
      (List.range count).foldl
          (fun (session, finished) index =>
            let (session, worker) :=
              runWorker plan (threadOf index) (callLimit plan) session (.start plan index)
            (session, finished ++ [worker]))
          (session, []) =
        (after, finished) ∧
      (start session plan).runSchedule plan
          ((List.range count).flatMap fun index => List.replicate (callLimit plan) index) =
        ⟨after,
         finished ++ ((List.range (max plan.threads 1)).drop count).map (Worker.start plan)⟩ := by
  induction count with
  | zero =>
      exact ⟨session, [], rfl, rfl, rfl⟩
  | succ count inductionHypothesis =>
      obtain ⟨after, finished, length, folded, scheduled⟩ := inductionHypothesis (by omega)
      have inside : count < (List.range (max plan.threads 1)).length := by
        rw [List.length_range]
        exact few
      have next : (List.range (max plan.threads 1)).drop count =
          count :: (List.range (max plan.threads 1)).drop (count + 1) := by
        rw [List.drop_eq_getElem_cons inside, List.getElem_range]
      rw [next, List.map_cons] at scheduled
      have turn := runWorker_eq plan finished
        (((List.range (max plan.threads 1)).drop (count + 1)).map (Worker.start plan))
        (callLimit plan) after (.start plan count)
      rw [length] at turn
      refine ⟨(runWorker plan (threadOf count) (callLimit plan) after (.start plan count)).1,
        finished ++
          [(runWorker plan (threadOf count) (callLimit plan) after (.start plan count)).2],
        ?_, ?_, ?_⟩
      · rw [List.length_append, length, List.length_singleton]
      · rw [List.range_succ, List.foldl_append, folded]
        rfl
      · rw [List.range_succ, List.flatMap_append, runSchedule, List.foldl_append]
        rw [runSchedule] at scheduled turn
        rw [scheduled, List.flatMap_singleton, turn, List.append_assoc]
        rfl

/-- Running one worker after the other is a schedule. -/
theorem runAll_eq
    (plan : Plan)
    (session : Session β) :
    (start session plan).runSchedule plan (inTurn plan) =
      ⟨(runAll plan session).1, (runAll plan session).2⟩ := by
  obtain ⟨after, finished, -, folded, scheduled⟩ :=
    inTurn_prefix plan session (Nat.le_refl _)
  rw [inTurn, scheduled, runAll, folded]
  simp

theorem count_inTurn
    (plan : Plan)
    {index : Nat}
    (inside : index < max plan.threads 1) :
    callLimit plan ≤ (inTurn plan).count index := by
  have own : (List.replicate (callLimit plan) index).Sublist (inTurn plan) := by
    rw [inTurn, List.flatMap_def]
    exact List.sublist_flatten_of_mem
      (List.mem_map_of_mem (List.mem_range.mpr inside))
  have counted := own.count_le index
  rwa [List.count_replicate_self] at counted

/-- Over backends that owe their dealings, no worker of a churn gives up, whatever the
schedule; once each has had its turns all have finished, and then the summary is correct.  So
a churn whose lists are reserved succeeds, whatever else the system has room for. -/
theorem cleans_up
    {session : Session (Recorder β)}
    (built : session.Built)
    (plan : Plan) :
    (∀ schedule, (start session plan).Abides plan schedule →
        (∀ worker ∈ ((start session plan).runSchedule plan schedule).workers,
            worker.failed = none) ∧
          ((∀ index < max plan.threads 1, callLimit plan ≤ schedule.count index) →
            ((start session plan).runSchedule plan schedule).Finished plan) ∧
          (((start session plan).runSchedule plan schedule).Finished plan →
            ∀ thread elapsedMs, ∃ summary,
              summarize plan ((start session plan).runSchedule plan schedule).session
                  ((start session plan).runSchedule plan schedule).workers thread elapsedMs =
                .ok summary ∧
              summary.Correct plan)) ∧
      (∀ room, plan.reservationFailure? room = none →
        (start session plan).Abides plan (inTurn plan) → ∀ thread elapsedMs, ∃ summary,
          (runWithin room plan session thread elapsedMs).1 = .ok summary ∧
            summary.Correct plan) := by
  have anySchedule {schedule : List Nat} (abides : (start session plan).Abides plan schedule)
      (finished : ((start session plan).runSchedule plan schedule).Finished plan)
      (thread elapsedMs : Nat) :=
    ((kept_start built plan).run abides).summarized
      (by rw [length_run, start, List.length_map, List.length_range])
      finished (abides schedule (List.prefix_refl schedule)) thread elapsedMs
  refine ⟨fun schedule abides => ⟨?_, finished_of_turns plan session, anySchedule abides⟩, ?_⟩
  · exact fun worker member =>
      (((kept_start built plan).run abides).sound worker member).served
  · intro room reserved abides thread elapsedMs
    have finished := finished_of_turns plan session fun index => count_inTurn plan
    obtain ⟨summary, summed, correct⟩ := anySchedule abides finished thread elapsedMs
    rw [runAll_eq] at summed
    refine ⟨summary, ?_, correct⟩
    rw [runWithin, reserved]
    exact congrArg (Except.mapError Ending.failed) summed

def crowded : Plan :=
  ⟨2, 3, 16000, 50, 2, 7⟩

/-- Between a selection of one worker and its allocation, the other one has turns. -/
def mixedTurns : List Nat :=
  [0, 1, 1, 0, 1, 0, 0, 1, 0, 1, 1, 0, 0, 1, 0, 1, 0, 1]

/-- The workers select their tiers in the register of small and partly refusing tiers. -/
def contested : Session (Recorder SimulatedBackend) :=
  .opening { Config.standard with segmentSize := 4096, scope := .thread } .initial
    (Session.stingyBackends.map Recorder.start)

theorem cleans_up_mixedTurns :
    (∃ summary,
        summarize crowded ((start contested crowded).runSchedule crowded mixedTurns).session
            ((start contested crowded).runSchedule crowded mixedTurns).workers 0 12 =
          .ok summary ∧
        summary.Correct crowded) ∧
      ∃ summary,
        (Churn.run crowded contested 0 12).1 = .ok summary ∧ summary.Correct crowded := by
  have built : contested.Built := .withBackends _ .initial Session.stingyBackends
  have abides : (start contested crowded).Abides crowded mixedTurns := by
    simp only [Abides, ← List.mem_inits]
    decide +kernel
  have abidesInTurn : (start contested crowded).Abides crowded (inTurn crowded) := by
    simp only [Abides, ← List.mem_inits]
    decide +kernel
  have turns : ∀ index < max crowded.threads 1, callLimit crowded ≤ mixedTurns.count index := by
    decide
  obtain ⟨anySchedule, inTurns⟩ := cleans_up built crowded
  obtain ⟨-, finish, summed⟩ := anySchedule mixedTurns abides
  exact ⟨summed (finish turns) 0 12,
    inTurns SystemBackend.hasRoom (by decide) abidesInTurn 0 12⟩

end State

end TierHeap.Churn
