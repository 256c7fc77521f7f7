import TierHeap.Proofs.Engine.Lending
import TierHeap.Proofs.Interleaving.Safety

/-!
# Segments lent while calls interleave

A step of one thread is a step of both tenancies, whatever the other threads have in their
hands: the outstanding ranges are those of the blocks in the table and in flight.  So segments
are lent and returned in the same way by an allocator alone, by an engine whose calls are made
one at a time, and by threads that share an engine (`lending_runs`).
-/

namespace TierHeap

variable {β : Type} [Backend β]

namespace Interleaving

variable {session : Session (Recorder β)} {tier : Tier}

theorem advances_trimTier
    (engine : Engine (Recorder β))
    (trimmed tier : Tier)
    (ranges : List Span) :
    Tenancy.Advances ⟨engine.tiers.get tier, ranges⟩
      ⟨(engine.trimTier trimmed).2.tiers.get tier, ranges⟩ := by
  obtain ⟨log, same⟩ := engine.trimTier_eq trimmed
  rw [same]
  exact Tenancy.advances_set (.trimmed Engine.depth rfl rfl) tier

theorem advances_carve
    (symbol : String)
    (wanted : Tier)
    (size reserved align : Nat)
    (before after : List Span) :
    Tenancy.Advances ⟨session.engine.tiers.get tier, before⟩
      ⟨(carve session symbol wanted size reserved align).1.engine.tiers.get tier, after⟩ := by
  unfold carve
  split
  · rename_i cause engine carved
    obtain ⟨allocator, allocated, rfl⟩ := Engine.carve_cases carved
    exact Tenancy.advances_set (Tenancy.advances_allocate allocated _ _) tier
  · rename_i found engine carved
    obtain ⟨allocator, allocated, rfl⟩ := Engine.carve_cases carved
    exact Tenancy.advances_set (Tenancy.advances_allocate allocated _ _) tier

omit [Backend β] in
theorem tiers_withdraw
    (session : Session β)
    (addr : Nat) :
    (withdraw session addr).1.engine.tiers = session.engine.tiers := by
  simp only [withdraw, Engine.withdraw, BlockTable.remove]
  cases session.engine.table.get? addr <;> rfl

theorem advances_resize
    (addr newSize : Nat)
    (before after : List Span) :
    Tenancy.Advances ⟨session.engine.tiers.get tier, before⟩
      ⟨(resize session addr newSize).1.engine.tiers.get tier, after⟩ := by
  unfold resize
  split
  · exact Tenancy.advances_of_same_dealings rfl
  · split
    · exact Tenancy.advances_of_same_dealings rfl
    · split
      · exact Tenancy.advances_of_same_dealings rfl
      · rename_i engine resized
        obtain ⟨allocator, resizedTier, rfl⟩ := Option.map_eq_some_iff.mp resized
        exact Tenancy.advances_set (Tenancy.advances_resize? resizedTier _ _) tier

theorem advances_start
    (number : Nat)
    (call : Call)
    (before after : List Span) :
    Tenancy.Advances ⟨session.engine.tiers.get tier, before⟩
      ⟨(start session number call).1.engine.tiers.get tier, after⟩ := by
  cases call with
  | enable =>
      have asked : Call.task? (session.active number) .enable = none := rfl
      obtain ⟨log, same⟩ := Session.call_of_no_task asked
      simp only [start, same]
      exact Tenancy.advances_of_same_dealings rfl
  | setMode wanted =>
      have asked : Call.task? (session.active number) (.setMode wanted) = none := rfl
      obtain ⟨log, same⟩ := Session.call_of_no_task asked
      simp only [start, same]
      exact Tenancy.advances_of_same_dealings rfl
  | free addr =>
      simp only [start, tiers_withdraw]
      exact Tenancy.advances_of_same_dealings rfl
  | resize addr newSize =>
      exact advances_resize addr newSize _ _
  | _ =>
      exact Tenancy.advances_of_same_dealings rfl

/-- Only a trimming thread asks for segments back, and it changes no range meanwhile. -/
theorem advances_turn
    (thread : Thread)
    (session : Session (Recorder β))
    (number : Nat)
    (tier : Tier)
    (history : List Event) :
    Tenancy.Advances ⟨session.engine.tiers.get tier, (outstanding history).map Prod.snd⟩
      ⟨(thread.turn session number).1.engine.tiers.get tier,
        (outstanding ((thread.turn session number).2.2 ++ history)).map Prod.snd⟩ := by
  obtain ⟨phase, program, replies⟩ := thread
  cases phase with
  | idle =>
      cases program with
      | nil =>
          exact Tenancy.advances_of_same_dealings rfl
      | cons call rest =>
          exact advances_start number call _ _
  | routed symbol wanted size reserved align =>
      exact advances_carve symbol wanted size reserved align _ _
  | carved symbol block grew =>
      exact Tenancy.advances_of_same_dealings rfl
  | removed block =>
      exact Tenancy.advances_set (Tenancy.advances_free _ _ _ _ _) tier
  | trimmingHost =>
      exact advances_trimTier session.engine .host tier _
  | trimmingCxl hostBytes =>
      exact advances_trimTier session.engine .cxl tier _
  | concluding aftermath =>
      simp only [Thread.turn, Session.withEngine, Kept.tiers_conclude]
      exact Tenancy.advances_of_same_dealings rfl

namespace Machine

omit [Backend β] in
/-- The allocator of one tier, with all outstanding ranges. -/
def tenancy
    (tier : Tier)
    (machine : Machine β) : Tenancy β :=
  ⟨machine.session.engine.tiers.get tier, (outstanding machine.history).map Prod.snd⟩

theorem advances_step
    (machine : Machine (Recorder β))
    (number : Nat)
    (tier : Tier) :
    Tenancy.Advances (machine.tenancy tier) ((machine.step number).tenancy tier) := by
  cases found : machine.threads[number]? with
  | none =>
      rw [step_of_none found]
      exact Tenancy.advances_of_same_dealings rfl
  | some thread =>
      rw [step_of_some found]
      exact advances_turn thread machine.session number tier machine.history

/-- The segments of both tiers of an engine that threads share. -/
theorem lending_steps
    (config : Config)
    (bank : RegisterBank)
    (backends : PerTier β)
    (programs : List (List Call))
    (tier : Tier)
    {schedule : List Nat}
    (abiding : ∀ before, before <+: schedule →
      Dealing.Abiding
        ((opening (Session.opening config bank (backends.map Recorder.start)) programs).run
          before).dealings) :
    Tenancy.Lending
      (fun before =>
        ((opening (Session.opening config bank (backends.map Recorder.start)) programs).run
          before).tenancy tier)
      schedule
      (((opening (Session.opening config bank (backends.map Recorder.start)) programs).run
        schedule).session.closed.get tier) := by
  rw [Session.closed, Engine.close, PerTier.get_ofFn]
  refine Tenancy.lending_of_advances ?_ ?_ ?_ Engine.outside
  · cases tier <;> rfl
  · intro before isPrefix
    have accounted :=
      accounted_run (accounted_opening config bank backends programs)
        fun earlier isEarlier => abiding earlier (isEarlier.trans isPrefix)
    apply accounted.kept.accounted.sound (abiding before isPrefix) tier
    have owned := accounted.kept.owned.map Prod.snd
    rw [List.map_map] at owned
    exact owned
  · intro before step _
    rw [run_snoc]
    exact advances_step _ step tier

end Machine

end Interleaving

open Interleaving in
/-- Over backends that owe their dealings and may refuse any of them, segments are lent and
returned properly up to the end, when allocators are closed: by an allocator that serves its
callers, by an engine whose calls are made one at a time, and by threads that share an
engine. -/
theorem lending_runs :
    (∀ (tier : Tier) (backend : β) (capacity : Option Nat) (segmentSize depth closingDepth : Nat)
      (requests : List Request),
      (Tenancy.start tier (Recorder.start backend) capacity segmentSize).Allows depth requests →
      Dealing.Honest
        ((Tenancy.start tier (Recorder.start backend) capacity segmentSize).run depth
          requests).dealings →
      Tenancy.Lending
        (fun before =>
          (Tenancy.start tier (Recorder.start backend) capacity segmentSize).run depth before)
        requests
        (((Tenancy.start tier (Recorder.start backend) capacity segmentSize).run depth
          requests).allocator.close closingDepth)) ∧
    (∀ (config : Config) (bank : RegisterBank) (backends : PerTier β) (calls : List (Nat × Call)),
      (∀ before, before <+: calls →
        Dealing.Abiding
          ((Session.opening config bank (backends.map Recorder.start)).run before).dealings) →
      ∀ tier,
        Tenancy.Lending
          (fun before =>
            ((Session.opening config bank (backends.map Recorder.start)).run before).tenancy tier)
          calls
          (((Session.opening config bank (backends.map Recorder.start)).run
            calls).closed.get tier)) ∧
    ∀ (config : Config) (bank : RegisterBank) (backends : PerTier β)
      (programs : List (List Call)) (schedule : List Nat),
      (∀ before, before <+: schedule →
        Dealing.Abiding
          ((Machine.opening (Session.opening config bank (backends.map Recorder.start))
            programs).run before).dealings) →
      ∀ tier,
        Tenancy.Lending
          (fun before =>
            ((Machine.opening (Session.opening config bank (backends.map Recorder.start))
              programs).run before).tenancy tier)
          schedule
          (((Machine.opening (Session.opening config bank (backends.map Recorder.start))
            programs).run schedule).session.closed.get tier) := by
  refine ⟨?_, ?_, ?_⟩
  · intro tier backend capacity segmentSize depth closingDepth requests allowed honest
    exact Tenancy.lending_requests tier backend capacity segmentSize depth closingDepth allowed
      honest
  · intro config bank backends calls abiding tier
    exact Session.lending_calls config bank backends tier abiding
  · intro config bank backends programs schedule abiding tier
    exact Machine.lending_steps config bank backends programs tier abiding

/-- Two segments become idle; the first trim cannot return the second one, the next one can. -/
def retriedRequests : List Request :=
  [.allocate 4096 16, .allocate 4096 16, .free ⟨65536, 4096⟩, .free ⟨69632, 4096⟩, .trim, .trim]

def retriedPrograms : List (List Call) :=
  [[.allocateOn .host 4096, .free 69632, .trim], [.allocateOn .host 4096, .free 65536, .trim]]

def retriedSchedule : List Nat :=
  [0, 1, 0, 1, 0, 1, 0, 1, 0, 1, 0, 1, 0, 1, 0, 1, 0, 1, 0, 1, 0, 1]

def retriedCalls : List (Nat × Call) :=
  [(0, .allocateOn .host 4096), (1, .allocateOn .host 4096), (0, .free 69632), (1, .free 65536),
    (0, .trim), (1, .trim)]

open Interleaving in
theorem lending_runs_retried :
    ((Tenancy.start .host (Recorder.start (SimulatedBackend.upwards 65536 0 [0])) none 4096).run 1
        (retriedRequests.take 5)).allocator.Retains ⟨69632, 4096⟩ ∧
      Dealing.Due
        (((Session.opening { Config.standard with segmentSize := 4096 } .initial
          (Session.distantBackends.map Recorder.start)).run retriedCalls).closed.get
            .host).dealings ∧
      Dealing.Due
        (((Machine.opening
          (Session.opening { Config.standard with segmentSize := 4096 } .initial
            (Session.distantBackends.map Recorder.start))
          retriedPrograms).run retriedSchedule).session.closed.get .host).dealings := by
  obtain ⟨ofRequests, ofCalls, ofSteps⟩ := lending_runs (β := SimulatedBackend)
  refine ⟨?_, ?_, ?_⟩
  · have lending :=
      ofRequests .host (SimulatedBackend.upwards 65536 0 [0]) none 4096 1 0 retriedRequests
        (by decide +kernel) (by decide +kernel)
    obtain ⟨recent, dealings, spared⟩ :=
      lending.spared (retriedRequests.take 4) .trim (by decide)
    have refused : Dealing.release ⟨69632, 4096⟩ false ∈ recent := by
      have asked :
          ((Tenancy.start .host (Recorder.start (SimulatedBackend.upwards 65536 0 [0])) none
              4096).run 1 (retriedRequests.take 4 ++ [.trim])).dealings =
            [.release ⟨69632, 4096⟩ false] ++
              ((Tenancy.start .host (Recorder.start (SimulatedBackend.upwards 65536 0 [0])) none
                4096).run 1 (retriedRequests.take 4)).dealings := by decide +kernel
      rw [List.append_cancel_right (dealings.symm.trans asked)]
      exact List.mem_singleton.mpr rfl
    exact (spared _ _ refused).2 rfl
  · have abiding : ∀ before, before <+: retriedCalls →
        Dealing.Abiding
          ((Session.opening { Config.standard with segmentSize := 4096 } .initial
            (Session.distantBackends.map Recorder.start)).run before).dealings := by
      simp only [← List.mem_inits]
      decide +kernel
    exact (ofCalls _ _ _ _ abiding .host).due
  · have abiding : ∀ before, before <+: retriedSchedule →
        Dealing.Abiding
          ((Machine.opening
            (Session.opening { Config.standard with segmentSize := 4096 } .initial
              (Session.distantBackends.map Recorder.start))
            retriedPrograms).run before).dealings := by
      simp only [← List.mem_inits]
      decide +kernel
    exact (ofSteps _ _ _ _ _ abiding .host).due

end TierHeap
