import TierHeap.Proofs.Log.Retention
import TierHeap.Proofs.Log.Traces
import TierHeap.Word

/-!
# Runs of a log

Calls on a log are carried out one after the other.  Which records are accepted, with which
numbers, and which of them came after the last drain is told by the calls and the threshold alone
(`LogCall.accepted`, `LogCall.recent`), and so is every reply (`LogCall.answer`).  A log does
what its calls ask for (`Log.Lifecycle.obeys_run`): nothing is refused or dropped but what the
threshold and the capacity demand.
-/

namespace TierHeap

open Log

inductive LogCall where
  | record (level : Level) (event : Event) (liveBlocks outstandingBytes : Nat)
  | snapshot
  | drain
  deriving DecidableEq, Repr

inductive LogReply where
  /-- The number of the record, or `none` if it is refused. -/
  | number (id : Option Nat)
  | shown (records : List Record)
  | drained (records : List Record)
  deriving DecidableEq, Repr

def LogReply.removed : LogReply → List Record
  | .drained records => records
  | _ => []

def Log.Level.passes
    (threshold : Option Level)
    (level : Level) : Bool :=
  threshold.any fun least => least.rank ≤ level.rank

namespace LogCall

/-- The record that a call asks for, up to its number, if its level passes the threshold. -/
def draft?
    (threshold : Option Level) : LogCall → Option (Nat → Record)
  | .record level event liveBlocks outstandingBytes =>
      if level.passes threshold then
        some fun number => ⟨number, level, event, liveBlocks, outstandingBytes⟩
      else
        none
  | _ => none

/-- The records that are accepted, numbered from one on. -/
def accepted
    (threshold : Option Level)
    (calls : List LogCall) : List Record :=
  (calls.filterMap (draft? threshold)).mapIdx fun index draft => draft (index + 1)

/-- The records that are accepted after the last drain. -/
def recent
    (threshold : Option Level)
    (calls : List LogCall) : List Record :=
  (accepted threshold calls).rtake
    (accepted threshold (calls.rtakeWhile fun call => call ≠ .drain)).length

/-- The last of the recent records, as many as there is room for.  A capacity of zero counts as
one. -/
def held
    (threshold : Option Level)
    (capacity : Nat)
    (calls : List LogCall) : List Record :=
  (recent threshold calls).rtake (min (max capacity 1) (recent threshold calls).length)

def answer
    (threshold : Option Level)
    (capacity : Nat)
    (before : List LogCall) : LogCall → LogReply
  | .record level _ _ _ =>
      .number
        (if level.passes threshold then some ((accepted threshold before).length + 1) else none)
  | .snapshot => .shown (held threshold capacity before)
  | .drain => .drained (held threshold capacity before)

variable (threshold : Option Level) (capacity : Nat) (calls : List LogCall)

theorem accepted_snoc (call : LogCall) :
    accepted threshold (calls ++ [call]) =
      accepted threshold calls ++
        ((call.draft? threshold).map fun draft =>
          draft ((accepted threshold calls).length + 1)).toList := by
  rw [accepted, List.filterMap_append, accepted]
  cases drafted : call.draft? threshold <;> simp [drafted]

theorem recent_snoc_drain : recent threshold (calls ++ [.drain]) = [] := by
  rw [recent, List.rtakeWhile_concat_neg _ _ _ (by simp)]
  exact List.rtake_zero _

theorem recent_snoc
    {call : LogCall}
    (keeps : call ≠ .drain) :
    recent threshold (calls ++ [call]) =
      recent threshold calls ++
        ((call.draft? threshold).map fun draft =>
          draft ((accepted threshold calls).length + 1)).toList := by
  rw [recent, List.rtakeWhile_concat_pos _ _ _ (by simpa using keeps), accepted_snoc,
    accepted_snoc, recent]
  cases call.draft? threshold with
  | none =>
      simp
  | some draft =>
      simp only [Option.map_some, Option.toList_some, List.length_append, List.length_singleton,
        List.rtake_concat_succ]

/-- The numbers of the accepted records are consecutive. -/
theorem numbers_accepted :
    (accepted threshold calls).map Record.decisionId =
      List.range' 1 (accepted threshold calls).length := by
  induction calls using List.reverseRecOn with
  | nil =>
      rfl
  | append_singleton calls call inductionHypothesis =>
      rw [accepted_snoc]
      cases call with
      | record level event liveBlocks outstandingBytes =>
          by_cases passes : level.passes threshold = true
          · simp [draft?, passes, inductionHypothesis, List.range'_1_concat, Nat.add_comm 1]
          · simp [draft?, passes, inductionHypothesis]
      | snapshot =>
          simpa [draft?] using inductionHypothesis
      | drain =>
          simpa [draft?] using inductionHypothesis

theorem rtake_min_length
    {α : Type}
    (items : List α)
    (count : Nat) :
    items.rtake (min count items.length) = items.rtake count := by
  simp only [List.rtake]
  congr 1
  omega

end LogCall

namespace Log.Lifecycle

def call
    (log : Lifecycle) : LogCall → LogReply × Lifecycle
  | .record level event liveBlocks outstandingBytes =>
      let (id, log) := log.record level event liveBlocks outstandingBytes
      (.number id, log)
  | .snapshot => (.shown log.snapshot, log)
  | .drain =>
      let (records, log) := log.drain
      (.drained records, log)

def run
    (log : Lifecycle)
    (calls : List LogCall) : Lifecycle :=
  calls.foldl (fun log call => (log.call call).2) log

def replies
    (log : Lifecycle) : List LogCall → List LogReply
  | [] => []
  | call :: rest => (log.call call).1 :: (log.call call).2.replies rest

def drained
    (log : Lifecycle)
    (calls : List LogCall) : List Record :=
  (log.replies calls).flatMap LogReply.removed

/-- A log does what its calls ask for. -/
structure Obeys
    (threshold : Option Level)
    (capacity : Nat)
    (calls : List LogCall) : Prop where
  /-- Every reply is the one that the calls before it ask for. -/
  replies : ∀ before call, before ++ [call] <+: calls →
    ((new threshold capacity).replies calls)[before.length]? =
      some (LogCall.answer threshold capacity before call)
  /-- The accepted records have the numbers 1, 2, 3 and so on. -/
  numbers : (LogCall.accepted threshold calls).map Record.decisionId =
    List.range' 1 (LogCall.accepted threshold calls).length
  /-- A record that does not pass changes nothing, so that no number is used up. -/
  refused : ∀ level event liveBlocks outstandingBytes, level.passes threshold = false →
    ((new threshold capacity).run calls).record level event liveBlocks outstandingBytes =
      (none, (new threshold capacity).run calls)
  /-- The buffer holds the last of the records that were accepted since the last drain. -/
  buffered : ((new threshold capacity).run calls).snapshot =
    LogCall.held threshold capacity calls
  /-- Every accepted record was drained, is in the buffer or is counted as dropped. -/
  total : ((new threshold capacity).drained calls).length +
      ((new threshold capacity).run calls).snapshot.length +
      ((new threshold capacity).run calls).dropped =
    (LogCall.accepted threshold calls).length
  /-- A trace tells entry point and number. -/
  traces : ∀ first second : Record, first.traceId = second.traceId ↔
    first.event.symbol = second.event.symbol ∧ first.decisionId = second.decisionId
  /-- As long as the accepted records can be counted in a word, their numbers are words, and
  traces end in sixteen digits. -/
  words : (LogCall.accepted threshold calls).length < Word.bound →
    ∀ record ∈ LogCall.accepted threshold calls,
      record.decisionId < Word.bound ∧
        (Text.hexPadded 16 record.decisionId).toList.length = 16

/-! ## One call -/

theorem enabled_eq_passes
    (log : Lifecycle)
    (level : Level) :
    log.enabled level = level.passes log.threshold := by
  rw [enabled, Level.passes]
  cases log.threshold <;> rfl

/-- What a log has come to by calls, told by the calls. -/
structure Follows
    (log : Lifecycle)
    (threshold : Option Level)
    (capacity : Nat)
    (calls : List LogCall) : Prop where
  threshold_eq : log.threshold = threshold
  capacity_eq : log.capacity = max capacity 1
  nextId_eq : log.nextId = (LogCall.accepted threshold calls).length + 1
  retains : log.Retains (LogCall.recent threshold calls)

variable {log : Lifecycle} {threshold : Option Level} {capacity : Nat} {calls : List LogCall}

theorem follows_new
    (threshold : Option Level)
    (capacity : Nat) :
    (new threshold capacity).Follows threshold capacity [] :=
  ⟨rfl, rfl, rfl, retains_new threshold capacity⟩

/-- A full buffer loses one record for the new one, and the loss is counted. -/
theorem length_append
    (room : 0 < log.capacity)
    (record : Record) :
    (log.append record).snapshot.length + (log.append record).dropped =
      log.snapshot.length + log.dropped + 1 := by
  rw [append]
  split
  · rename_i full
    rw [Fifo.size_eq_length] at full
    simp only [snapshot, Fifo.toList_push, Fifo.toList_dropOldest, List.length_append,
      List.length_drop, List.length_singleton]
    omega
  · simp only [snapshot, Fifo.toList_push, List.length_append, List.length_singleton]
    omega

namespace Follows

theorem snapshot_eq (follows : log.Follows threshold capacity calls) :
    log.snapshot = LogCall.held threshold capacity calls := by
  rw [follows.retains.snapshot, follows.capacity_eq, LogCall.held, LogCall.rtake_min_length]

theorem record_of_not_passes
    (follows : log.Follows threshold capacity calls)
    {level : Level}
    (fails : level.passes threshold = false)
    (event : Event)
    (liveBlocks outstandingBytes : Nat) :
    log.record level event liveBlocks outstandingBytes = (none, log) := by
  rw [record, enabled_eq_passes, follows.threshold_eq, fails]
  rfl

theorem record_of_passes
    (follows : log.Follows threshold capacity calls)
    {level : Level}
    (passes : level.passes threshold = true)
    (event : Event)
    (liveBlocks outstandingBytes : Nat) :
    log.record level event liveBlocks outstandingBytes =
      (some log.nextId,
        { log with nextId := log.nextId + 1 }.append
          ⟨log.nextId, level, event, liveBlocks, outstandingBytes⟩) := by
  rw [← follows.threshold_eq, ← enabled_eq_passes] at passes
  rw [record, if_pos passes]

theorem reply_eq
    (follows : log.Follows threshold capacity calls)
    (call : LogCall) :
    (log.call call).1 = LogCall.answer threshold capacity calls call := by
  cases call with
  | record level event liveBlocks outstandingBytes =>
      simp only [Lifecycle.call, LogCall.answer]
      split
      · rename_i passes
        rw [follows.record_of_passes passes, follows.nextId_eq]
      · rename_i fails
        rw [follows.record_of_not_passes (Bool.eq_false_of_not_eq_true fails)]
  | snapshot =>
      exact congrArg LogReply.shown follows.snapshot_eq
  | drain =>
      exact congrArg LogReply.drained follows.snapshot_eq

theorem step
    (follows : log.Follows threshold capacity calls)
    (call : LogCall) :
    (log.call call).2.Follows threshold capacity (calls ++ [call]) := by
  cases call with
  | record level event liveBlocks outstandingBytes =>
      have accepted := LogCall.accepted_snoc threshold calls
        (.record level event liveBlocks outstandingBytes)
      have keeps : LogCall.record level event liveBlocks outstandingBytes ≠ .drain := by simp
      have recent := LogCall.recent_snoc threshold calls keeps
      by_cases passes : level.passes threshold = true
      · simp only [LogCall.draft?, passes, if_true, Option.map_some, Option.toList_some]
          at accepted recent
        have settings := log.record_settings level event liveBlocks outstandingBytes
        have counted : ({ log with nextId := log.nextId + 1 } : Lifecycle).Retains
            (LogCall.recent threshold calls) :=
          ⟨follows.retains.room, follows.retains.snapshot⟩
        refine ⟨settings.1.trans follows.threshold_eq, settings.2.trans follows.capacity_eq, ?_, ?_⟩
        · rw [accepted, List.length_append, List.length_singleton, ← follows.nextId_eq]
          simp only [Lifecycle.call, follows.record_of_passes passes, append]
          split <;> rfl
        · rw [recent, ← follows.nextId_eq]
          simp only [Lifecycle.call, follows.record_of_passes passes]
          exact counted.append _
      · have fails : level.passes threshold = false := Bool.eq_false_of_not_eq_true passes
        simp only [LogCall.draft?, fails, Bool.false_eq_true, if_false, Option.map_none,
          Option.toList_none, List.append_nil] at accepted recent
        simp only [Lifecycle.call, follows.record_of_not_passes fails]
        exact ⟨follows.threshold_eq, follows.capacity_eq, by rw [accepted, follows.nextId_eq],
          recent ▸ follows.retains⟩
  | snapshot =>
      have accepted := LogCall.accepted_snoc threshold calls .snapshot
      have keeps : LogCall.snapshot ≠ .drain := by simp
      have recent := LogCall.recent_snoc threshold calls keeps
      simp only [LogCall.draft?, Option.map_none, Option.toList_none, List.append_nil]
        at accepted recent
      refine ⟨follows.threshold_eq, follows.capacity_eq, ?_, recent ▸ follows.retains⟩
      rw [accepted]
      exact follows.nextId_eq
  | drain =>
      have accepted := LogCall.accepted_snoc threshold calls .drain
      simp only [LogCall.draft?, Option.map_none, Option.toList_none, List.append_nil] at accepted
      refine ⟨follows.threshold_eq, follows.capacity_eq, ?_, ?_⟩
      · rw [accepted]
        exact follows.nextId_eq
      · rw [LogCall.recent_snoc_drain]
        exact ⟨follows.retains.room, (List.rtake_nil _).symm⟩

end Follows

theorem run_snoc
    (log : Lifecycle)
    (calls : List LogCall)
    (call : LogCall) :
    log.run (calls ++ [call]) = ((log.run calls).call call).2 := by
  rw [run, List.foldl_append]
  rfl

theorem follows_run
    (threshold : Option Level)
    (capacity : Nat)
    (calls : List LogCall) :
    ((new threshold capacity).run calls).Follows threshold capacity calls := by
  induction calls using List.reverseRecOn with
  | nil =>
      exact follows_new threshold capacity
  | append_singleton calls call inductionHypothesis =>
      rw [run_snoc]
      exact inductionHypothesis.step call

theorem replies_append
    (log : Lifecycle)
    (earlier later : List LogCall) :
    log.replies (earlier ++ later) = log.replies earlier ++ (log.run earlier).replies later := by
  induction earlier generalizing log with
  | nil =>
      rfl
  | cons call rest inductionHypothesis =>
      rw [List.cons_append, replies, inductionHypothesis]
      rfl

theorem length_replies
    (log : Lifecycle)
    (calls : List LogCall) :
    (log.replies calls).length = calls.length := by
  induction calls generalizing log with
  | nil =>
      rfl
  | cons call rest inductionHypothesis =>
      rw [replies, List.length_cons, inductionHypothesis, List.length_cons]

theorem drained_snoc
    (log : Lifecycle)
    (calls : List LogCall)
    (call : LogCall) :
    log.drained (calls ++ [call]) = log.drained calls ++ ((log.run calls).call call).1.removed := by
  simp [drained, replies_append, replies]

/-- What a call adds to the records that are accounted for is what it adds to those that are
accepted. -/
theorem Follows.account
    (follows : log.Follows threshold capacity calls)
    (call : LogCall) :
    (log.call call).1.removed.length + (log.call call).2.snapshot.length +
        (log.call call).2.dropped + (LogCall.accepted threshold calls).length =
      log.snapshot.length + log.dropped +
        (LogCall.accepted threshold (calls ++ [call])).length := by
  rw [LogCall.accepted_snoc]
  cases call with
  | record level event liveBlocks outstandingBytes =>
      by_cases passes : level.passes threshold = true
      · have room : 0 < ({ log with nextId := log.nextId + 1 } : Lifecycle).capacity :=
          follows.retains.room
        have entered := length_append room ⟨log.nextId, level, event, liveBlocks, outstandingBytes⟩
        simp only [LogCall.draft?, passes, if_true, Option.map_some, Option.toList_some,
          List.length_append, List.length_singleton]
        have unchanged : ({ log with nextId := log.nextId + 1 } : Lifecycle).snapshot =
            log.snapshot := rfl
        simp only [Lifecycle.call, follows.record_of_passes passes, LogReply.removed,
          List.length_nil]
        rw [unchanged] at entered
        simp only at entered
        omega
      · have fails : level.passes threshold = false := Bool.eq_false_of_not_eq_true passes
        simp [Lifecycle.call, follows.record_of_not_passes fails, LogCall.draft?, fails,
          LogReply.removed]
  | snapshot =>
      simp [Lifecycle.call, LogCall.draft?, LogReply.removed]
  | drain =>
      simp [Lifecycle.call, drain, snapshot, LogCall.draft?, LogReply.removed]

theorem total_run
    (threshold : Option Level)
    (capacity : Nat)
    (calls : List LogCall) :
    ((new threshold capacity).drained calls).length +
        ((new threshold capacity).run calls).snapshot.length +
        ((new threshold capacity).run calls).dropped =
      (LogCall.accepted threshold calls).length := by
  induction calls using List.reverseRecOn with
  | nil =>
      rfl
  | append_singleton calls call inductionHypothesis =>
      have account := (follows_run threshold capacity calls).account call
      rw [drained_snoc, run_snoc, List.length_append]
      omega

/-- Whatever the threshold and the capacity, a log does what its calls ask for. -/
theorem obeys_run
    (threshold : Option Level)
    (capacity : Nat)
    (calls : List LogCall) :
    Obeys threshold capacity calls := by
  have follows := follows_run threshold capacity calls
  refine ⟨?_, LogCall.numbers_accepted threshold calls, ?_, follows.snapshot_eq,
    total_run threshold capacity calls, fun _ _ => Record.traceId_eq_iff, ?_⟩
  · rintro before call ⟨after, rfl⟩
    have place := length_replies (new threshold capacity) before
    rw [replies_append, replies_append, List.append_assoc, List.getElem?_append_right
      (Nat.le_of_eq place), place, Nat.sub_self]
    exact congrArg some ((follows_run threshold capacity before).reply_eq call)
  · intro level event liveBlocks outstandingBytes fails
    exact follows.record_of_not_passes fails event liveBlocks outstandingBytes
  · intro few record member
    have numbered : record.decisionId ∈
        (LogCall.accepted threshold calls).map Record.decisionId :=
      List.mem_map_of_mem member
    rw [LogCall.numbers_accepted, List.mem_range'_1] at numbered
    have word : record.decisionId < Word.bound := by omega
    exact ⟨word, Text.length_hexPadded (by decide) word⟩

/-- A buffer for two after five records, of which one does not pass. -/
example :
    let calls := [Level.error, .trace, .warn, .error, .warn].map fun level =>
      LogCall.record level (.new "free" "unknown_address" "rejected") 0 0
    let log := (new (some .warn) 2).run calls
    log.snapshot.map Record.decisionId = [3, 4] ∧ log.dropped = 2 := by
  decide

end Log.Lifecycle

end TierHeap
