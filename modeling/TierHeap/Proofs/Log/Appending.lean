import Mathlib.Data.List.Range
import TierHeap.Log.Lifecycle

/-!
# How a log grows

Records are appended with consecutive numbers.  As long as the buffer has not been full when a
record came, nothing is lost: the records that have been taken out, followed by the ones in the
buffer, are all that were ever appended, in order.
-/

namespace TierHeap.Log

/-- The kinds of events that tell of a block that has come, gone or changed. -/
def tellingKinds : List String :=
  ["alloc", "free", "resize"]

/-- The record tells of a block. -/
def Record.Tells (record : Record) : Prop :=
  record.event.event ∈ tellingKinds

instance (record : Record) : Decidable record.Tells :=
  inferInstanceAs (Decidable (record.event.event ∈ tellingKinds))

namespace Lifecycle

/-- From one log to another, these records have been appended. -/
structure Appended
    (before after : Lifecycle)
    (records : List Record) : Prop where
  threshold : after.threshold = before.threshold
  numbers : records.map Record.decisionId = List.range' before.nextId records.length
  nextId : after.nextId = before.nextId + records.length
  dropped : before.dropped ≤ after.dropped
  /-- If the buffer was never full, they follow the ones before. -/
  kept : after.dropped = 0 → after.snapshot = before.snapshot ++ records

namespace Appended

variable {first second third : Lifecycle} {earlier later : List Record}

theorem refl (log : Lifecycle) : log.Appended log [] :=
  ⟨rfl, rfl, rfl, Nat.le_refl _, fun _ => (List.append_nil _).symm⟩

theorem trans
    (left : first.Appended second earlier)
    (right : second.Appended third later) :
    first.Appended third (earlier ++ later) := by
  refine ⟨right.threshold.trans left.threshold, ?_, ?_, ?_, ?_⟩
  · rw [List.map_append, left.numbers, right.numbers, left.nextId, List.length_append,
      List.range'_append_1]
  · rw [right.nextId, left.nextId, List.length_append, Nat.add_assoc]
  · exact Nat.le_trans left.dropped right.dropped
  · intro complete
    have completeBefore : second.dropped = 0 :=
      Nat.le_zero.mp (Nat.le_trans right.dropped (Nat.le_of_eq complete))
    rw [right.kept complete, left.kept completeBefore, List.append_assoc]

end Appended

variable {log : Lifecycle} {level : Level}

/-- A record that passes the threshold is appended. -/
theorem appended_record_of_enabled
    (enabled : log.enabled level = true)
    (event : Event)
    (liveBlocks outstandingBytes : Nat) :
    log.Appended (log.record level event liveBlocks outstandingBytes).2
      [⟨log.nextId, level, event, liveBlocks, outstandingBytes⟩] := by
  simp only [record, enabled, if_true, append]
  split
  · refine ⟨rfl, rfl, rfl, Nat.le_succ _, ?_⟩
    intro complete
    cases complete
  · refine ⟨rfl, rfl, rfl, Nat.le_refl _, ?_⟩
    intro _
    simp [snapshot]

/-- An event leads to at most one record. -/
theorem appended_record
    (log : Lifecycle)
    (level : Level)
    (event : Event)
    (liveBlocks outstandingBytes : Nat) :
    ∃ records,
      log.Appended (log.record level event liveBlocks outstandingBytes).2 records ∧
        ∀ record ∈ records, record.event = event := by
  by_cases enabled : log.enabled level = true
  · refine ⟨_, appended_record_of_enabled enabled event liveBlocks outstandingBytes, ?_⟩
    intro record member
    rw [List.mem_singleton.mp member]
  · refine ⟨[], ?_, fun _ member => absurd member List.not_mem_nil⟩
    simp only [record, enabled]
    exact .refl log

/-- With a threshold of `trace` every record passes. -/
theorem enabled_of_trace
    (threshold : log.threshold = some .trace)
    (level : Level) :
    log.enabled level = true := by
  rw [enabled, threshold]
  exact decide_eq_true (Nat.zero_le _)

/-- These are all records that were ever appended, given those that have been taken out. -/
structure Holds
    (log : Lifecycle)
    (drained records : List Record) : Prop where
  numbers : records.map Record.decisionId = List.range' 1 records.length
  nextId : log.nextId = 1 + records.length
  complete : log.dropped = 0 → drained ++ log.snapshot = records

theorem holds_new
    (threshold : Option Level)
    (capacity : Nat) :
    (new threshold capacity).Holds [] [] :=
  ⟨rfl, rfl, fun _ => rfl⟩

theorem Holds.append
    {log after : Lifecycle}
    {drained records recent : List Record}
    (holds : log.Holds drained records)
    (appended : log.Appended after recent) :
    after.Holds drained (records ++ recent) := by
  refine ⟨?_, ?_, ?_⟩
  · rw [List.map_append, holds.numbers, appended.numbers, holds.nextId, List.length_append,
      List.range'_append_1]
  · rw [appended.nextId, holds.nextId, List.length_append, Nat.add_assoc]
  · intro complete
    have completeBefore : log.dropped = 0 :=
      Nat.le_zero.mp (Nat.le_trans appended.dropped (Nat.le_of_eq complete))
    rw [appended.kept complete, ← List.append_assoc, holds.complete completeBefore]

theorem Holds.drain
    {log : Lifecycle}
    {drained records : List Record}
    (holds : log.Holds drained records) :
    log.drain.2.Holds (drained ++ log.drain.1) records := by
  refine ⟨holds.numbers, holds.nextId, ?_⟩
  intro complete
  have whole := holds.complete complete
  simpa [Lifecycle.drain, snapshot] using whole

/-- From one log to another, no record has been appended that tells of a block. -/
def Quiet (before after : Lifecycle) : Prop :=
  ∃ records, before.Appended after records ∧ ∀ record ∈ records, ¬record.Tells

theorem Quiet.refl (log : Lifecycle) : log.Quiet log :=
  ⟨[], .refl log, fun _ member => absurd member List.not_mem_nil⟩

theorem Quiet.trans
    {first second third : Lifecycle}
    (left : first.Quiet second)
    (right : second.Quiet third) :
    first.Quiet third := by
  obtain ⟨earlier, leftAppended, leftSilent⟩ := left
  obtain ⟨later, rightAppended, rightSilent⟩ := right
  refine ⟨earlier ++ later, leftAppended.trans rightAppended, ?_⟩
  intro record member
  rcases List.mem_append.mp member with isEarlier | isLater
  · exact leftSilent record isEarlier
  · exact rightSilent record isLater

theorem quiet_record
    (log : Lifecycle)
    (level : Level)
    {event : Event}
    (silent : event.event ∉ tellingKinds)
    (liveBlocks outstandingBytes : Nat) :
    log.Quiet (log.record level event liveBlocks outstandingBytes).2 := by
  obtain ⟨records, appended, ofEvent⟩ :=
    log.appended_record level event liveBlocks outstandingBytes
  refine ⟨records, appended, ?_⟩
  intro record member
  rw [Record.Tells, ofEvent record member]
  exact silent

end Lifecycle

end TierHeap.Log
