import Mathlib.Data.List.DropRight
import TierHeap.Log.Lifecycle

/-!
# What a log keeps

A log that is not drained keeps the latest of the records that it has accepted, as many as its
capacity admits (`Lifecycle.Retains`).  What was noted is told by the levels and events of the
accepted records alone (`Lifecycle.Shows`).
-/

namespace TierHeap.Log

def Record.note (record : Record) : Level × Event :=
  (record.level, record.event)

namespace Lifecycle

/-- The buffer holds the last of these records, as many as there is room for. -/
structure Retains
    (log : Lifecycle)
    (records : List Record) : Prop where
  room : 0 < log.capacity
  snapshot : log.snapshot = records.rtake log.capacity

theorem retains_new
    (threshold : Option Level)
    (capacity : Nat) :
    (new threshold capacity).Retains [] := by
  refine ⟨Nat.lt_of_lt_of_le Nat.one_pos (Nat.le_max_right _ _), ?_⟩
  rw [List.rtake_nil]
  rfl

theorem Retains.append
    {log : Lifecycle}
    {records : List Record}
    (retains : log.Retains records)
    (record : Record) :
    (log.append record).Retains (records ++ [record]) := by
  obtain ⟨room, kept⟩ := retains
  obtain ⟨less, capacity⟩ : ∃ less, log.capacity = less + 1 := ⟨log.capacity - 1, by omega⟩
  have size : log.buffer.size = (records.rtake log.capacity).length := by
    rw [Fifo.size_eq_length, ← kept]
    rfl
  have last : (records ++ [record]).rtake (less + 1) = records.rtake less ++ [record] :=
    List.rtake_concat_succ _ _ _
  rw [List.rtake, List.length_drop] at size
  rw [Lifecycle.append]
  split
  · rename_i full
    refine ⟨room, ?_⟩
    change (log.buffer.dropOldest.push record).toList = _
    rw [Fifo.toList_push, Fifo.toList_dropOldest]
    change log.snapshot.drop 1 ++ [record] = _
    -- The buffer is full, so the oldest of the records in it is the one that has to go.
    have oldest : (records.rtake (less + 1)).drop 1 = records.rtake less := by
      simp only [List.rtake, List.drop_drop]
      congr 1
      omega
    rw [kept, capacity, last, oldest]
  · rename_i notFull
    refine ⟨room, ?_⟩
    change (log.buffer.push record).toList = _
    rw [Fifo.toList_push]
    change log.snapshot ++ [record] = _
    have all : records.length ≤ less := by omega
    have whole : records.rtake less = records := by
      rw [List.rtake, Nat.sub_eq_zero_of_le all, List.drop_zero]
    have wholeNow : records.rtake (less + 1) = records := by
      rw [List.rtake, Nat.sub_eq_zero_of_le (by omega), List.drop_zero]
    rw [kept, capacity, last, whole, wholeNow]

/-- These are the levels and events of all records that were accepted, and the buffer retains
them. -/
def Shows
    (log : Lifecycle)
    (notes : List (Level × Event)) : Prop :=
  ∃ records, log.Retains records ∧ records.map Record.note = notes

/-- What of a list of notes passes the threshold of a log. -/
def admitted
    (log : Lifecycle)
    (notes : List (Level × Event)) : List (Level × Event) :=
  notes.filter fun note => log.enabled note.1

theorem shows_new
    (threshold : Option Level)
    (capacity : Nat) :
    (new threshold capacity).Shows [] :=
  ⟨[], retains_new threshold capacity, rfl⟩

/-- Recording an event leaves threshold and capacity as they are. -/
theorem record_settings
    (log : Lifecycle)
    (level : Level)
    (event : Event)
    (liveBlocks outstandingBytes : Nat) :
    (log.record level event liveBlocks outstandingBytes).2.threshold = log.threshold ∧
      (log.record level event liveBlocks outstandingBytes).2.capacity = log.capacity := by
  rw [record]
  split
  · simp only [append]
    split <;> exact ⟨rfl, rfl⟩
  · exact ⟨rfl, rfl⟩

theorem Shows.record
    {log : Lifecycle}
    {notes : List (Level × Event)}
    (shows : log.Shows notes)
    (level : Level)
    (event : Event)
    (liveBlocks outstandingBytes : Nat) :
    (log.record level event liveBlocks outstandingBytes).2.Shows
      (notes ++ log.admitted [(level, event)]) := by
  obtain ⟨records, retains, rfl⟩ := shows
  rw [Lifecycle.record]
  split
  · rename_i enabled
    let entry : Record := ⟨log.nextId, level, event, liveBlocks, outstandingBytes⟩
    have counted : { log with nextId := log.nextId + 1 }.Retains records :=
      ⟨retains.room, retains.snapshot⟩
    refine ⟨records ++ [entry], counted.append entry, ?_⟩
    simp [admitted, enabled, Record.note, entry]
  · rename_i refused
    refine ⟨records, retains, ?_⟩
    simp [admitted, refused]

/-- The levels and events in the buffer are the last of those that were accepted. -/
theorem Shows.snapshot
    {log : Lifecycle}
    {notes : List (Level × Event)}
    (shows : log.Shows notes) :
    log.snapshot.map Record.note = notes.rtake log.capacity := by
  obtain ⟨records, retains, rfl⟩ := shows
  rw [retains.snapshot, List.rtake, List.rtake, List.map_drop, List.length_map]

/-- From one log to another, no event of these kinds has been accepted. -/
structure Avoids
    (kinds : List String)
    (before after : Lifecycle) : Prop where
  threshold : after.threshold = before.threshold
  capacity : after.capacity = before.capacity
  shows : ∀ notes, before.Shows notes →
    ∃ later, after.Shows (notes ++ later) ∧ ∀ note ∈ later, note.2.event ∉ kinds

variable {kinds : List String}

theorem Avoids.refl (log : Lifecycle) : log.Avoids kinds log := by
  refine ⟨rfl, rfl, fun notes shows => ⟨[], ?_, fun _ member => absurd member List.not_mem_nil⟩⟩
  rwa [List.append_nil]

theorem Avoids.trans
    {first second third : Lifecycle}
    (left : first.Avoids kinds second)
    (right : second.Avoids kinds third) :
    first.Avoids kinds third := by
  refine ⟨right.threshold.trans left.threshold, right.capacity.trans left.capacity, ?_⟩
  intro notes shows
  obtain ⟨earlier, shown, earlierOther⟩ := left.shows notes shows
  obtain ⟨later, shownLater, laterOther⟩ := right.shows _ shown
  refine ⟨earlier ++ later, by rwa [← List.append_assoc], ?_⟩
  intro note member
  rcases List.mem_append.mp member with isEarlier | isLater
  · exact earlierOther note isEarlier
  · exact laterOther note isLater

theorem avoids_record
    (log : Lifecycle)
    (level : Level)
    {event : Event}
    (other : event.event ∉ kinds)
    (liveBlocks outstandingBytes : Nat) :
    log.Avoids kinds (log.record level event liveBlocks outstandingBytes).2 := by
  obtain ⟨threshold, capacity⟩ := log.record_settings level event liveBlocks outstandingBytes
  refine ⟨threshold, capacity, fun notes shows => ⟨_, shows.record level event _ _, ?_⟩⟩
  intro note member
  obtain rfl := List.mem_singleton.mp (List.mem_filter.mp member).1
  exact other

end Lifecycle

end TierHeap.Log
