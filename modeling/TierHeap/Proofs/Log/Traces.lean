import TierHeap.Log.Lifecycle
import TierHeap.Proofs.Text.Numerals

/-!
# The traces of records

A trace ends in the decision number, and no digit of it is a colon.  So the last colon of a trace
shows where the number starts, and a trace tells the entry point and the number of its record
(`Record.traceId_eq_iff`), also where the name of the entry point has colons of its own.
-/

namespace TierHeap.Log

/-- A text with a mark in it falls into two parts at the last mark in one way only. -/
theorem append_cons_inj_of_last
    {α : Type}
    {mark : α}
    {front otherFront back otherBack : List α}
    (unmarked : mark ∉ back)
    (otherUnmarked : mark ∉ otherBack) :
    front ++ mark :: back = otherFront ++ mark :: otherBack ↔
      front = otherFront ∧ back = otherBack := by
  constructor
  · intro same
    rcases List.append_eq_append_iff.mp same with ⟨between, rfl, rest⟩ | ⟨between, rfl, rest⟩
    · cases between with
      | nil =>
          exact ⟨(List.append_nil _).symm, (List.cons.inj rest).2⟩
      | cons first between =>
          have backs := (List.cons.inj rest).2
          exact absurd (backs ▸ List.mem_append_right _ List.mem_cons_self) unmarked
    · cases between with
      | nil =>
          exact ⟨List.append_nil _, (List.cons.inj rest).2.symm⟩
      | cons first between =>
          have backs := (List.cons.inj rest).2
          exact absurd (backs ▸ List.mem_append_right _ List.mem_cons_self) otherUnmarked
  · rintro ⟨rfl, rfl⟩
    rfl

theorem colon_notMem_hexPadded (width n : Nat) : ':' ∉ (Text.hexPadded width n).toList := by
  intro member
  exact absurd (Text.digit?_isSome_of_mem_hexPadded member) (by decide)

/-- The trace of a record up to its last colon. -/
theorem Record.toList_traceId (record : Record) :
    record.traceId.toList =
      ("core::tiermem::".toList ++ record.event.symbol.toList ++ [':']) ++
        ':' :: (Text.hexPadded 16 record.decisionId).toList := by
  have separator : "::".toList = [':', ':'] := rfl
  unfold traceId
  simp only [String.toList_append, separator, List.append_assoc, List.cons_append,
    List.nil_append]

/-- A trace tells the entry point and the number. -/
theorem Record.traceId_eq_iff {first second : Record} :
    first.traceId = second.traceId ↔
      first.event.symbol = second.event.symbol ∧ first.decisionId = second.decisionId := by
  rw [← String.toList_inj, first.toList_traceId, second.toList_traceId,
    append_cons_inj_of_last (colon_notMem_hexPadded _ _) (colon_notMem_hexPadded _ _),
    List.append_cancel_right_eq, List.append_cancel_left_eq, String.toList_inj, String.toList_inj,
    (Text.hexPadded_injective 16).eq_iff]

end TierHeap.Log
