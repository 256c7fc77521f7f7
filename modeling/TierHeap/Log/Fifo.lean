/-!
# First-in, first-out buffers

A buffer keeps its oldest items in a front list and its newest ones, reversed, in a back
list, so that both ends are cheap.  `toList` is the view: the items, oldest first.
-/

namespace TierHeap

/-- A buffer of items, with their number. -/
structure Fifo (α : Type) where
  front : List α
  back : List α
  size : Nat
  size_eq : size = front.length + back.length
  deriving DecidableEq

namespace Fifo

variable {α : Type}

def toList (buffer : Fifo α) : List α :=
  buffer.front ++ buffer.back.reverse

instance [Repr α] : Repr (Fifo α) where
  reprPrec buffer := reprPrec buffer.toList

def empty : Fifo α :=
  ⟨[], [], 0, rfl⟩

instance : Inhabited (Fifo α) :=
  ⟨empty⟩

def push
    (buffer : Fifo α)
    (item : α) : Fifo α :=
  ⟨buffer.front, item :: buffer.back, buffer.size + 1, by simp [buffer.size_eq]; omega⟩

def dropOldest (buffer : Fifo α) : Fifo α :=
  match front : buffer.front with
  | _ :: rest =>
      ⟨rest, buffer.back, buffer.size - 1, by
        have counted := buffer.size_eq
        rw [front, List.length_cons] at counted
        omega⟩
  | [] =>
      match back : buffer.back.reverse with
      | [] => empty
      | _ :: rest =>
          ⟨rest, [], buffer.size - 1, by
            have counted := buffer.size_eq
            have reversed := congrArg List.length back
            rw [List.length_reverse, List.length_cons] at reversed
            rw [front] at counted
            simp only [List.length_nil] at *
            omega⟩

@[simp]
theorem toList_empty : (empty : Fifo α).toList = [] :=
  rfl

@[simp]
theorem toList_push
    (buffer : Fifo α)
    (item : α) :
    (buffer.push item).toList = buffer.toList ++ [item] := by
  simp [toList, push]

@[simp]
theorem toList_dropOldest (buffer : Fifo α) :
    buffer.dropOldest.toList = buffer.toList.drop 1 := by
  unfold dropOldest
  split
  · rename_i front
    simp [toList, front]
  · rename_i front
    split
    · rename_i back
      simp [toList, front, back, empty]
    · rename_i back
      simp [toList, front, back]

theorem size_eq_length (buffer : Fifo α) : buffer.size = buffer.toList.length := by
  simp [toList, buffer.size_eq]

end Fifo

end TierHeap
