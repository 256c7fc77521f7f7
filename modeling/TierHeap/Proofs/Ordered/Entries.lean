import TierHeap.Ordered.NatMap

/-!
# The entries of a map as a collection

A map keeps its entries in order, but sums and counts over them do not depend on the order.
Each operation is described here by the collection it leaves: insertion at a new key adds
one entry, removal takes one away, and a change puts one in the place of another.
-/

namespace TierHeap.NatMap

variable {α : Type}

theorem insertEntry_perm
    {key : Nat}
    (value : α)
    {entries : List (Nat × α)}
    (absent : entries.lookup key = none) :
    (insertEntry key value entries).Perm ((key, value) :: entries) := by
  induction entries with
  | nil =>
      exact .refl _
  | cons head rest inductionHypothesis =>
      obtain ⟨other, held⟩ := head
      have different : key ≠ other := by
        rintro rfl
        simp at absent
      have differs : (key == other) = false := by simpa using different
      rw [List.lookup_cons, differs] at absent
      simp only [insertEntry]
      split
      · exact .refl _
      · exact ((inductionHypothesis absent).cons (other, held)).trans (.swap _ _ _)

/-- Insertion at a new key adds one entry. -/
theorem entries_insert_perm
    {map : NatMap α}
    {key : Nat}
    (absent : map.find? key = none)
    (value : α) :
    (map.insert key value).entries.Perm ((key, value) :: map.entries) :=
  insertEntry_perm value absent

theorem filter_ne_of_forall_ne
    {key : Nat}
    {entries : List (Nat × α)}
    (others : ∀ entry ∈ entries, entry.1 ≠ key) :
    (entries.filter fun entry => entry.1 != key) = entries := by
  apply List.filter_eq_self.mpr
  intro entry member
  simpa using others entry member

theorem entries_perm_filter
    {key : Nat}
    {value : α}
    {entries : List (Nat × α)}
    (ascending : entries.Pairwise fun first second => first.1 < second.1)
    (found : (key, value) ∈ entries) :
    entries.Perm ((key, value) :: entries.filter fun entry => entry.1 != key) := by
  obtain ⟨front, back, rfl⟩ := List.append_of_mem found
  have ordered := List.pairwise_append.mp ascending
  have frontOthers : ∀ entry ∈ front, entry.1 ≠ key := fun entry member =>
    Nat.ne_of_lt (ordered.2.2 entry member (key, value) List.mem_cons_self)
  have backOthers : ∀ entry ∈ back, entry.1 ≠ key := fun entry member =>
    Nat.ne_of_gt ((List.pairwise_cons.mp ordered.2.1).1 entry member)
  have removed :
      ((front ++ (key, value) :: back).filter fun entry => entry.1 != key) = front ++ back := by
    rw [List.filter_append, List.filter_cons_of_neg (by simp),
      filter_ne_of_forall_ne frontOthers, filter_ne_of_forall_ne backOthers]
  rw [removed]
  exact List.perm_middle

/-- Removal of a key that has a value takes one entry away. -/
theorem entries_erase_perm
    {map : NatMap α}
    {key : Nat}
    {value : α}
    (found : map.find? key = some value) :
    map.entries.Perm ((key, value) :: (map.erase key).entries) :=
  entries_perm_filter map.ascending (map.find?_eq_some_iff.mp found)

/-- Removal of a key without a value changes nothing. -/
theorem erase_of_absent
    {map : NatMap α}
    {key : Nat}
    (absent : map.find? key = none) :
    map.erase key = map := by
  have others : ∀ entry ∈ map.entries, entry.1 ≠ key := by
    rintro ⟨other, value⟩ member rfl
    have found := map.find?_eq_some_iff.mpr member
    rw [absent] at found
    cases found
  obtain ⟨entries, ascending⟩ := map
  simp only [erase, mk.injEq]
  exact filter_ne_of_forall_ne others

/-- A change of the value of a key puts one entry in the place of another. -/
theorem entries_modify_perm
    {map : NatMap α}
    {key : Nat}
    {value : α}
    (found : map.find? key = some value)
    (change : α → α) :
    (map.modify key change).entries.Perm ((key, change value) :: (map.erase key).entries) := by
  have changed := (entries_erase_perm found).map fun entry : Nat × α =>
    if entry.1 = key then (entry.1, change entry.2) else entry
  have kept :
      ((map.erase key).entries.map fun entry : Nat × α =>
        if entry.1 = key then (entry.1, change entry.2) else entry) =
        (map.erase key).entries := by
    rw [List.map_congr_left (g := id), List.map_id]
    intro entry member
    have other : entry.1 ≠ key := by simpa [erase] using (List.mem_filter.mp member).2
    rw [if_neg other]
    rfl
  rw [List.map_cons, kept, if_pos rfl] at changed
  exact changed

end TierHeap.NatMap
