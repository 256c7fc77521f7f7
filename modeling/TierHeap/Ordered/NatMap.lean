/-!
# Maps from numbers

A map is the list of its entries in strictly ascending order of their keys, so two maps
with the same entries are equal.  Each operation is described through `find?`, and the
neighbours of a key are read off the order.
-/

namespace TierHeap

/-- A map from numbers: its entries, with strictly ascending keys. -/
structure NatMap (α : Type) where
  entries : List (Nat × α)
  ascending : entries.Pairwise fun first second => first.1 < second.1
  deriving DecidableEq

namespace NatMap

variable {α : Type}

instance [Repr α] : Repr (NatMap α) where
  reprPrec map := reprPrec map.entries

def empty : NatMap α :=
  ⟨[], .nil⟩

instance : Inhabited (NatMap α) :=
  ⟨empty⟩

def keys (map : NatMap α) : List Nat :=
  map.entries.map Prod.fst

def values (map : NatMap α) : List α :=
  map.entries.map Prod.snd

def size (map : NatMap α) : Nat :=
  map.entries.length

def isEmpty (map : NatMap α) : Bool :=
  map.entries.isEmpty

def find?
    (map : NatMap α)
    (key : Nat) : Option α :=
  map.entries.lookup key

def contains
    (map : NatMap α)
    (key : Nat) : Bool :=
  (map.find? key).isSome

def atOrBelow?
    (map : NatMap α)
    (key : Nat) : Option (Nat × α) :=
  (map.entries.takeWhile fun entry => entry.1 ≤ key).getLast?

def below?
    (map : NatMap α)
    (key : Nat) : Option (Nat × α) :=
  (map.entries.takeWhile fun entry => entry.1 < key).getLast?

/-- Put an entry into ascending entries, in place of one with its key. -/
def insertEntry
    (key : Nat)
    (value : α) : List (Nat × α) → List (Nat × α)
  | [] => [(key, value)]
  | (other, held) :: rest =>
      if key < other then (key, value) :: (other, held) :: rest
      else if key = other then (key, value) :: rest
      else (other, held) :: insertEntry key value rest

theorem mem_insertEntry
    {key : Nat}
    {value : α}
    {entry : Nat × α}
    {entries : List (Nat × α)}
    (member : entry ∈ insertEntry key value entries) :
    entry = (key, value) ∨ entry ∈ entries := by
  induction entries with
  | nil => simpa [insertEntry] using member
  | cons head rest inductionHypothesis =>
      grind [insertEntry]

theorem insertEntry_ascending
    (key : Nat)
    (value : α)
    {entries : List (Nat × α)}
    (ascending : entries.Pairwise fun first second => first.1 < second.1) :
    (insertEntry key value entries).Pairwise fun first second => first.1 < second.1 := by
  induction entries with
  | nil => simp [insertEntry]
  | cons head rest inductionHypothesis =>
      obtain ⟨other, held⟩ := head
      rw [List.pairwise_cons] at ascending
      simp only [insertEntry]
      split
      · rename_i before
        refine List.pairwise_cons.mpr ⟨fun entry member => ?_, List.pairwise_cons.mpr ascending⟩
        rcases List.mem_cons.mp member with rfl | later
        · exact before
        · exact Nat.lt_trans before (ascending.1 entry later)
      · split
        · rename_i same
          subst same
          exact List.pairwise_cons.mpr ascending
        · rename_i notBefore different
          refine List.pairwise_cons.mpr ⟨fun entry member => ?_, inductionHypothesis ascending.2⟩
          rcases mem_insertEntry member with rfl | later
          · exact Nat.lt_of_le_of_ne (Nat.le_of_not_lt notBefore) (Ne.symm different)
          · exact ascending.1 entry later

def insert
    (map : NatMap α)
    (key : Nat)
    (value : α) : NatMap α :=
  ⟨insertEntry key value map.entries, insertEntry_ascending key value map.ascending⟩

def erase
    (map : NatMap α)
    (key : Nat) : NatMap α :=
  ⟨map.entries.filter fun entry => entry.1 != key, map.ascending.filter _⟩

theorem changeEntries_ascending
    (key : Nat)
    (change : α → α)
    {entries : List (Nat × α)}
    (ascending : entries.Pairwise fun first second => first.1 < second.1) :
    (entries.map fun entry =>
        if entry.1 = key then (entry.1, change entry.2) else entry).Pairwise
      fun first second => first.1 < second.1 := by
  rw [List.pairwise_map]
  refine ascending.imp fun {first second} before => ?_
  split <;> split <;> simpa using before

def modify
    (map : NatMap α)
    (key : Nat)
    (change : α → α) : NatMap α :=
  ⟨map.entries.map fun entry =>
      if entry.1 = key then (entry.1, change entry.2) else entry,
   changeEntries_ascending key change map.ascending⟩

@[simp]
theorem find?_empty (key : Nat) : (empty : NatMap α).find? key = none :=
  rfl

theorem lookup_insertEntry
    (key : Nat)
    (value : α)
    (wanted : Nat)
    (entries : List (Nat × α)) :
    (insertEntry key value entries).lookup wanted =
      if wanted = key then some value else entries.lookup wanted := by
  induction entries with
  | nil => grind [insertEntry]
  | cons head rest inductionHypothesis =>
      obtain ⟨other, held⟩ := head
      simp only [insertEntry]
      split
      · grind
      · split <;> grind

/-- Insertion sets the value of its key and of no other. -/
@[simp]
theorem find?_insert
    (map : NatMap α)
    (key : Nat)
    (value : α)
    (wanted : Nat) :
    (map.insert key value).find? wanted =
      if wanted = key then some value else map.find? wanted :=
  lookup_insertEntry key value wanted map.entries

theorem lookup_filter_ne
    (key wanted : Nat)
    (entries : List (Nat × α)) :
    (entries.filter fun entry => entry.1 != key).lookup wanted =
      if wanted = key then none else entries.lookup wanted := by
  induction entries with
  | nil => simp
  | cons head rest inductionHypothesis =>
      grind

/-- Removal takes the value of its key and of no other. -/
@[simp]
theorem find?_erase
    (map : NatMap α)
    (key wanted : Nat) :
    (map.erase key).find? wanted = if wanted = key then none else map.find? wanted :=
  lookup_filter_ne key wanted map.entries

theorem lookup_changeEntries
    (key wanted : Nat)
    (change : α → α)
    (entries : List (Nat × α)) :
    (entries.map fun entry =>
        if entry.1 = key then (entry.1, change entry.2) else entry).lookup wanted =
      if wanted = key then (entries.lookup wanted).map change else entries.lookup wanted := by
  induction entries with
  | nil => simp
  | cons head rest inductionHypothesis =>
      obtain ⟨other, held⟩ := head
      rw [List.map_cons]
      by_cases changed : other = key
      · subst changed
        by_cases found : wanted = other
        · subst found
          simp
        · have differs : (wanted == other) = false := by simpa using found
          simpa [List.lookup_cons, differs, found] using inductionHypothesis
      · by_cases found : wanted = other
        · subst found
          simp [changed]
        · have differs : (wanted == other) = false := by simpa using found
          simpa [List.lookup_cons, differs, changed] using inductionHypothesis

/-- A change reaches the value of its key and no other. -/
@[simp]
theorem find?_modify
    (map : NatMap α)
    (key : Nat)
    (change : α → α)
    (wanted : Nat) :
    (map.modify key change).find? wanted =
      if wanted = key then (map.find? wanted).map change else map.find? wanted :=
  lookup_changeEntries key wanted change map.entries

theorem lookup_eq_some_iff
    {entries : List (Nat × α)}
    (ascending : entries.Pairwise fun first second => first.1 < second.1)
    {key : Nat}
    {value : α} :
    entries.lookup key = some value ↔ (key, value) ∈ entries := by
  induction entries with
  | nil => simp
  | cons head rest inductionHypothesis =>
      obtain ⟨other, held⟩ := head
      have ordered := List.pairwise_cons.mp ascending
      have later := inductionHypothesis ordered.2
      by_cases found : key = other
      · subst found
        have absent : (key, value) ∉ rest := fun member =>
          Nat.lt_irrefl key (ordered.1 (key, value) member)
        simp [absent, eq_comm]
      · have differs : (key == other) = false := by simpa using found
        simp [List.lookup_cons, differs, later, found]

/-- The look-ups are the entries. -/
theorem find?_eq_some_iff
    (map : NatMap α)
    {key : Nat}
    {value : α} :
    map.find? key = some value ↔ (key, value) ∈ map.entries :=
  lookup_eq_some_iff map.ascending

theorem takeWhile_eq_filter
    {entries : List (Nat × α)}
    (ascending : entries.Pairwise fun first second => first.1 < second.1)
    (stop : Nat) :
    (entries.takeWhile fun entry => entry.1 < stop) =
      entries.filter fun entry => entry.1 < stop := by
  induction entries with
  | nil => rfl
  | cons head rest inductionHypothesis =>
      have ordered := List.pairwise_cons.mp ascending
      by_cases below : head.1 < stop
      · simp [below, inductionHypothesis ordered.2]
      · have beyond : ∀ entry ∈ rest, ¬entry.1 < stop := by
          intro entry member small
          have later := ordered.1 entry member
          omega
        simpa [below] using beyond

theorem getLast?_eq_some_iff_greatest
    {entries : List (Nat × α)}
    (ascending : entries.Pairwise fun first second => first.1 < second.1)
    {key : Nat}
    {value : α} :
    entries.getLast? = some (key, value) ↔
      (key, value) ∈ entries ∧ ∀ entry ∈ entries, entry.1 ≤ key := by
  constructor
  · intro last
    obtain ⟨front, rfl⟩ := List.getLast?_eq_some_iff.mp last
    refine ⟨by simp, fun entry member => ?_⟩
    have ordered := (List.pairwise_append.mp ascending).2.2
    rcases List.mem_append.mp member with earlier | final
    · exact Nat.le_of_lt (ordered entry earlier (key, value) (by simp))
    · exact Nat.le_of_eq (congrArg Prod.fst (List.mem_singleton.mp final))
  · rintro ⟨member, greatest⟩
    obtain ⟨front, back, rfl⟩ := List.append_of_mem member
    cases back with
    | nil => simp
    | cons next others =>
        have ordered := (List.pairwise_append.mp ascending).2.1
        have after := (List.pairwise_cons.mp ordered).1 next List.mem_cons_self
        have bound := greatest next (by simp)
        exact absurd after (Nat.not_lt.mpr bound)

/-- The neighbour below a key is the entry with the greatest key below it. -/
theorem below?_eq_some_iff
    (map : NatMap α)
    (stop : Nat)
    {key : Nat}
    {value : α} :
    map.below? stop = some (key, value) ↔
      map.find? key = some value ∧ key < stop ∧
        ∀ entry ∈ map.entries, entry.1 < stop → entry.1 ≤ key := by
  have kept := map.ascending.filter fun entry => entry.1 < stop
  rw [below?, takeWhile_eq_filter map.ascending, getLast?_eq_some_iff_greatest kept,
    find?_eq_some_iff]
  simp [and_assoc]

/-- The entry at a key or the neighbour below it is the one below the next key. -/
theorem atOrBelow?_eq_below?
    (map : NatMap α)
    (key : Nat) :
    map.atOrBelow? key = map.below? (key + 1) := by
  simp only [atOrBelow?, below?, Nat.lt_succ_iff]

end NatMap

end TierHeap
