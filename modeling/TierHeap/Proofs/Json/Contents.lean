import Mathlib.Data.String.Basic
import TierHeap.Proofs.Json.Members
import TierHeap.Proofs.Json.Reading

/-!
# What a value holds

The numbers of a value and the depth of its nesting decide whether it is read as itself
(`Json.fits_of_numbers`).  Dictionary form neither adds a number nor nests deeper, and a value in
dictionary form stays as it is (`Json.canonical_canonical`).
-/

namespace TierHeap.Json

mutual

/-- The numbers in a value, in the order in which they are written. -/
def numbers : Json → List JsonNumber
  | .number value => [value]
  | .array items => itemNumbers items
  | .object members => memberNumbers members
  | .null => []
  | .bool _ => []
  | .string _ => []

def itemNumbers : List Json → List JsonNumber
  | [] => []
  | item :: rest => numbers item ++ itemNumbers rest

def memberNumbers : List (String × Json) → List JsonNumber
  | [] => []
  | (_, value) :: rest => numbers value ++ memberNumbers rest

end

mutual

def depth : Json → Nat
  | .array items => itemDepth items + 1
  | .object members => memberDepth members + 1
  | .null => 0
  | .bool _ => 0
  | .number _ => 0
  | .string _ => 0

def itemDepth : List Json → Nat
  | [] => 0
  | item :: rest => max (depth item) (itemDepth rest)

def memberDepth : List (String × Json) → Nat
  | [] => 0
  | (_, value) :: rest => max (depth value) (memberDepth rest)

end

/-- No number of the value is held as a double. -/
def DoubleFree (value : Json) : Prop :=
  ∀ number ∈ value.numbers, ∀ x, number ≠ .double x

theorem mem_itemNumbers
    {number : JsonNumber}
    {items : List Json} :
    number ∈ itemNumbers items ↔ ∃ item ∈ items, number ∈ item.numbers := by
  induction items with
  | nil =>
      simp [itemNumbers]
  | cons item rest inductionHypothesis =>
      simp [itemNumbers, inductionHypothesis]

theorem mem_memberNumbers
    {number : JsonNumber}
    {members : List (String × Json)} :
    number ∈ memberNumbers members ↔ ∃ member ∈ members, number ∈ member.2.numbers := by
  induction members with
  | nil =>
      simp [memberNumbers]
  | cons member rest inductionHypothesis =>
      simp [memberNumbers, inductionHypothesis]

theorem itemDepth_le_iff
    {items : List Json}
    {bound : Nat} :
    itemDepth items ≤ bound ↔ ∀ item ∈ items, item.depth ≤ bound := by
  induction items with
  | nil =>
      simp [itemDepth]
  | cons item rest inductionHypothesis =>
      rw [itemDepth, Nat.max_le, inductionHypothesis, List.forall_mem_cons]

theorem memberDepth_le_iff
    {members : List (String × Json)}
    {bound : Nat} :
    memberDepth members ≤ bound ↔ ∀ member ∈ members, member.2.depth ≤ bound := by
  induction members with
  | nil =>
      simp [memberDepth]
  | cons member rest inductionHypothesis =>
      rw [memberDepth, Nat.max_le, inductionHypothesis, List.forall_mem_cons]

/-- What passes from the items to an array and from the values of the members to an object is
so of every value. -/
@[elab_as_elim]
theorem induct
    {motive : Json → Prop}
    (null : motive .null)
    (bool : ∀ value, motive (.bool value))
    (number : ∀ value, motive (.number value))
    (string : ∀ text, motive (.string text))
    (array : ∀ items, (∀ item ∈ items, motive item) → motive (.array items))
    (object : ∀ members, (∀ member ∈ members, motive member.2) → motive (.object members))
    (value : Json) :
    motive value := by
  match value with
  | .null => exact null
  | .bool value => exact bool value
  | .number value => exact number value
  | .string text => exact string text
  | .array items =>
      exact array items fun item _ => induct null bool number string array object item
  | .object members =>
      refine object members fun member isMember => ?_
      have smaller := List.sizeOf_lt_of_mem isMember
      exact induct null bool number string array object member.2
termination_by sizeOf value
decreasing_by
  all_goals simp_wf
  · have smaller := List.sizeOf_lt_of_mem ‹_›
    omega
  · obtain ⟨key, value⟩ := member
    simp only [Prod.mk.sizeOf_spec] at smaller ⊢
    omega

/-- A value of whole numbers that is not nested too deeply is read as itself. -/
theorem fits_of_numbers
    {value : Json}
    {room : Nat}
    (whole : ∀ number ∈ value.numbers, number.Whole)
    (shallow : value.depth ≤ room) :
    value.Fits room := by
  induction value using induct generalizing room with
  | number value =>
      rw [Fits]
      exact whole value (by simp [numbers])
  | array items inductionHypothesis =>
      rw [depth] at shallow
      rw [numbers] at whole
      rw [Fits, itemsFit_iff]
      refine ⟨by omega, fun item member => inductionHypothesis item member ?_ ?_⟩
      · exact fun number inside => whole number (mem_itemNumbers.mpr ⟨item, member, inside⟩)
      · exact itemDepth_le_iff.mp (by omega) item member
  | object members inductionHypothesis =>
      rw [depth] at shallow
      rw [numbers] at whole
      rw [Fits, membersFit_iff]
      refine ⟨by omega, fun member isMember => inductionHypothesis member isMember ?_ ?_⟩
      · exact fun number inside =>
          whole number (mem_memberNumbers.mpr ⟨member, isMember, inside⟩)
      · exact memberDepth_le_iff.mp (by omega) member isMember
  | _ =>
      rw [Fits]
      exact trivial

/-- The keys of the members ascend, so no two of them are equal. -/
def Ascending (members : List (String × Json)) : Prop :=
  members.Pairwise fun first second => first.1 < second.1

theorem mem_insertMember
    {key : String}
    {value : Json}
    {members : List (String × Json)}
    {member : String × Json}
    (isMember : member ∈ insertMember key value members) :
    member = (key, value) ∨ member ∈ members := by
  induction members with
  | nil =>
      exact .inl (List.mem_singleton.mp isMember)
  | cons first rest inductionHypothesis =>
      obtain ⟨other, held⟩ := first
      rw [insertMember] at isMember
      split at isMember
      · exact List.mem_cons.mp isMember
      · split at isMember
        · exact (List.mem_cons.mp isMember).imp_right (List.mem_cons_of_mem _)
        · rcases List.mem_cons.mp isMember with rfl | later
          · exact .inr List.mem_cons_self
          · exact (inductionHypothesis later).imp_right (List.mem_cons_of_mem _)

theorem ascending_insertMember
    {members : List (String × Json)}
    (ascending : Ascending members)
    (key : String)
    (value : Json) :
    Ascending (insertMember key value members) := by
  induction members with
  | nil =>
      exact List.pairwise_singleton _ _
  | cons first rest inductionHypothesis =>
      obtain ⟨other, held⟩ := first
      obtain ⟨before, ordered⟩ := List.pairwise_cons.mp ascending
      rw [insertMember]
      split
      · rename_i less
        refine List.pairwise_cons.mpr ⟨fun member isMember => ?_, ascending⟩
        rcases List.mem_cons.mp isMember with rfl | later
        · exact less
        · exact lt_trans less (before member later)
      · rename_i notLess
        split
        · rename_i same
          subst same
          exact List.pairwise_cons.mpr ⟨before, ordered⟩
        · rename_i different
          have greater : other < key := lt_of_le_of_ne (not_lt.mp notLess) (Ne.symm different)
          refine List.pairwise_cons.mpr ⟨fun member isMember => ?_, inductionHypothesis ordered⟩
          rcases mem_insertMember isMember with rfl | later
          · exact greater
          · exact before member later

theorem mem_foldl_insertMember
    {members sorted : List (String × Json)}
    {member : String × Json}
    (isMember :
      member ∈ members.foldl (fun sorted next => insertMember next.1 next.2 sorted) sorted) :
    member ∈ members ∨ member ∈ sorted := by
  induction members generalizing sorted with
  | nil =>
      exact .inr isMember
  | cons first rest inductionHypothesis =>
      rw [List.foldl_cons] at isMember
      rcases inductionHypothesis isMember with later | earlier
      · exact .inl (List.mem_cons_of_mem _ later)
      · rcases mem_insertMember earlier with rfl | held
        · exact .inl List.mem_cons_self
        · exact .inr held

theorem mem_of_mem_sortMembers
    {members : List (String × Json)}
    {member : String × Json}
    (isMember : member ∈ sortMembers members) :
    member ∈ members :=
  (mem_foldl_insertMember isMember).resolve_right (by simp)

theorem ascending_sortMembers (members : List (String × Json)) :
    Ascending (sortMembers members) :=
  List.foldlRecOn members _ List.Pairwise.nil
    fun _ ascending member _ => ascending_insertMember ascending member.1 member.2

/-- A member whose key is greater than all others is put at the end. -/
theorem insertMember_of_greater
    {key : String}
    {value : Json}
    {members : List (String × Json)}
    (greater : ∀ member ∈ members, member.1 < key) :
    insertMember key value members = members ++ [(key, value)] := by
  induction members with
  | nil =>
      rfl
  | cons first rest inductionHypothesis =>
      obtain ⟨other, held⟩ := first
      obtain ⟨less, others⟩ := List.forall_mem_cons.mp greater
      rw [insertMember, if_neg (not_lt.mpr less.le), if_neg less.ne', inductionHypothesis others,
        List.cons_append]

theorem foldl_insertMember_of_ascending
    {sorted members : List (String × Json)}
    (ascending : Ascending (sorted ++ members)) :
    members.foldl (fun sorted next => insertMember next.1 next.2 sorted) sorted =
      sorted ++ members := by
  induction members generalizing sorted with
  | nil =>
      rw [List.foldl_nil, List.append_nil]
  | cons first rest inductionHypothesis =>
      have greater : ∀ member ∈ sorted, member.1 < first.1 := fun member isMember =>
        (List.pairwise_append.mp ascending).2.2 member isMember first List.mem_cons_self
      rw [List.append_cons] at ascending ⊢
      rw [List.foldl_cons, insertMember_of_greater greater]
      exact inductionHypothesis ascending

theorem sortMembers_eq_self
    {members : List (String × Json)}
    (ascending : Ascending members) :
    sortMembers members = members :=
  foldl_insertMember_of_ascending (List.nil_append members ▸ ascending)

theorem canonicalItems_eq_map (items : List Json) : canonicalItems items = items.map canonical := by
  induction items with
  | nil =>
      rfl
  | cons item rest inductionHypothesis =>
      rw [canonicalItems, inductionHypothesis, List.map_cons]

theorem exists_of_mem_canonicalMembers
    {members : List (String × Json)}
    {member : String × Json}
    (isMember : member ∈ canonicalMembers members) :
    ∃ original ∈ members, original.2.canonical = member.2 := by
  induction members with
  | nil =>
      cases isMember
  | cons first rest inductionHypothesis =>
      obtain ⟨key, value⟩ := first
      rw [canonicalMembers] at isMember
      rcases List.mem_cons.mp isMember with rfl | later
      · exact ⟨_, List.mem_cons_self, rfl⟩
      · obtain ⟨original, isOriginal, same⟩ := inductionHypothesis later
        exact ⟨original, List.mem_cons_of_mem _ isOriginal, same⟩

/-- What a member in dictionary form holds is the dictionary form of a written member. -/
theorem exists_of_mem_sorted
    {members : List (String × Json)}
    {member : String × Json}
    (isMember : member ∈ sortMembers (canonicalMembers members)) :
    ∃ original ∈ members, original.2.canonical = member.2 :=
  exists_of_mem_canonicalMembers (mem_of_mem_sortMembers isMember)

/-- Dictionary form adds no number. -/
theorem numbers_canonical_subset (value : Json) : value.canonical.numbers ⊆ value.numbers := by
  induction value using induct with
  | array items inductionHypothesis =>
      intro number inside
      rw [canonical, canonicalItems_eq_map, numbers, mem_itemNumbers] at inside
      obtain ⟨_, isItem, inside⟩ := inside
      obtain ⟨item, member, rfl⟩ := List.mem_map.mp isItem
      rw [numbers, mem_itemNumbers]
      exact ⟨item, member, inductionHypothesis item member inside⟩
  | object members inductionHypothesis =>
      intro number inside
      rw [canonical, numbers, mem_memberNumbers] at inside
      obtain ⟨member, isMember, inside⟩ := inside
      obtain ⟨original, isOriginal, same⟩ := exists_of_mem_sorted isMember
      rw [← same] at inside
      rw [numbers, mem_memberNumbers]
      exact ⟨original, isOriginal, inductionHypothesis original isOriginal inside⟩
  | _ =>
      rw [canonical]
      exact List.Subset.refl _

/-- Dictionary form nests no deeper. -/
theorem depth_canonical_le (value : Json) : value.canonical.depth ≤ value.depth := by
  induction value using induct with
  | array items inductionHypothesis =>
      rw [canonical, canonicalItems_eq_map, depth, depth, Nat.add_le_add_iff_right,
        itemDepth_le_iff]
      intro _ isItem
      obtain ⟨item, member, rfl⟩ := List.mem_map.mp isItem
      exact (inductionHypothesis item member).trans (itemDepth_le_iff.mp le_rfl item member)
  | object members inductionHypothesis =>
      rw [canonical, depth, depth, Nat.add_le_add_iff_right, memberDepth_le_iff]
      intro member isMember
      obtain ⟨original, isOriginal, same⟩ := exists_of_mem_sorted isMember
      rw [← same]
      exact (inductionHypothesis original isOriginal).trans
        (memberDepth_le_iff.mp le_rfl original isOriginal)
  | _ =>
      rw [canonical]

/-- A value in dictionary form is left as it is. -/
theorem canonical_canonical (value : Json) : value.canonical.canonical = value.canonical := by
  induction value using induct with
  | array items inductionHypothesis =>
      rw [canonical, canonical, canonicalItems_eq_self]
      intro _ isItem
      rw [canonicalItems_eq_map] at isItem
      obtain ⟨item, member, rfl⟩ := List.mem_map.mp isItem
      exact inductionHypothesis item member
  | object members inductionHypothesis =>
      rw [canonical, canonical, canonicalMembers_eq_self,
        sortMembers_eq_self (ascending_sortMembers _)]
      intro member isMember
      obtain ⟨original, isOriginal, same⟩ := exists_of_mem_sorted isMember
      rw [← same]
      exact inductionHypothesis original isOriginal
  | _ =>
      simp only [canonical]

end TierHeap.Json
