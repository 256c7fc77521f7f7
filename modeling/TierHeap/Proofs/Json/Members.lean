import TierHeap.Json.Basic

/-!
# Members in dictionary form

Members are found by the same keys before and after they are put in order
(`Json.lookup_sortMembers`).
-/

namespace TierHeap.Json

theorem lookup_cons
    (key : String)
    (value : Json)
    (members : List (String × Json))
    (wanted : String) :
    ((key, value) :: members).lookup wanted =
      if wanted = key then some value else members.lookup wanted := by
  rw [List.lookup_cons]
  by_cases same : wanted = key
  · rw [if_pos same, beq_iff_eq.mpr same]
  · rw [if_neg same, beq_eq_false_iff_ne.mpr same]

/-- After a member is put in, its key leads to its value, and all else is as before. -/
theorem lookup_insertMember
    (key : String)
    (value : Json)
    (members : List (String × Json))
    (wanted : String) :
    (insertMember key value members).lookup wanted =
      if wanted = key then some value else members.lookup wanted := by
  induction members with
  | nil =>
      exact lookup_cons key value [] wanted
  | cons member rest inductionHypothesis =>
      obtain ⟨other, held⟩ := member
      rw [insertMember]
      split
      · exact lookup_cons key value ((other, held) :: rest) wanted
      · split
        · rename_i same
          rw [lookup_cons, lookup_cons, same]
          split <;> rfl
        · rename_i different
          rw [lookup_cons, lookup_cons, inductionHypothesis]
          by_cases isOther : wanted = other
          · rw [if_pos isOther, if_neg, if_pos isOther]
            exact fun isKey => different (isKey.symm.trans isOther)
          · rw [if_neg isOther, if_neg isOther]

theorem lookup_foldl_insertMember
    {members : List (String × Json)}
    (distinct : (members.map Prod.fst).Nodup)
    (sorted : List (String × Json))
    (wanted : String) :
    (members.foldl (fun sorted member => insertMember member.1 member.2 sorted) sorted).lookup
        wanted =
      (members.lookup wanted).or (sorted.lookup wanted) := by
  induction members generalizing sorted with
  | nil =>
      rfl
  | cons member rest inductionHypothesis =>
      obtain ⟨key, value⟩ := member
      obtain ⟨fresh, distinct⟩ := List.nodup_cons.mp distinct
      rw [List.foldl_cons, inductionHypothesis distinct, lookup_insertMember, lookup_cons]
      by_cases isKey : wanted = key
      · have absent : rest.lookup key = none := by
          rw [List.lookup_eq_none_iff]
          intro other member
          exact bne_iff_ne.mpr fun same => fresh (List.mem_map.mpr ⟨other, member, same.symm⟩)
        simp [isKey, absent]
      · simp [isKey]

/-- Members with different keys are found in dictionary form as they are written. -/
theorem lookup_sortMembers
    {members : List (String × Json)}
    (distinct : (members.map Prod.fst).Nodup)
    (wanted : String) :
    (sortMembers members).lookup wanted = members.lookup wanted := by
  rw [sortMembers, lookup_foldl_insertMember distinct, List.lookup_nil, Option.or_none]

theorem canonicalItems_eq_self
    {items : List Json}
    (canonical : ∀ item ∈ items, item.canonical = item) :
    canonicalItems items = items := by
  induction items with
  | nil =>
      rfl
  | cons item rest inductionHypothesis =>
      obtain ⟨first, others⟩ := List.forall_mem_cons.mp canonical
      rw [canonicalItems, first, inductionHypothesis others]

theorem canonicalMembers_eq_self
    {members : List (String × Json)}
    (canonical : ∀ member ∈ members, member.2.canonical = member.2) :
    canonicalMembers members = members := by
  induction members with
  | nil =>
      rfl
  | cons member rest inductionHypothesis =>
      obtain ⟨first, others⟩ := List.forall_mem_cons.mp canonical
      rw [canonicalMembers, first, inductionHypothesis others]

end TierHeap.Json
