import TierHeap.Json.Printer
import TierHeap.Json.Reader
import TierHeap.Proofs.Json.Tokens

/-!
# Reading written values

A value that is written on one line is read as itself (`Json.read?_compact`), unless it holds
a double, a number that is too large, or too many arrays and objects inside each other.
-/

namespace TierHeap.Json

open Token (AfterValue Readable)

mutual

/-- The value is read as itself with room for so many more open arrays and objects. -/
def Fits : Json → Nat → Prop
  | .array items, room => 0 < room ∧ ItemsFit items (room - 1)
  | .object members, room => 0 < room ∧ MembersFit members (room - 1)
  | .number value, _ => value.Whole
  | .null, _ => True
  | .bool _, _ => True
  | .string _, _ => True

def ItemsFit : List Json → Nat → Prop
  | [], _ => True
  | item :: rest, room => item.Fits room ∧ ItemsFit rest room

def MembersFit : List (String × Json) → Nat → Prop
  | [], _ => True
  | (_, value) :: rest, room => value.Fits room ∧ MembersFit rest room

end

theorem itemsFit_iff
    {items : List Json}
    {room : Nat} :
    ItemsFit items room ↔ ∀ item ∈ items, item.Fits room := by
  induction items with
  | nil =>
      simp [ItemsFit]
  | cons item rest inductionHypothesis =>
      rw [ItemsFit, inductionHypothesis, List.forall_mem_cons]

theorem membersFit_iff
    {members : List (String × Json)}
    {room : Nat} :
    MembersFit members room ↔ ∀ member ∈ members, member.2.Fits room := by
  induction members with
  | nil =>
      simp [MembersFit]
  | cons member rest inductionHypothesis =>
      rw [MembersFit, inductionHypothesis, List.forall_mem_cons]

theorem itemTokens_cons_cons
    (item next : Json)
    (rest : List Json) :
    itemTokens (item :: next :: rest) =
      item.tokens ++ .comma :: itemTokens (next :: rest) := by
  rw [itemTokens]
  simp

theorem memberTokens_cons_cons
    (key : String)
    (value : Json)
    (next : String × Json)
    (rest : List (String × Json)) :
    memberTokens ((key, value) :: next :: rest) =
      .string key :: .colon :: value.tokens ++ .comma :: memberTokens (next :: rest) := by
  rw [memberTokens]
  simp

mutual

/-- A value can be told apart from the mark after it. -/
theorem readable_tokens
    {value : Json}
    {room : Nat}
    (fits : value.Fits room)
    {after : List Token}
    (readable : Readable after)
    (marked : ∀ next ∈ after.head?, next.AfterValue) :
    Readable (value.tokens ++ after) := by
  cases value with
  | number value =>
      rw [Fits] at fits
      rw [tokens]
      exact readable.cons fits marked
  | array items =>
      rw [Fits] at fits
      have ended : Readable (.endArray :: after) := readable.cons_of_ne (by simp)
      have inside := readable_itemTokens fits.2 ended (by simp [AfterValue])
      rw [tokens, List.cons_append, List.cons_append, List.append_assoc]
      exact inside.cons_of_ne (by simp)
  | object members =>
      rw [Fits] at fits
      have ended : Readable (.endObject :: after) := readable.cons_of_ne (by simp)
      have inside := readable_memberTokens fits.2 ended (by simp [AfterValue])
      rw [tokens, List.cons_append, List.cons_append, List.append_assoc]
      exact inside.cons_of_ne (by simp)
  | _ =>
      rw [tokens]
      exact readable.cons_of_ne (by simp)

theorem readable_itemTokens
    {items : List Json}
    {room : Nat}
    (fit : ItemsFit items room)
    {after : List Token}
    (readable : Readable after)
    (marked : ∀ next ∈ after.head?, next.AfterValue) :
    Readable (itemTokens items ++ after) := by
  match items with
  | [] =>
      exact readable
  | [item] =>
      rw [ItemsFit] at fit
      exact readable_tokens fit.1 readable marked
  | item :: next :: rest =>
      rw [ItemsFit] at fit
      have remaining := readable_itemTokens fit.2 readable marked
      have divided : Readable (.comma :: (itemTokens (next :: rest) ++ after)) :=
        remaining.cons_of_ne (by simp)
      rw [itemTokens_cons_cons, List.append_assoc, List.cons_append]
      exact readable_tokens fit.1 divided (by simp [AfterValue])

theorem readable_memberTokens
    {members : List (String × Json)}
    {room : Nat}
    (fit : MembersFit members room)
    {after : List Token}
    (readable : Readable after)
    (marked : ∀ next ∈ after.head?, next.AfterValue) :
    Readable (memberTokens members ++ after) := by
  match members with
  | [] =>
      exact readable
  | [(key, value)] =>
      rw [MembersFit] at fit
      have valued := readable_tokens fit.1 readable marked
      have colon : Readable (.colon :: (value.tokens ++ after)) := valued.cons_of_ne (by simp)
      exact colon.cons_of_ne (by simp)
  | (key, value) :: next :: rest =>
      rw [MembersFit] at fit
      have remaining := readable_memberTokens fit.2 readable marked
      have divided : Readable (.comma :: (memberTokens (next :: rest) ++ after)) :=
        remaining.cons_of_ne (by simp)
      have valued := readable_tokens fit.1 divided (by simp [AfterValue])
      have colon : Readable (.colon ::
          (value.tokens ++ .comma :: (memberTokens (next :: rest) ++ after))) :=
        valued.cons_of_ne (by simp)
      rw [memberTokens_cons_cons, List.append_assoc, List.cons_append]
      exact colon.cons_of_ne (by simp)

end

namespace Reader

theorem run_firstItem
    (stack : List Frame)
    (value : Json)
    (after : List Token) :
    run ⟨stack, .firstItem⟩ (value.tokens ++ after) =
      run ⟨stack, .value⟩ (value.tokens ++ after) := by
  cases value <;> simp [tokens, run, step]

theorem run_firstItem_itemTokens
    (stack : List Frame)
    (item : Json)
    (rest : List Json)
    (after : List Token) :
    run ⟨stack, .firstItem⟩ (itemTokens (item :: rest) ++ after) =
      run ⟨stack, .value⟩ (itemTokens (item :: rest) ++ after) := by
  cases rest with
  | nil =>
      exact run_firstItem stack item after
  | cons next rest =>
      rw [itemTokens_cons_cons, List.append_assoc]
      exact run_firstItem stack item _

theorem run_firstKey_memberTokens
    (stack : List Frame)
    (member : String × Json)
    (rest : List (String × Json))
    (after : List Token) :
    run ⟨stack, .firstKey⟩ (memberTokens (member :: rest) ++ after) =
      run ⟨stack, .key⟩ (memberTokens (member :: rest) ++ after) := by
  cases rest with
  | nil =>
      rfl
  | cons next rest =>
      rw [memberTokens_cons_cons]
      rfl

mutual

/-- A value is read and handed to the innermost open array or object. -/
theorem run_tokens
    {value : Json}
    {room : Nat}
    (fits : value.Fits room)
    (stack : List Frame)
    (depth : stack.length + room ≤ maxDepth)
    (after : List Token) :
    run ⟨stack, .value⟩ (value.tokens ++ after) =
      (deliver stack value).bind fun reader => reader.run after := by
  cases value with
  | array items =>
      rw [Fits] at fits
      -- The open array takes one place on the stack, and its items have one place less.
      have opened : openFrame stack (.array []) .firstItem =
          some ⟨.array [] :: stack, .firstItem⟩ := by
        rw [openFrame, if_pos (by omega)]
      rw [tokens, List.cons_append, List.cons_append, List.append_assoc, run, step, takeValue,
        opened, Option.bind_some]
      cases items with
      | nil =>
          rfl
      | cons item rest =>
          rw [List.singleton_append, run_firstItem_itemTokens]
          exact run_itemTokens fits.2 (by simp) (by omega) [] after
  | object members =>
      rw [Fits] at fits
      have opened : openFrame stack (.object []) .firstKey =
          some ⟨.object [] :: stack, .firstKey⟩ := by
        rw [openFrame, if_pos (by omega)]
      rw [tokens, List.cons_append, List.cons_append, List.append_assoc, run, step, takeValue,
        opened, Option.bind_some]
      cases members with
      | nil =>
          rfl
      | cons member rest =>
          rw [List.singleton_append, run_firstKey_memberTokens]
          exact run_memberTokens fits.2 (by simp) (by omega) [] after
  | _ =>
      rfl

theorem run_itemTokens
    {items : List Json}
    {room : Nat}
    (fit : ItemsFit items room)
    (notEmpty : items ≠ [])
    {stack : List Frame}
    (depth : stack.length + 1 + room ≤ maxDepth)
    (held : List Json)
    (after : List Token) :
    run ⟨.array held :: stack, .value⟩ (itemTokens items ++ .endArray :: after) =
      (deliver stack (.array (held.reverse ++ items))).bind fun reader => reader.run after := by
  match items with
  | [item] =>
      rw [ItemsFit] at fit
      rw [itemTokens, run_tokens fit.1 (.array held :: stack) depth]
      simp [deliver, run, step, takeNext, close]
  | item :: next :: rest =>
      rw [ItemsFit] at fit
      have remaining := run_itemTokens fit.2 (by simp) depth (item :: held) after
      rw [itemTokens_cons_cons, List.append_assoc,
        run_tokens fit.1 (.array held :: stack) depth]
      simpa [deliver, run, step, takeNext] using remaining

theorem run_memberTokens
    {members : List (String × Json)}
    {room : Nat}
    (fit : MembersFit members room)
    (notEmpty : members ≠ [])
    {stack : List Frame}
    (depth : stack.length + 1 + room ≤ maxDepth)
    (held : List (String × Json))
    (after : List Token) :
    run ⟨.object held :: stack, .key⟩ (memberTokens members ++ .endObject :: after) =
      (deliver stack (.object (held.reverse ++ members))).bind
        fun reader => reader.run after := by
  match members with
  | [(key, value)] =>
      rw [MembersFit] at fit
      have valued (following : List Token) :=
        run_tokens fit.1 (.member held key :: stack) depth following
      rw [memberTokens]
      simp [run, step, takeKey, valued, deliver, takeNext, close]
  | (key, value) :: next :: rest =>
      rw [MembersFit] at fit
      have remaining := run_memberTokens fit.2 (by simp) depth ((key, value) :: held) after
      have valued (following : List Token) :=
        run_tokens fit.1 (.member held key :: stack) depth following
      rw [memberTokens_cons_cons]
      simpa [run, step, takeKey, valued, deliver, takeNext] using remaining

end

end Reader

/-- A value that is written on one line is read as itself. -/
theorem read?_compact
    {value : Json}
    (fits : value.Fits Reader.maxDepth) :
    read? value.compact = some value := by
  have readable := readable_tokens fits .nil (by simp)
  have ran := Reader.run_tokens fits [] (by decide) []
  rw [List.append_nil] at readable ran
  rw [read?, compact, String.toList_ofList, readable.scan_flatMap, Option.bind_some, ofTokens?,
    Reader.start, ran]
  rfl

/-- A value that is written on one line has no control, and so no end of a line, in its
text. -/
theorem le_toNat_of_mem_compact
    {value : Json}
    {room : Nat}
    (fits : value.Fits room)
    {c : Char}
    (member : c ∈ value.compact.toList) :
    0x20 ≤ c.toNat := by
  have readable := readable_tokens fits .nil (by simp)
  rw [compact, String.toList_ofList] at member
  obtain ⟨token, isToken, written⟩ := List.mem_flatMap.mp member
  exact Token.le_toNat_of_mem_chars
    (readable.faithful token (List.mem_append_left _ isToken)) written

end TierHeap.Json
