import TierHeap.Proofs.Journal.Entries

/-!
# Files of entries

A text with the line of one entry after the other has just these lines
(`splitLines_journalText`), and if the entries follow the rules of a journal, no fault is found
in it (`checkText_journalText`).
-/

namespace TierHeap.Journal

def journalText (entries : List Entry) : String :=
  String.ofList (entries.flatMap fun entry => entry.line.toList ++ ['\n'])

theorem journalText_append
    (first second : List Entry) :
    journalText (first ++ second) = journalText first ++ journalText second := by
  rw [journalText, List.flatMap_append, String.ofList_append]
  rfl

theorem withoutReturn_eq_self
    {line : List Char}
    (noReturn : '\r' ∉ line) :
    withoutReturn line = line := by
  rw [withoutReturn, Text.withoutSuffix?, if_neg]
  · rfl
  · rw [List.isSuffixOf_iff_suffix]
    exact fun isEnd => noReturn (isEnd.subset (List.mem_singleton_self _))

theorem splitOn_flatMap
    {lines : List (List Char)}
    (noNewline : ∀ line ∈ lines, '\n' ∉ line) :
    (lines.flatMap fun line => line ++ ['\n']).splitOn '\n' = lines ++ [[]] := by
  induction lines with
  | nil =>
      rfl
  | cons line rest inductionHypothesis =>
      obtain ⟨first, others⟩ := List.forall_mem_cons.mp noNewline
      rw [List.flatMap_cons, List.append_assoc, List.singleton_append,
        List.splitOn_append_cons_self_of_not_mem first, inductionHypothesis others]
      rfl

/-- Lines without an end of a line inside are split up at their ends. -/
theorem splitLines_flatMap
    {lines : List (List Char)}
    (noNewline : ∀ line ∈ lines, '\n' ∉ line)
    (noReturn : ∀ line ∈ lines, '\r' ∉ line) :
    splitLines (lines.flatMap fun line => line ++ ['\n']) = lines := by
  have ended : lines.map withoutReturn = lines := by
    rw [List.map_congr_left fun line member => withoutReturn_eq_self (noReturn line member),
      List.map_id']
  simp [splitLines, splitOn_flatMap noNewline, ended]

namespace Entry

/-- A line starts and ends with a brace. -/
theorem exists_line (entry : Entry) :
    ∃ inside, entry.line.toList = '{' :: inside ++ ['}'] := by
  refine ⟨(Json.memberTokens entry.members).flatMap Json.Token.chars, ?_⟩
  simp [line, toJson, Json.compact, Json.tokens, Json.Token.chars]

/-- So nothing is trimmed from it. -/
theorem trimChars_line (entry : Entry) : Text.trimChars entry.line.toList = entry.line.toList := by
  obtain ⟨inside, braced⟩ := entry.exists_line
  have noBlank : Text.isBlank '{' = false ∧ Text.isBlank '}' = false := by decide
  rw [braced, Text.trimChars, List.cons_append, List.dropWhile_cons_of_neg (by simp [noBlank]),
    List.reverse_cons, List.reverse_append, List.reverse_singleton, List.singleton_append,
    List.cons_append, List.dropWhile_cons_of_neg (by simp [noBlank])]
  simp

/-- A file that goes on with the line of a proper entry has one more line, and no more
faults. -/
theorem Proper.checkLine_report
    {entry : Entry}
    (proper : entry.Proper)
    (report : Report)
    (number : Nat) :
    report.checkLine number entry.line.toList = ⟨report.lines + 1, report.faults⟩ := by
  obtain ⟨inside, braced⟩ := entry.exists_line
  rw [Report.checkLine, entry.trimChars_line]
  split
  · rename_i empty
    rw [braced] at empty
    cases empty
  · rw [String.ofList_toList, proper.checkLine_line]
    simp

end Entry

section Entries

variable {entries : List Entry}

theorem splitLines_journalText (proper : ∀ entry ∈ entries, entry.Proper) :
    splitLines (journalText entries).toList = entries.map fun entry => entry.line.toList := by
  have printed {line : List Char} (isLine : line ∈ entries.map fun entry => entry.line.toList)
      {c : Char} (member : c ∈ line) : 0x20 ≤ c.toNat := by
    obtain ⟨entry, isEntry, rfl⟩ := List.mem_map.mp isLine
    exact Json.le_toNat_of_mem_compact (proper entry isEntry).fits member
  have split := splitLines_flatMap
    (fun line isLine newline => absurd (printed isLine newline) (by decide))
    (fun line isLine isReturn => absurd (printed isLine isReturn) (by decide))
  rw [List.flatMap_map] at split
  rwa [journalText, String.toList_ofList]

/-- No fault is found in proper entries, and each is one line. -/
theorem checkText_journalText (proper : ∀ entry ∈ entries, entry.Proper) :
    checkText (journalText entries) = ⟨entries.length, []⟩ := by
  have counted (report : Report) (number : Nat) :
      ((entries.map fun entry => entry.line.toList).zipIdx number).foldl
          (fun report numbered => report.checkLine numbered.2 numbered.1) report =
        ⟨report.lines + entries.length, report.faults⟩ := by
    induction entries generalizing report number with
    | nil =>
        rfl
    | cons entry rest inductionHypothesis =>
        obtain ⟨first, others⟩ := List.forall_mem_cons.mp proper
        rw [List.map_cons, List.zipIdx_cons, List.foldl_cons, inductionHypothesis others,
          first.checkLine_report, List.length_cons, Nat.add_right_comm, Nat.add_assoc]
  rw [checkText, splitLines_journalText proper]
  exact (counted ⟨0, []⟩ 1).trans (by rw [Nat.zero_add])

/-- The same holds for the file as bytes. -/
theorem checkBytes?_toByteArray (text : String) :
    checkBytes? text.toByteArray.data.toList = some (checkText text) := by
  have read : String.fromUTF8? text.toByteArray = some text := by
    rw [String.fromUTF8?, dif_pos text.isValidUTF8]
    rfl
  rw [checkBytes?, Array.toArray_toList]
  exact congrArg (Option.map checkText) read

end Entries

end TierHeap.Journal
