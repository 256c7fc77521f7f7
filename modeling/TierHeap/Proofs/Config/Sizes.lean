import Mathlib.Data.List.DropRight
import TierHeap.Config.Size
import TierHeap.Proofs.Text.Numerals
import TierHeap.Proofs.Word

/-!
# The grammar of sizes

A size is a number, blanks, the letter of a unit and the mark of a byte count, of which only the
number has to be there (`SizeText`).  Reading one gives the exact number of bytes or nothing, and
what can be read at all is of that form.  The reader looks for the letter in the last byte of
the text; that byte is cut off only where it is a character of its own.
-/

namespace TierHeap

def SizeUnit.letters : SizeUnit → List Char
  | .byte => []
  | .kibi => ['k']
  | .mebi => ['m']
  | .gibi => ['g']
  | .tebi => ['t']

def SizeUnit.exponent : SizeUnit → Nat
  | .byte => 0
  | .kibi => 10
  | .mebi => 20
  | .gibi => 30
  | .tebi => 40

theorem SizeUnit.bytes_eq (unit : SizeUnit) : unit.bytes = 2 ^ unit.exponent := by
  cases unit <;> rfl

inductive ByteMark where
  | absent
  | b
  | ib
  deriving DecidableEq, Repr

def ByteMark.chars : ByteMark → List Char
  | .absent => []
  | .b => ['b']
  | .ib => ['i', 'b']

/-- A size as people write it, in its parts. -/
structure SizeText where
  plus : Bool
  digits : List Char
  blanks : List Char
  unit : SizeUnit
  mark : ByteMark
  some_digit : digits ≠ []
  only_digits : ∀ c ∈ digits, c.isDigit = true
  only_blanks : ∀ c ∈ blanks, Text.isBlank c = true

namespace SizeText

variable (text : SizeText)

def number : List Char :=
  (if text.plus then ['+'] else []) ++ text.digits

def stem : List Char :=
  text.number ++ text.blanks

/-- The whole size: the letter follows the blanks, and the mark follows directly. -/
def chars : List Char :=
  text.stem ++ text.unit.letters ++ text.mark.chars

def value : Nat :=
  Nat.ofDigitChars 10 text.digits 0

def amount : Nat :=
  text.value * 2 ^ text.unit.exponent

theorem value_le_amount : text.value ≤ text.amount :=
  Nat.le_mul_of_pos_right _ (Nat.two_pow_pos _)

end SizeText

namespace Text

theorem withoutSuffix?_append
    (cs ending : List Char) :
    withoutSuffix? (cs ++ ending) ending = some cs := by
  rw [withoutSuffix?, if_pos (List.isSuffixOf_iff_suffix.mpr (List.suffix_append cs ending)),
    List.length_append, Nat.add_sub_cancel, List.take_left]

theorem eq_append_of_withoutSuffix?_eq_some
    {cs ending rest : List Char}
    (cut : withoutSuffix? cs ending = some rest) :
    cs = rest ++ ending := by
  rw [withoutSuffix?] at cut
  split at cut
  · rename_i ends
    obtain ⟨front, rfl⟩ := List.isSuffixOf_iff_suffix.mp ends
    rw [List.length_append, Nat.add_sub_cancel, List.take_left] at cut
    rw [Option.some.inj cut]
  · cases cut

/-- A text does not have an ending whose last character is another one. -/
theorem withoutSuffix?_eq_none_of_last_ne
    {cs ending : List Char}
    {c last : Char}
    (other : c ≠ last) :
    withoutSuffix? (cs ++ [c]) (ending ++ [last]) = none := by
  cases cut : withoutSuffix? (cs ++ [c]) (ending ++ [last]) with
  | none =>
      rfl
  | some rest =>
      have same := eq_append_of_withoutSuffix?_eq_some cut
      rw [← List.append_assoc] at same
      exact absurd (List.append_inj_right' same rfl) (by simpa using other)

theorem trimChars_eq
    {front blanks : List Char}
    {c : Char}
    (first : ∀ d ∈ (front ++ [c]).head?, isBlank d = false)
    (last : isBlank c = false)
    (onlyBlanks : ∀ d ∈ blanks, isBlank d = true) :
    trimChars (front ++ [c] ++ blanks) = front ++ [c] := by
  have noneBefore : (front ++ [c] ++ blanks).dropWhile isBlank = front ++ [c] ++ blanks := by
    cases front with
    | nil =>
        exact List.dropWhile_cons_of_neg (by simp [last])
    | cons d front =>
        exact List.dropWhile_cons_of_neg (by simp [first d rfl])
  rw [trimChars, noneBefore, List.reverse_append,
    List.dropWhile_append_of_pos (by simpa using onlyBlanks), List.reverse_concat,
    List.dropWhile_cons_of_neg (by simp [last]), ← List.reverse_concat, List.reverse_reverse]

/-- What trimming removes are blanks. -/
theorem exists_blanks_trimChars (cs : List Char) :
    ∃ before after, cs = before ++ trimChars cs ++ after ∧
      (∀ c ∈ before, isBlank c = true) ∧ ∀ c ∈ after, isBlank c = true := by
  refine ⟨cs.takeWhile isBlank, ((cs.dropWhile isBlank).reverse.takeWhile isBlank).reverse,
    ?_, fun c member => List.mem_takeWhile_imp member,
    fun c member => List.mem_takeWhile_imp (List.mem_reverse.mp member)⟩
  rw [trimChars, List.append_assoc, ← List.reverse_append, List.takeWhile_append_dropWhile,
    List.reverse_reverse, List.takeWhile_append_dropWhile]

theorem isBlank_head?_trimChars
    {cs : List Char}
    {c : Char}
    (first : c ∈ (trimChars cs).head?) :
    isBlank c = false := by
  have before := List.head?_dropWhile_not isBlank cs
  obtain ⟨after, same⟩ := List.rdropWhile_prefix isBlank (cs.dropWhile isBlank)
  have rest : (cs.dropWhile isBlank).head? = some c := by
    rw [← same, List.head?_append, show List.rdropWhile isBlank (cs.dropWhile isBlank) =
      trimChars cs from rfl, first]
    rfl
  rwa [rest] at before

/-- Neither a capital letter nor its lower-case form is a blank. -/
theorem isBlank_toLower (c : Char) : isBlank c.toLower = isBlank c := by
  unfold Char.toLower
  split
  · rename_i capital
    obtain ⟨low, high⟩ := capital
    rw [ge_iff_le, UInt32.le_iff_toNat_le, show 'A'.val.toNat = 65 from rfl] at low
    rw [UInt32.le_iff_toNat_le, show 'Z'.val.toNat = 90 from rfl] at high
    have lower : (c.val + ('a'.val - 'A'.val)).toNat = c.val.toNat + 32 := by
      rw [UInt32.toNat_add, show ('a'.val - 'A'.val).toNat = 32 from rfl]
      omega
    simp only [isBlank, blankCodes, Char.toNat, lower, List.any_cons, List.any_nil,
      Bool.or_false]
    rw [Bool.eq_iff_iff]
    simp only [Bool.or_eq_true, Bool.and_eq_true, decide_eq_true_eq]
    omega
  · rfl

end Text

namespace SizeText

variable (text : SizeText)

/-- A character that cannot be taken for a part of the unit or of the mark. -/
theorem plain_of_isDigit_or_isBlank
    {c : Char}
    (plain : c.isDigit = true ∨ Text.isBlank c = true) :
    c ≠ 'i' ∧ c ≠ 'b' ∧ SizeUnit.ofLetter? c = none := by
  have other {letter : Char}
      (noDigit : letter.isDigit = false)
      (noBlank : Text.isBlank letter = false) : c ≠ letter := by
    rintro rfl
    rw [noDigit, noBlank] at plain
    rcases plain with impossible | impossible <;> cases impossible
  refine ⟨other (by decide) (by decide), other (by decide) (by decide), ?_⟩
  rw [SizeUnit.ofLetter?, if_neg (other (by decide) (by decide)),
    if_neg (other (by decide) (by decide)), if_neg (other (by decide) (by decide)),
    if_neg (other (by decide) (by decide))]

theorem exists_number :
    ∃ front c, text.number = front ++ [c] ∧ c.isDigit = true := by
  obtain ⟨front, c, last⟩ :=
    (List.eq_nil_or_concat' text.digits).resolve_left text.some_digit
  refine ⟨(if text.plus then ['+'] else []) ++ front, c, ?_, text.only_digits c ?_⟩
  · rw [number, last, List.append_assoc]
  · rw [last]
    simp

theorem exists_stem :
    ∃ front c, text.stem = front ++ [c] ∧ (c.isDigit = true ∨ Text.isBlank c = true) := by
  rcases List.eq_nil_or_concat' text.blanks with none | ⟨front, c, last⟩
  · obtain ⟨front, c, number, digit⟩ := text.exists_number
    exact ⟨front, c, by rw [stem, number, none, List.append_nil], .inl digit⟩
  · refine ⟨text.number ++ front, c, by rw [stem, last, List.append_assoc], .inr ?_⟩
    exact text.only_blanks c (by rw [last]; simp)

theorem isBlank_eq_false_of_isDigit
    {c : Char}
    (digit : c.isDigit = true) :
    Text.isBlank c = false := by
  obtain ⟨low, high⟩ := Char.isDigit_iff_toNat.mp digit
  rw [show '0'.toNat = 48 from rfl, show '9'.toNat = 57 from rfl] at *
  simp [Text.isBlank, Text.blankCodes]
  omega

theorem isBlank_head?_number
    {c : Char}
    (first : c ∈ text.number.head?) :
    Text.isBlank c = false := by
  rw [number] at first
  split at first
  · cases first
    decide
  · exact isBlank_eq_false_of_isDigit (text.only_digits c (List.mem_of_mem_head? first))

theorem trimChars_stem : Text.trimChars text.stem = text.number := by
  obtain ⟨front, c, number, digit⟩ := text.exists_number
  have first : ∀ d ∈ (front ++ [c]).head?, Text.isBlank d = false :=
    fun d head => text.isBlank_head?_number (number ▸ head)
  rw [stem, number]
  exact Text.trimChars_eq first (isBlank_eq_false_of_isDigit digit) text.only_blanks

theorem numeral?_number :
    Text.numeral? Word.bound text.number =
      if text.value < Word.bound then some text.value else none := by
  have digits : Text.digits? Word.bound text.digits =
      if text.value < Word.bound then some text.value else none := by
    have onlyDigits : text.digits.all Char.isDigit = true :=
      List.all_eq_true.mpr text.only_digits
    rw [Text.digits?, Text.digitsValue_eq_ofDigitChars, value]
    simp only [ne_eq, text.some_digit, not_false_eq_true, onlyDigits, true_and]
  rw [number]
  split
  · exact digits
  · rw [List.nil_append]
    unfold Text.numeral?
    split
    · rename_i signed
      have sign := text.only_digits '+' (signed ▸ List.mem_cons_self)
      cases sign
    · exact digits

theorem dropByteMark_chars :
    Size.dropByteMark text.chars = text.stem ++ text.unit.letters := by
  obtain ⟨front, c, base, noI, noB⟩ :
      ∃ front c, text.stem ++ text.unit.letters = front ++ [c] ∧ c ≠ 'i' ∧ c ≠ 'b' := by
    cases unit : text.unit with
    | byte =>
        obtain ⟨front, c, stem, plain⟩ := text.exists_stem
        have ⟨noI, noB, _⟩ := plain_of_isDigit_or_isBlank plain
        exact ⟨front, c, by rw [stem, SizeUnit.letters, List.append_nil], noI, noB⟩
    | kibi => exact ⟨text.stem, 'k', rfl, by decide, by decide⟩
    | mebi => exact ⟨text.stem, 'm', rfl, by decide, by decide⟩
    | gibi => exact ⟨text.stem, 'g', rfl, by decide, by decide⟩
    | tebi => exact ⟨text.stem, 't', rfl, by decide, by decide⟩
  have unmarked (ending : List Char) :
      Text.withoutSuffix? (front ++ [c]) (ending ++ ['b']) = none :=
    Text.withoutSuffix?_eq_none_of_last_ne noB
  rw [chars, base, Size.dropByteMark]
  cases text.mark with
  | absent =>
      have noIb : Text.withoutSuffix? (front ++ [c]) ['i', 'b'] = none := unmarked ['i']
      have noB : Text.withoutSuffix? (front ++ [c]) ['b'] = none := unmarked []
      rw [ByteMark.chars, List.append_nil, noIb]
      dsimp only
      rw [noB]
      rfl
  | b =>
      have notIb : Text.withoutSuffix? (front ++ [c] ++ ['b']) ['i', 'b'] = none := by
        cases cut : Text.withoutSuffix? (front ++ [c] ++ ['b']) ['i', 'b'] with
        | none =>
            rfl
        | some rest =>
            have same := Text.eq_append_of_withoutSuffix?_eq_some cut
            rw [List.append_assoc] at same
            exact absurd (List.head_eq_of_cons_eq (List.append_inj_right' same rfl)) noI
      rw [ByteMark.chars, notIb]
      dsimp only
      rw [Text.withoutSuffix?_append]
      rfl
  | ib =>
      rw [ByteMark.chars, Text.withoutSuffix?_append]

theorem splitUnit_stem :
    Size.splitUnit (text.stem ++ text.unit.letters) = (text.stem, text.unit) := by
  have lettered {letter : Char} {unit : SizeUnit} (known : SizeUnit.ofLetter? letter = some unit) :
      Size.splitUnit (text.stem ++ [letter]) = (text.stem, unit) := by
    rw [Size.splitUnit, List.getLast?_concat, Option.bind_some, known]
    dsimp only
    rw [List.dropLast_concat]
  cases text.unit with
  | byte =>
      obtain ⟨front, c, stem, plain⟩ := text.exists_stem
      rw [SizeUnit.letters, List.append_nil, Size.splitUnit, stem, List.getLast?_concat,
        Option.bind_some, (plain_of_isDigit_or_isBlank plain).2.2]
  | kibi => exact lettered (by decide)
  | mebi => exact lettered (by decide)
  | gibi => exact lettered (by decide)
  | tebi => exact lettered (by decide)

/-- A size is read exactly, or refused when its bytes are no word. -/
theorem ofChars?_chars :
    Size.ofChars? text.chars = if text.amount < Word.bound then some text.amount else none := by
  have small := text.value_le_amount
  rw [Size.ofChars?, dropByteMark_chars, splitUnit_stem]
  dsimp only
  rw [trimChars_stem, numeral?_number, SizeUnit.bytes_eq]
  split
  · rfl
  · rw [if_neg (by omega)]
    rfl

end SizeText

namespace Size

theorem exists_mark (cs : List Char) :
    ∃ mark : ByteMark, cs = dropByteMark cs ++ mark.chars := by
  rw [dropByteMark]
  split
  · rename_i rest cut
    exact ⟨.ib, Text.eq_append_of_withoutSuffix?_eq_some cut⟩
  · cases cut : Text.withoutSuffix? cs ['b'] with
    | none =>
        exact ⟨.absent, (List.append_nil cs).symm⟩
    | some rest =>
        exact ⟨.b, Text.eq_append_of_withoutSuffix?_eq_some cut⟩

theorem letters_of_ofLetter?
    {letter : Char}
    {unit : SizeUnit}
    (known : SizeUnit.ofLetter? letter = some unit) :
    unit.letters = [letter] := by
  rw [SizeUnit.ofLetter?] at known
  split_ifs at known <;> (cases known; simp_all [SizeUnit.letters])

theorem splitUnit_append (cs : List Char) :
    (splitUnit cs).1 ++ (splitUnit cs).2.letters = cs := by
  rw [splitUnit]
  split
  · rename_i unit known
    obtain ⟨letter, last, isLetter⟩ := Option.bind_eq_some_iff.mp known
    rw [letters_of_ofLetter? isLetter, List.dropLast_append_getLast? letter last]
  · exact List.append_nil cs

theorem exists_number
    {cs : List Char}
    {count : Nat}
    (read : Text.numeral? Word.bound cs = some count) :
    ∃ (plus : Bool) (digits : List Char), cs = (if plus then ['+'] else []) ++ digits ∧
      digits ≠ [] ∧ ∀ c ∈ digits, c.isDigit = true := by
  have proper {digits : List Char} (read : Text.digits? Word.bound digits = some count) :
      digits ≠ [] ∧ ∀ c ∈ digits, c.isDigit = true := by
    rw [Text.digits?] at read
    split at read
    · rename_i accepted
      exact ⟨accepted.1, List.all_eq_true.mp accepted.2.1⟩
    · cases read
  unfold Text.numeral? at read
  split at read
  · rename_i digits
    exact ⟨true, digits, rfl, proper read⟩
  · exact ⟨false, cs, rfl, proper read⟩

/-- What is read from a text that does not start with a blank is a size. -/
theorem exists_sizeText
    {cs : List Char}
    {n : Nat}
    (first : ∀ c ∈ cs.head?, Text.isBlank c = false)
    (read : ofChars? cs = some n) :
    ∃ text : SizeText, text.chars = cs := by
  obtain ⟨mark, marked⟩ := exists_mark cs
  have lettered := splitUnit_append (dropByteMark cs)
  rw [ofChars?] at read
  generalize splitUnit (dropByteMark cs) = split at lettered read
  obtain ⟨body, unit⟩ := split
  dsimp only at lettered read
  obtain ⟨count, read, -⟩ := Option.bind_eq_some_iff.mp read
  obtain ⟨plus, digits, number, someDigit, onlyDigits⟩ := exists_number read
  obtain ⟨before, after, trimmed, beforeBlank, afterBlank⟩ := Text.exists_blanks_trimChars body
  have noneBefore : before = [] := by
    cases before with
    | nil =>
        rfl
    | cons c before =>
        have head : cs.head? = some c := by
          rw [marked, ← lettered, trimmed]
          rfl
        have blank := beforeBlank c List.mem_cons_self
        rw [first c head] at blank
        cases blank
  refine ⟨⟨plus, digits, after, unit, mark, someDigit, onlyDigits, afterBlank⟩, ?_⟩
  rw [noneBefore, List.nil_append, number] at trimmed
  rw [SizeText.chars, SizeText.stem, SizeText.number, ← trimmed, lettered, ← marked]

end Size

/-! ## Sizes by their bytes -/

namespace Text

def encoded (cs : List Char) : List UInt8 :=
  cs.flatMap String.utf8EncodeChar

/-- The text in front of a byte offset, unless the offset falls inside a character or behind
the end. -/
def cut? : List Char → Nat → Option (List Char)
  | _, 0 => some []
  | [], _ + 1 => none
  | c :: cs, offset + 1 =>
      if offset + 1 < c.utf8Size then none
      else (cut? cs (offset + 1 - c.utf8Size)).map (c :: ·)

theorem cut?_append
    (cs rest : List Char) :
    cut? (cs ++ rest) (encoded cs).length = some cs := by
  induction cs with
  | nil =>
      cases rest <;> rfl
  | cons c cs inductionHypothesis =>
      have size := c.utf8Size_pos
      have length : (encoded (c :: cs)).length = c.utf8Size + (encoded cs).length := by
        rw [encoded, List.flatMap_cons, List.length_append, String.length_utf8EncodeChar]
        rfl
      obtain ⟨offset, offset_eq⟩ : ∃ offset, (encoded (c :: cs)).length = offset + 1 :=
        Nat.exists_eq_succ_of_ne_zero (by omega)
      rw [List.cons_append, offset_eq, cut?, if_neg (by omega), ← offset_eq, length,
        Nat.add_sub_cancel_left, inductionHypothesis]
      rfl

/-- A character of several bytes does not end with the byte of an ASCII character. -/
theorem getLast?_utf8EncodeChar
    {c : Char}
    {byte : UInt8}
    (last : (String.utf8EncodeChar c).getLast? = some byte) :
    c.utf8Size = 1 ∧ byte = c.val.toUInt8 ∨ c.utf8Size ≠ 1 ∧ 128 ≤ byte.toNat := by
  by_cases single : c.utf8Size = 1
  · rw [String.utf8EncodeChar_eq_singleton single] at last
    exact .inl ⟨single, (Option.some.inj last).symm⟩
  · have wide : ¬c.val.toNat ≤ 127 := by
      intro small
      exact single (Char.utf8Size_eq_one_iff.mpr small)
    have continued : byte = UInt8.ofNat (c.val.toNat % 64 + 128) := by
      unfold String.utf8EncodeChar at last
      dsimp only at last
      rw [if_neg wide] at last
      split_ifs at last <;> exact (Option.some.inj last).symm
    rw [continued, UInt8.toNat_ofNat']
    exact .inr ⟨single, by omega⟩

end Text

namespace Size

def unitOfByte? (byte : UInt8) : Option SizeUnit :=
  if byte = 'k'.toUInt8 then some .kibi
  else if byte = 'm'.toUInt8 then some .mebi
  else if byte = 'g'.toUInt8 then some .gibi
  else if byte = 't'.toUInt8 then some .tebi
  else none

/-- Split off the last byte if it is the letter of a unit, unless the rest is no text. -/
def splitLastByte? (cs : List Char) : Option (List Char × SizeUnit) :=
  match (Text.encoded cs).getLast?.bind unitOfByte? with
  | some unit => (Text.cut? cs ((Text.encoded cs).length - 1)).map fun body => (body, unit)
  | none => some (cs, .byte)

theorem unitOfByte?_ascii
    {c : Char}
    (single : c.utf8Size = 1) :
    unitOfByte? c.val.toUInt8 = SizeUnit.ofLetter? c := by
  have small := UInt32.le_iff_toNat_le.mp (Char.utf8Size_eq_one_iff.mp single)
  have same (letter : Char) (ascii : letter.toNat ≤ 127) :
      c.val.toUInt8 = letter.toUInt8 ↔ c = letter := by
    constructor
    · intro bytes
      have codes : c.toNat % 256 = letter.toNat % 256 := congrArg UInt8.toNat bytes
      change c.toNat ≤ 127 at small
      exact Char.toNat_inj.mp (by omega)
    · rintro rfl
      rfl
  rw [unitOfByte?, SizeUnit.ofLetter?]
  simp only [same 'k' (by decide), same 'm' (by decide), same 'g' (by decide),
    same 't' (by decide)]

theorem unitOfByte?_wide
    {byte : UInt8}
    (wide : 128 ≤ byte.toNat) :
    unitOfByte? byte = none := by
  have other (letter : Char) (ascii : letter.toUInt8.toNat < 128) : byte ≠ letter.toUInt8 := by
    rintro rfl
    omega
  rw [unitOfByte?, if_neg (other 'k' (by decide)), if_neg (other 'm' (by decide)),
    if_neg (other 'g' (by decide)), if_neg (other 't' (by decide))]

theorem ofLetter?_wide
    {c : Char}
    (several : c.utf8Size ≠ 1) :
    SizeUnit.ofLetter? c = none := by
  have other (letter : Char) (ascii : letter.utf8Size = 1) : c ≠ letter := by
    rintro rfl
    exact several ascii
  rw [SizeUnit.ofLetter?, if_neg (other 'k' (by decide)), if_neg (other 'm' (by decide)),
    if_neg (other 'g' (by decide)), if_neg (other 't' (by decide))]

/-- The last byte tells the unit as the last character does, and it is never cut out of a
longer character. -/
theorem splitLastByte?_eq (cs : List Char) : splitLastByte? cs = some (splitUnit cs) := by
  rcases List.eq_nil_or_concat' cs with rfl | ⟨front, c, rfl⟩
  · rfl
  · have encoding :
        Text.encoded (front ++ [c]) = Text.encoded front ++ String.utf8EncodeChar c := by
      rw [Text.encoded, List.flatMap_append, List.flatMap_singleton]
      rfl
    obtain ⟨byte, last⟩ : ∃ byte, (String.utf8EncodeChar c).getLast? = some byte := by
      have length := String.length_utf8EncodeChar c
      have size := c.utf8Size_pos
      exact Option.isSome_iff_exists.mp
        (List.getLast?_isSome.mpr (List.ne_nil_of_length_pos (by omega)))
    have lastByte : (Text.encoded (front ++ [c])).getLast? = some byte := by
      rw [encoding, List.getLast?_append, last]
      rfl
    rw [splitLastByte?, splitUnit, lastByte, List.getLast?_concat, Option.bind_some,
      Option.bind_some]
    rcases Text.getLast?_utf8EncodeChar last with ⟨single, rfl⟩ | ⟨several, wide⟩
    · rw [unitOfByte?_ascii single]
      cases SizeUnit.ofLetter? c with
      | none =>
          rfl
      | some unit =>
          have length : (Text.encoded (front ++ [c])).length - 1 = (Text.encoded front).length := by
            rw [encoding, List.length_append, String.length_utf8EncodeChar, single,
              Nat.add_sub_cancel]
          dsimp only
          rw [length, Text.cut?_append, List.dropLast_concat]
          rfl
    · rw [unitOfByte?_wide wide, ofLetter?_wide several]

/-- Read a size that is trimmed and in lower case, by its last byte.  Without a result a slice
of the text would fall inside a character. -/
def ofBytes? (cs : List Char) : Option (Option Nat) :=
  (splitLastByte? (dropByteMark cs)).map fun (digits, unit) =>
    (Text.numeral? Word.bound (Text.trimChars digits)).bind fun count =>
      Word.mulChecked? count unit.bytes

theorem ofBytes?_eq (cs : List Char) : ofBytes? cs = some (ofChars? cs) := by
  rw [ofBytes?, splitLastByte?_eq]
  rfl

end Size

/-- Read a size as people write it, by its last byte. -/
def parseSizeByBytes? (s : String) : Option (Option Nat) :=
  Size.ofBytes? (Text.asciiLower (Text.trimChars s.toList))

theorem isBlank_head?_asciiLower_trimChars
    {cs : List Char}
    {c : Char}
    (first : c ∈ (Text.asciiLower (Text.trimChars cs)).head?) :
    Text.isBlank c = false := by
  rw [Text.asciiLower, List.head?_map] at first
  obtain ⟨d, head, rfl⟩ := Option.map_eq_some_iff.mp first
  rw [Text.isBlank_toLower]
  exact Text.isBlank_head?_trimChars head

/-- A text is a size exactly if, trimmed and in lower case, it has the form of one and its
bytes are a word, and then it is read as just these bytes.  Whatever the text, the slice that
takes the unit off ends between two characters. -/
theorem parseSize?_reads_exactly
    (s : String) :
    (∀ n, parseSize? s = some n ↔
      ∃ text : SizeText, text.chars = Text.asciiLower (Text.trimChars s.toList) ∧
        text.value < Word.bound ∧ text.amount < Word.bound ∧ n = text.amount) ∧
    (∀ text : SizeText, text.chars = Text.asciiLower (Text.trimChars s.toList) →
      Word.bound ≤ text.amount → parseSize? s = none) ∧
    parseSizeByBytes? s = some (parseSize? s) := by
  refine ⟨fun n => ⟨fun read => ?_, ?_⟩, fun text written large => ?_, Size.ofBytes?_eq _⟩
  · obtain ⟨text, written⟩ :=
      Size.exists_sizeText (fun _ => isBlank_head?_asciiLower_trimChars) read
    rw [parseSize?, ← written, text.ofChars?_chars] at read
    split at read
    · rename_i small
      exact ⟨text, written, Nat.lt_of_le_of_lt text.value_le_amount small, small,
        (Option.some.inj read).symm⟩
    · cases read
  · rintro ⟨text, written, -, small, rfl⟩
    rw [parseSize?, ← written, text.ofChars?_chars, if_pos small]
  · rw [parseSize?, ← written, text.ofChars?_chars, if_neg (Nat.not_lt.mpr large)]

/-- Two to the 64 bytes, written in the largest unit, are refused. -/
theorem parseSize?_reads_exactly_too_large :
    parseSize? " +16777216 TiB" = none ∧ parseSize? "16777215 T" = some 18446742974197923840 := by
  constructor
  · exact (parseSize?_reads_exactly " +16777216 TiB").2.1
      ⟨true, "16777216".toList, [' '], .tebi, .ib, by decide, List.all_eq_true.mp (by decide),
        List.all_eq_true.mp (by decide)⟩
      (by decide) (by decide)
  · exact ((parseSize?_reads_exactly "16777215 T").1 18446742974197923840).mpr
      ⟨⟨false, "16777215".toList, [' '], .tebi, .absent, by decide,
          List.all_eq_true.mp (by decide), List.all_eq_true.mp (by decide)⟩,
        by decide, by decide, by decide, by decide⟩

end TierHeap
