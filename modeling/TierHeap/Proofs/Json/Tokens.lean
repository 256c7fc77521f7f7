import Mathlib.Data.List.Chain
import Mathlib.Tactic.SplitIfs
import TierHeap.Json.Token
import TierHeap.Proofs.Text.Numerals

/-!
# Scanning written tokens

Tokens that are written one after the other are split up into the same tokens again
(`Token.Readable.scan_flatMap`), if a number is followed by a mark: its digits would otherwise run
into what comes next.  Only whole numbers are considered, not doubles.
-/

namespace TierHeap

/-- A whole number that keeps its value when it is read: a word, or the negative of a positive
number up to `2 ^ 63`. -/
def JsonNumber.Whole : JsonNumber → Prop
  | .natural n => n < Word.bound
  | .negative size => 0 < size ∧ size ≤ Nat.pow 2 63
  | .double _ => False

namespace Json.Token

theorem takeString?_unicode
    {a b c d : Char}
    {unit : Nat}
    (value : hexQuad? a b c d = some unit)
    (scalar : isScalar unit = true)
    (rest : List Char) :
    takeString? ('\\' :: 'u' :: a :: b :: c :: d :: rest) =
      (takeString? rest).map fun (text, left) => (Char.ofNat unit :: text, left) := by
  -- An escape is also tried as the first half of a pair; a scalar value is none.
  rw [takeString?.eq_def]
  split <;> grind

theorem takeString?_short
    {c escaped : Char}
    (value : shortEscape? c = some escaped)
    (rest : List Char) :
    takeString? ('\\' :: c :: rest) =
      (takeString? rest).map fun (text, left) => (escaped :: text, left) := by
  have different : c ≠ 'u' := by
    rintro rfl
    cases value
  rw [takeString?.eq_def]
  split <;> grind

theorem takeString?_plain
    {c : Char}
    (noQuote : c ≠ '"')
    (noEscape : c ≠ '\\')
    (noControl : ¬c.toNat < 0x20)
    (rest : List Char) :
    takeString? (c :: rest) =
      (takeString? rest).map fun (text, left) => (c :: text, left) := by
  rw [takeString?.eq_def]
  split <;> grind

/-- The four digits of a control. -/
theorem zeroPad_control :
    ∀ code < 0x20,
      Text.zeroPad 4 (Nat.toDigits 16 code) =
          ['0', '0', Nat.digitChar (code / 16), Nat.digitChar (code % 16)] ∧
        hexQuad? '0' '0' (Nat.digitChar (code / 16)) (Nat.digitChar (code % 16)) = some code := by
  decide

/-- However a character is written inside a string, it is read as itself. -/
theorem takeString?_stringChar
    (c : Char)
    (rest : List Char) :
    takeString? (stringChar c ++ rest) =
      (takeString? rest).map fun (text, left) => (c :: text, left) := by
  have isCode {code : Nat} (same : c.toNat = code) : c = Char.ofNat code := by
    rw [← same, Char.ofNat_toNat]
  unfold stringChar
  split_ifs with isQuote isEscape isBackspace isFormFeed isNewline isReturn isTab isControl
  · exact takeString?_short (by rw [isQuote]; rfl) rest
  · exact takeString?_short (by rw [isEscape]; rfl) rest
  · exact takeString?_short (by rw [isCode isBackspace]; rfl) rest
  · exact takeString?_short (by rw [isCode isFormFeed]; rfl) rest
  · exact takeString?_short (by rw [isNewline]; rfl) rest
  · exact takeString?_short (by rw [isReturn]; rfl) rest
  · exact takeString?_short (by rw [isTab]; rfl) rest
  · obtain ⟨digits, value⟩ := zeroPad_control c.toNat isControl
    have scalar : isScalar c.toNat = true := by
      simp only [isScalar, Bool.or_eq_true, decide_eq_true_eq]
      omega
    have read := takeString?_unicode value scalar rest
    rw [Char.ofNat_toNat] at read
    rw [digits]
    exact read
  · exact takeString?_plain isQuote isEscape isControl rest

/-- A written string is read up to its closing quote. -/
theorem takeString?_flatMap
    (text rest : List Char) :
    takeString? (text.flatMap stringChar ++ '"' :: rest) = some (text, rest) := by
  induction text with
  | nil =>
      rw [List.flatMap_nil, List.nil_append, takeString?]
  | cons c text inductionHypothesis =>
      rw [List.flatMap_cons, List.append_assoc, takeString?_stringChar, inductionHypothesis]
      rfl

/-- What may follow a number: anything that is no part of it. -/
def EndsNumber (rest : List Char) : Prop :=
  ∀ c ∈ rest.head?, c.isDigit = false ∧ c ≠ '.' ∧ c ≠ 'e' ∧ c ≠ 'E'

theorem takeWhile_isDigit
    (digits : List Char)
    {rest : List Char}
    (onlyDigits : ∀ c ∈ digits, c.isDigit = true)
    (ends : EndsNumber rest) :
    (digits ++ rest).takeWhile Char.isDigit = digits ∧
      (digits ++ rest).dropWhile Char.isDigit = rest := by
  induction digits with
  | nil =>
      cases rest with
      | nil =>
          exact ⟨rfl, rfl⟩
      | cons c rest =>
          have noDigit := (ends c rfl).1
          simp [noDigit]
  | cons c digits inductionHypothesis =>
      have isDigit := onlyDigits c List.mem_cons_self
      obtain ⟨taken, dropped⟩ :=
        inductionHypothesis fun other member => onlyDigits other (List.mem_cons_of_mem _ member)
      rw [List.cons_append, List.takeWhile_cons_of_pos isDigit,
        List.dropWhile_cons_of_pos isDigit, taken, dropped]
      exact ⟨rfl, rfl⟩

theorem head?_toDigits_ne
    {n : Nat}
    (positive : 0 < n) :
    (Nat.toDigits 10 n).head? ≠ some '0' := by
  induction n using Nat.strongRecOn with
  | ind n inductionHypothesis =>
      rw [Nat.toDigits_eq_if (by decide)]
      split
      · have digits : ∀ digit < 10, 0 < digit → [Nat.digitChar digit].head? ≠ some '0' := by
          decide
        exact digits n ‹_› positive
      · rw [List.head?_append_of_ne_nil _ Nat.toDigits_ne_nil]
        exact inductionHypothesis (n / 10) (by omega) (by omega)

/-- No zero stands in front of a number. -/
theorem isWhole_toDigits (n : Nat) : isWhole (Nat.toDigits 10 n) = true := by
  cases n with
  | zero =>
      rfl
  | succ n =>
      have noZero := head?_toDigits_ne (Nat.succ_pos n)
      have notEmpty : Nat.toDigits 10 (n + 1) ≠ [] := Nat.toDigits_ne_nil
      unfold isWhole
      split <;> simp_all

theorem takeUnsigned?_toDigits
    (negative : Bool)
    (n : Nat)
    {rest : List Char}
    (ends : EndsNumber rest) :
    takeUnsigned? negative (Nat.toDigits 10 n ++ rest) =
      some (⟨negative, Nat.toDigits 10 n, none, none⟩, rest) := by
  obtain ⟨taken, dropped⟩ :=
    takeWhile_isDigit (Nat.toDigits 10 n)
      (fun _ member => Text.isDigit_of_mem_toDigits member) ends
  have noFraction : takeFraction? rest = some (none, rest) := by
    cases rest with
    | nil =>
        rfl
    | cons c rest =>
        have noPoint := (ends c rfl).2.1
        unfold takeFraction?
        split <;> simp_all
  have noExponent : takeExponent? rest = some (none, rest) := by
    cases rest with
    | nil =>
        rfl
    | cons c rest =>
        obtain ⟨-, -, noLower, noUpper⟩ := ends c rfl
        unfold takeExponent?
        exact if_neg (not_or.mpr ⟨noLower, noUpper⟩)
  simp [takeUnsigned?, taken, dropped, isWhole_toDigits, noFraction, noExponent]

/-- A written number is read up to its end. -/
theorem takeNumber?_numberChars
    {value : JsonNumber}
    (whole : value.Whole)
    {rest : List Char}
    (ends : EndsNumber rest) :
    takeNumber? (numberChars value ++ rest) = some (value, rest) := by
  cases value with
  | natural n =>
      rw [JsonNumber.Whole] at whole
      have noSign : ∀ c ∈ (Nat.toDigits 10 n ++ rest).head?, c ≠ '-' := by
        rw [List.head?_append_of_ne_nil _ Nat.toDigits_ne_nil]
        rintro c first rfl
        exact absurd (Text.isDigit_of_mem_toDigits (List.mem_of_mem_head? first)) (by decide)
      unfold takeNumber? numberChars
      split
      · rename_i split
        rw [split] at noSign
        exact absurd rfl (noSign '-' rfl)
      · rw [takeUnsigned?_toDigits false n ends]
        simp [NumberParts.value?, whole]
  | negative size =>
      rw [numberChars, List.cons_append, takeNumber?, takeUnsigned?_toDigits true size ends]
      simp [NumberParts.value?, whole.1, whole.2]
  | double x =>
      exact whole.elim

/-! ## Tokens -/

/-- A token that is read as itself. -/
def Faithful : Token → Prop
  | .number value => value.Whole
  | _ => True

/-- The marks that stand after a value. -/
def AfterValue (token : Token) : Prop :=
  token = .comma ∨ token = .endArray ∨ token = .endObject

theorem AfterValue.endsNumber
    {next : Token}
    (afterValue : next.AfterValue)
    (rest : List Char) :
    EndsNumber (next.chars ++ rest) := by
  rintro c first
  rcases afterValue with rfl | rfl | rfl <;> cases first <;> decide

/-- One token may be written right after another: after a number there must be a mark. -/
def MayFollow : Token → Token → Prop
  | .number _, next => next.AfterValue
  | _, _ => True

/-- Tokens that are told apart when they are read. -/
structure Readable (tokens : List Token) : Prop where
  faithful : ∀ token ∈ tokens, token.Faithful
  spaced : tokens.IsChain MayFollow

theorem Readable.nil : Readable [] :=
  ⟨by simp, .nil⟩

theorem Readable.cons
    {token : Token}
    {rest : List Token}
    (readable : Readable rest)
    (faithful : token.Faithful)
    (follows : ∀ next ∈ rest.head?, MayFollow token next) :
    Readable (token :: rest) :=
  ⟨List.forall_mem_cons.mpr ⟨faithful, readable.faithful⟩,
    List.isChain_cons.mpr ⟨follows, readable.spaced⟩⟩

/-- Anything may follow a token that is no number. -/
theorem Readable.cons_of_ne
    {token : Token}
    {rest : List Token}
    (readable : Readable rest)
    (noNumber : ∀ value, token ≠ .number value) :
    Readable (token :: rest) := by
  cases token with
  | number value =>
      exact absurd rfl (noNumber value)
  | _ =>
      exact readable.cons trivial fun _ _ => trivial

theorem Readable.of_cons
    {token : Token}
    {rest : List Token}
    (readable : Readable (token :: rest)) :
    Readable rest :=
  ⟨fun other member => readable.faithful other (List.mem_cons_of_mem _ member),
    readable.spaced.tail⟩

theorem exists_numberChars
    {value : JsonNumber}
    (whole : value.Whole) :
    ∃ c cs, numberChars value = c :: cs ∧ (c.isDigit = true ∨ c = '-') := by
  cases value with
  | natural n =>
      obtain ⟨c, cs, digits⟩ := List.exists_cons_of_ne_nil (Nat.toDigits_ne_nil (b := 10) (n := n))
      have first : c ∈ Nat.toDigits 10 n := by
        rw [digits]
        exact List.mem_cons_self
      exact ⟨c, cs, digits, .inl (Text.isDigit_of_mem_toDigits first)⟩
  | negative size =>
      exact ⟨'-', _, rfl, .inr rfl⟩
  | double x =>
      exact whole.elim

theorem take?_number
    {c : Char}
    (starts : c.isDigit = true ∨ c = '-')
    (cs : List Char) :
    take? (c :: cs) = (takeNumber? (c :: cs)).map fun (value, rest) => (.number value, rest) := by
  have other {mark : Char} (noDigit : mark.isDigit = false) (noSign : mark ≠ '-') : c ≠ mark := by
    rintro rfl
    rcases starts with isDigit | rfl
    · rw [noDigit] at isDigit
      cases isDigit
    · exact noSign rfl
  unfold take?
  split
  all_goals
    rename_i same
    first
      | rfl
      | exact absurd (List.cons.inj same).1 (other (by decide) (by decide))

/-- A written token is read up to its end. -/
theorem take?_chars
    {token : Token}
    (faithful : token.Faithful)
    {rest : List Char}
    (ends : ∀ value, token = .number value → EndsNumber rest) :
    take? (token.chars ++ rest) = some (token, rest) := by
  cases token with
  | string text =>
      have read := takeString?_flatMap text.toList rest
      change (takeString? (text.toList.flatMap stringChar ++ ['"'] ++ rest)).map _ = _
      rw [List.append_assoc, List.singleton_append, read]
      simp only [Option.map_some, String.ofList_toList]
  | number value =>
      have read := takeNumber?_numberChars faithful (ends value rfl)
      obtain ⟨c, cs, digits, starts⟩ := exists_numberChars faithful
      rw [digits, List.cons_append] at read
      rw [chars, digits, List.cons_append, take?_number starts, read]
      rfl
  | bool value =>
      cases value <;> rfl
  | _ =>
      rfl

/-- No token is written with a gap in front. -/
theorem exists_chars
    {token : Token}
    (faithful : token.Faithful) :
    ∃ c cs, token.chars = c :: cs ∧ isGap c = false := by
  cases token with
  | number value =>
      obtain ⟨c, cs, digits, starts⟩ := exists_numberChars faithful
      refine ⟨c, cs, digits, ?_⟩
      rcases starts with isDigit | rfl
      · simp only [isGap, Bool.or_eq_false_iff, decide_eq_false_iff_not]
        refine ⟨⟨⟨?_, ?_⟩, ?_⟩, ?_⟩ <;> (rintro rfl; cases isDigit)
      · rfl
  | bool value =>
      cases value <;> exact ⟨_, _, rfl, rfl⟩
  | _ =>
      exact ⟨_, _, rfl, rfl⟩

/-- Written tokens are read as themselves, with a step for each of them. -/
theorem Readable.scanWith_flatMap
    {tokens : List Token}
    (readable : Readable tokens)
    {fuel : Nat}
    (enough : tokens.length ≤ fuel) :
    scanWith fuel (tokens.flatMap chars) = some tokens := by
  induction tokens generalizing fuel with
  | nil =>
      cases fuel <;> rfl
  | cons token rest inductionHypothesis =>
      cases fuel with
      | zero =>
          cases enough
      | succ fuel =>
          have faithful := readable.faithful token List.mem_cons_self
          -- Where a number ends depends on what is written after it.
          have ends : ∀ value, token = .number value → EndsNumber (rest.flatMap chars) := by
            rintro value rfl
            cases rest with
            | nil =>
                rintro c ⟨⟩
            | cons next rest =>
                have follows := (List.isChain_cons_cons.mp readable.spaced).1
                exact AfterValue.endsNumber follows (rest.flatMap chars)
          have read := take?_chars faithful ends
          have remaining := inductionHypothesis readable.of_cons (Nat.le_of_succ_le_succ enough)
          obtain ⟨c, cs, written, noGap⟩ := exists_chars faithful
          rw [written, List.cons_append] at read
          rw [List.flatMap_cons, written, List.cons_append, scanWith,
            List.dropWhile_cons_of_neg (by rw [noGap]; decide)]
          simp only [read, remaining, Option.bind_some, Option.map_some]

theorem Readable.length_le
    {tokens : List Token}
    (readable : Readable tokens) :
    tokens.length ≤ (tokens.flatMap chars).length := by
  induction tokens with
  | nil =>
      exact Nat.le_refl _
  | cons token rest inductionHypothesis =>
      obtain ⟨c, cs, written, -⟩ := exists_chars (readable.faithful token List.mem_cons_self)
      have others := inductionHypothesis readable.of_cons
      rw [List.flatMap_cons, List.length_append, written, List.length_cons, List.length_cons]
      omega

/-- Written tokens are read as themselves. -/
theorem Readable.scan_flatMap
    {tokens : List Token}
    (readable : Readable tokens) :
    scan (tokens.flatMap chars) = some tokens :=
  readable.scanWith_flatMap readable.length_le

theorem le_toNat_of_mem_stringChar
    {c written : Char}
    (member : written ∈ stringChar c) :
    0x20 ≤ written.toNat := by
  have digits : ∀ code < 0x20,
      (Text.zeroPad 4 (Nat.toDigits 16 code)).all (0x20 ≤ ·.toNat) = true := by
    decide
  have short {letter : Char} (printed : 0x20 ≤ letter.toNat)
      (member : written ∈ ['\\', letter]) : 0x20 ≤ written.toNat := by
    rcases List.mem_pair.mp member with rfl | rfl
    · decide
    · exact printed
  unfold stringChar at member
  split_ifs at member with isQuote isEscape isBackspace isFormFeed isNewline isReturn isTab
    isControl
  all_goals try exact short (by decide) member
  · rcases List.mem_append.mp member with mark | digit
    · exact short (by decide) mark
    · have printed := digits c.toNat isControl
      exact of_decide_eq_true (List.all_eq_true.mp printed written digit)
  · rw [List.mem_singleton.mp member]
    omega

/-- No control is written as such, and so no end of a line. -/
theorem le_toNat_of_mem_chars
    {token : Token}
    (faithful : token.Faithful)
    {c : Char}
    (member : c ∈ token.chars) :
    0x20 ≤ c.toNat := by
  have ofDigit {n : Nat} (member : c ∈ Nat.toDigits 10 n) : 0x20 ≤ c.toNat := by
    have isDigit := Text.isDigit_of_mem_toDigits member
    simp only [Char.isDigit, Bool.and_eq_true, decide_eq_true_eq, UInt32.le_iff_toNat_le]
      at isDigit
    have atLeast := isDigit.1
    change 48 ≤ c.toNat at atLeast
    omega
  cases token with
  | string text =>
      rcases List.mem_cons.mp member with rfl | inside
      · decide
      · rcases List.mem_append.mp inside with escaped | last
        · obtain ⟨original, -, written⟩ := List.mem_flatMap.mp escaped
          exact le_toNat_of_mem_stringChar written
        · rw [List.mem_singleton.mp last]
          decide
  | number value =>
      cases value with
      | natural n =>
          exact ofDigit member
      | negative size =>
          rcases List.mem_cons.mp member with rfl | digit
          · decide
          · exact ofDigit digit
      | double x =>
          exact faithful.elim
  | bool value =>
      have letters : (Token.bool value).chars.all (0x20 ≤ ·.toNat) = true := by
        cases value <;> decide
      exact of_decide_eq_true (List.all_eq_true.mp letters c member)
  | null =>
      have letters : Token.null.chars.all (0x20 ≤ ·.toNat) = true := by decide
      exact of_decide_eq_true (List.all_eq_true.mp letters c member)
  | _ =>
      rw [List.mem_singleton.mp member]
      decide

end Json.Token

end TierHeap
