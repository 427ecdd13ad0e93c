import EntitySurface.Calendar.Date
import EntitySurface.Proofs.Text.Blank
import Mathlib.Tactic.Linarith

/-!
# Texts that are read as dates

What can be read as a date is described by its written form: a year, a month and a day with dashes
between them, each after any blanks, and blanks at both ends. Reading succeeds on exactly these
texts, with the date that they spell.
-/

namespace EntitySurface

/-- A sequence succeeds when both of its parts do. -/
theorem except_bind_eq_ok_iff {ε α β : Type} {first : Except ε α} {next : α → Except ε β}
    {value : β} :
    (first >>= next) = .ok value ↔ ∃ middle, first = .ok middle ∧ next middle = .ok value := by
  cases first with
  | error problem => simp [bind, Except.bind]
  | ok middle => simp [bind, Except.bind]

namespace Calendar

open Text

/-! ## The written form -/

/-- The digits of a number, no more than the width allows. -/
structure Numeral (width : Option Nat) (value : Nat) (digits : List Char) : Prop where
  nonempty : digits ≠ []
  isDigit : ∀ c ∈ digits, c.isDigit = true
  fits : ∀ most ∈ width, digits.length ≤ most
  value_eq : Nat.ofDigitChars 10 digits 0 = value

/-- A year: of any number of digits after a sign, and of at most four without one. -/
inductive YearNumeral : Int → List Char → Prop where
  | unsigned {value : Nat} {digits : List Char} (numeral : Numeral (some 4) value digits) :
      YearNumeral value digits
  | positive {value : Nat} {digits : List Char} (numeral : Numeral none value digits) :
      YearNumeral value ('+' :: digits)
  | negative {value : Nat} {digits : List Char} (numeral : Numeral none value digits) :
      YearNumeral (-value) ('-' :: digits)

/-- An item of a date stands after any blanks. -/
def AfterBlanks (item : List Char → Prop) (text : List Char) : Prop :=
  ∃ blanks written, text = blanks ++ written ∧ (∀ c ∈ blanks, isBlank c = true) ∧ item written

/-- The text without the blanks at its ends is the year, the month and the day of a date, with
dashes between them. -/
def Spells (text : String) (date : Date) : Prop :=
  ∃ year month day, trimChars text.toList = year ++ '-' :: (month ++ '-' :: day) ∧
    AfterBlanks (YearNumeral date.year) year ∧
    AfterBlanks (Numeral (some 2) date.month) month ∧
    AfterBlanks (Numeral (some 2) date.day) day

/-! ## Digits -/

/-- No digit stands in front. -/
def EndsNumber (rest : List Char) : Prop :=
  ∀ c ∈ rest.head?, c.isDigit = false

theorem endsNumber_dash (rest : List Char) : EndsNumber ('-' :: rest) := by
  rintro c ⟨⟩
  rfl

/-- Digits that follow only make a number greater. -/
theorem le_ofDigitChars (digits : List Char) (value : Nat) :
    value ≤ Nat.ofDigitChars 10 digits value := by
  rw [Nat.ofDigitChars_eq_ofDigitChars_zero]
  have positive : 0 < 10 ^ digits.length := by positivity
  nlinarith

theorem ofDigitChars_cons_eq (c : Char) (digits : List Char) (value : Nat) :
    Nat.ofDigitChars 10 (c :: digits) value =
      Nat.ofDigitChars 10 digits (value * 10 + Decimal.digitValue c) := by
  rw [Nat.ofDigitChars_cons, Nat.mul_comm]
  rfl

/-- One more digit is read where the width leaves room for it. -/
theorem readDigits_cons {c : Char} (digit : c.isDigit = true) {width : Option Nat}
    (room : width ≠ some 0) (value : Nat) (rest : List Char) :
    readDigits width value (c :: rest) =
      if maxItem < value * 10 + Decimal.digitValue c then .error .outOfRange
      else readDigits (width.map (· - 1)) (value * 10 + Decimal.digitValue c) rest := by
  have notFull : (width == some 0) = false := beq_eq_false_iff_ne.mpr room
  simp [readDigits, notFull, digit]

/-- All digits are taken when they fit the width and the number stays within bounds. -/
theorem readDigits_append {digits rest : List Char} (numeral : ∀ c ∈ digits, c.isDigit = true)
    (ends : EndsNumber rest) {width : Option Nat} {value : Nat}
    (fits : ∀ most ∈ width, digits.length ≤ most)
    (bounded : Nat.ofDigitChars 10 digits value ≤ maxItem) :
    readDigits width value (digits ++ rest) =
      .ok (Nat.ofDigitChars 10 digits value, rest) := by
  induction digits generalizing width value with
  | nil =>
      cases rest with
      | nil => rfl
      | cons c tail => simp [readDigits, ends c rfl, Nat.ofDigitChars]
  | cons c digits ih =>
      have digit : c.isDigit = true := numeral c List.mem_cons_self
      have room : width ≠ some 0 := by
        rintro rfl
        exact absurd (fits 0 rfl) (by simp)
      rw [ofDigitChars_cons_eq] at bounded ⊢
      have small : ¬ maxItem < value * 10 + Decimal.digitValue c :=
        Nat.not_lt.mpr ((le_ofDigitChars ..).trans bounded)
      have fewer : ∀ most ∈ width.map (· - 1), digits.length ≤ most := by
        intro most mem
        rcases Option.mem_map.mp mem with ⟨before, given, rfl⟩
        have longer := fits before given
        rw [List.length_cons] at longer
        omega
      rw [List.cons_append, readDigits_cons digit room, if_neg small]
      exact ih (fun d mem => numeral d (List.mem_cons_of_mem _ mem)) fewer bounded

/-- What is read are digits, and reading stops where they end or the width is used up. -/
theorem exists_digits_of_readDigits {text rest : List Char} {width : Option Nat}
    {value result : Nat} (read : readDigits width value text = .ok (result, rest)) :
    ∃ digits, text = digits ++ rest ∧ (∀ c ∈ digits, c.isDigit = true) ∧
      (∀ most ∈ width, digits.length ≤ most) ∧
      (EndsNumber rest ∨ width = some digits.length) ∧
      Nat.ofDigitChars 10 digits value = result := by
  induction text generalizing width value with
  | nil =>
      cases read
      exact ⟨[], rfl, nofun, fun most _ => Nat.zero_le most, Or.inl nofun, rfl⟩
  | cons c tail ih =>
      by_cases taken : width ≠ some 0 ∧ c.isDigit = true
      · rcases taken with ⟨room, digit⟩
        rw [readDigits_cons digit room] at read
        split at read
        · contradiction
        · rcases ih read with ⟨digits, rfl, numeral, fits, stops, rfl⟩
          refine ⟨c :: digits, rfl, List.forall_mem_cons.mpr ⟨digit, numeral⟩, ?_, ?_,
            ofDigitChars_cons_eq c digits value⟩
          · rintro most rfl
            have fewer := fits (most - 1) rfl
            have positive : most ≠ 0 := fun zero => room (congrArg some zero)
            rw [List.length_cons]
            omega
          · apply stops.imp_right
            intro full
            rcases Option.map_eq_some_iff.mp full with ⟨most, rfl, less⟩
            have positive : most ≠ 0 := fun zero => room (congrArg some zero)
            rw [List.length_cons, Option.some.injEq]
            omega
      · have stopped : (width == some 0 || !c.isDigit) = true := by
          by_contra going
          apply taken
          simpa using going
        rw [readDigits, if_pos stopped] at read
        cases read
        refine ⟨[], rfl, nofun, fun most _ => Nat.zero_le most, ?_, rfl⟩
        rcases Bool.or_eq_true_iff.mp stopped with full | other
        · exact Or.inr (eq_of_beq full)
        · left
          rintro d ⟨⟩
          simpa using other

/-! ## Numbers -/

theorem Numeral.exists_cons {width : Option Nat} {value : Nat} {digits : List Char}
    (numeral : Numeral width value digits) :
    ∃ c tail, digits = c :: tail ∧ c.isDigit = true := by
  rcases List.exists_cons_of_ne_nil numeral.nonempty with ⟨c, tail, rfl⟩
  exact ⟨c, tail, rfl, numeral.isDigit c List.mem_cons_self⟩

/-- A numeral is read as its number. -/
theorem Numeral.readNumber_eq {width : Option Nat} {value : Nat} {digits : List Char}
    (numeral : Numeral width value digits) (bounded : value ≤ maxItem) {rest : List Char}
    (ends : EndsNumber rest) : readNumber width (digits ++ rest) = .ok (value, rest) := by
  have read := readDigits_append numeral.isDigit ends numeral.fits
    (numeral.value_eq.symm ▸ bounded)
  rw [numeral.value_eq] at read
  rcases numeral.exists_cons with ⟨c, tail, rfl, digit⟩
  rw [List.cons_append] at read ⊢
  rw [readNumber, if_pos digit, read]

/-- What is read as a number is a numeral. -/
theorem exists_numeral_of_readNumber {width : Option Nat} (positive : width ≠ some 0)
    {text rest : List Char} {value : Nat} (read : readNumber width text = .ok (value, rest)) :
    ∃ digits, text = digits ++ rest ∧ Numeral width value digits := by
  cases text with
  | nil => contradiction
  | cons c tail =>
      rw [readNumber] at read
      split at read
      · next digit =>
        rcases exists_digits_of_readDigits read with ⟨digits, split, isDigit, fits, stops, value_eq⟩
        refine ⟨digits, split, ?_, isDigit, fits, value_eq⟩
        rintro rfl
        rcases stops with ends | full
        · subst split
          exact absurd digit (by simp [ends c rfl])
        · exact positive full
      · contradiction

/-! ## Items -/

/-- The front of a text without blanks is a text after blanks. -/
theorem exists_blanks (text : List Char) :
    ∃ blanks, text = blanks ++ dropBlanks text ∧ ∀ c ∈ blanks, isBlank c = true := by
  refine ⟨text.takeWhile isBlank, List.takeWhile_append_dropWhile.symm, ?_⟩
  exact List.all_eq_true.mp List.all_takeWhile

/-- The blanks before a character that is none are dropped. -/
theorem dropBlanks_append_cons {blanks : List Char} (blank : ∀ c ∈ blanks, isBlank c = true)
    {c : Char} (shows : isBlank c = false) (rest : List Char) :
    dropBlanks (blanks ++ c :: rest) = c :: rest := by
  rw [dropBlanks, List.dropWhile_append_of_pos blank]
  exact dropBlanks_cons shows

/-- A month or a day is read where it stands within the bounds. -/
theorem readPart_eq {least greatest value : Nat} {text rest : List Char}
    (written : AfterBlanks (Numeral (some 2) value) text) (ends : EndsNumber rest)
    (lower : least ≤ value) (upper : value ≤ greatest) (bounded : value ≤ maxItem) :
    readPart least greatest (text ++ rest) = .ok (value, rest) := by
  rcases written with ⟨blanks, digits, rfl, blank, numeral⟩
  have read := numeral.readNumber_eq bounded ends
  rcases numeral.exists_cons with ⟨c, tail, rfl, digit⟩
  have front := dropBlanks_append_cons blank (not_isBlank_of_isDigit digit) (tail ++ rest)
  rw [List.cons_append] at read
  rw [List.append_assoc, List.cons_append]
  simp [readPart, front, read, bind, Except.bind, lower, upper]

theorem exists_item_of_readPart {least greatest value : Nat} {text rest : List Char}
    (read : readPart least greatest text = .ok (value, rest)) :
    ∃ item, text = item ++ rest ∧ AfterBlanks (Numeral (some 2) value) item := by
  unfold readPart at read
  cases number : readNumber (some 2) (dropBlanks text) with
  | error problem =>
      rw [number] at read
      contradiction
  | ok result =>
      rw [number] at read
      simp only [bind, Except.bind] at read
      split at read
      · cases read
        rcases exists_numeral_of_readNumber (by decide) number with ⟨digits, split, numeral⟩
        rcases exists_blanks text with ⟨blanks, whole, blank⟩
        rw [split, ← List.append_assoc] at whole
        exact ⟨blanks ++ digits, whole, blanks, digits, rfl, blank, numeral⟩
      · contradiction

/-! ## Years -/

/-- The last steps of reading a year: its digits, its sign, its range. The sign is kept general, as
the range of a concrete sign would be computed with. -/
theorem readSigned_eq_ok_iff (signed : Nat → Int) {number : Except DateProblem (Nat × List Char)}
    {year : Int} {rest : List Char} :
    (do
      let (value, rest) ← number
      let (year, rest) ← pure (signed value, rest)
      if -0x80000000 ≤ year && year < 0x80000000 then .ok (year, rest)
      else .error DateProblem.outOfRange) = .ok (year, rest) ↔
    ∃ value, number = .ok (value, rest) ∧ signed value = year ∧
      -0x80000000 ≤ year ∧ year < 0x80000000 := by
  cases number with
  | error problem => simp [bind, Except.bind]
  | ok result =>
      rcases result with ⟨value, left⟩
      simp only [bind, Except.bind, pure, Except.pure, Bool.and_eq_true, decide_eq_true_eq,
        Except.ok.injEq, Prod.mk.injEq]
      constructor
      · intro read
        split at read
        · next inRange =>
          cases read
          exact ⟨value, ⟨rfl, rfl⟩, rfl, inRange⟩
        · contradiction
      · rintro ⟨value, ⟨rfl, rfl⟩, rfl, inRange⟩
        rw [if_pos inRange]

/-- A year in front of the dash is read. -/
theorem readYear_eq {year : Int} {text rest : List Char}
    (written : AfterBlanks (YearNumeral year) text) (ends : EndsNumber rest)
    (first : minYear ≤ year) (last : year ≤ maxYear) :
    readYear (text ++ rest) = .ok (year, rest) := by
  unfold minYear at first
  unfold maxYear at last
  rcases written with ⟨blanks, item, rfl, blank, numeral⟩
  rw [List.append_assoc]
  unfold readYear
  cases numeral with
  | @unsigned value digits numeral =>
      have read := numeral.readNumber_eq (by unfold maxItem; omega) ends
      rcases numeral.exists_cons with ⟨c, tail, rfl, digit⟩
      rw [List.cons_append] at read ⊢
      rw [dropBlanks_append_cons blank (not_isBlank_of_isDigit digit)]
      split
      · next same =>
        obtain ⟨rfl, -⟩ := List.cons.inj same
        exact absurd digit (by decide)
      · next same =>
        obtain ⟨rfl, -⟩ := List.cons.inj same
        exact absurd digit (by decide)
      · exact (readSigned_eq_ok_iff fun value => (value : Int)).mpr
          ⟨value, read, rfl, by omega, by omega⟩
  | @positive value digits numeral =>
      have read := numeral.readNumber_eq (by unfold maxItem; omega) ends
      rw [List.cons_append, dropBlanks_append_cons blank (by decide)]
      exact (readSigned_eq_ok_iff fun value => (value : Int)).mpr
        ⟨value, read, rfl, by omega, by omega⟩
  | @negative value digits numeral =>
      have read := numeral.readNumber_eq (by unfold maxItem; omega) ends
      rw [List.cons_append, dropBlanks_append_cons blank (by decide)]
      exact (readSigned_eq_ok_iff fun value => -(value : Int)).mpr
        ⟨value, read, rfl, by omega, by omega⟩

theorem exists_item_of_readYear {year : Int} {text rest : List Char}
    (read : readYear text = .ok (year, rest)) :
    ∃ item, text = item ++ rest ∧ AfterBlanks (YearNumeral year) item := by
  have after : ∃ item, dropBlanks text = item ++ rest ∧ YearNumeral year item := by
    unfold readYear at read
    split at read
    · next digits front =>
      rcases (readSigned_eq_ok_iff fun value => -(value : Int)).mp read with
        ⟨value, number, rfl, -⟩
      rcases exists_numeral_of_readNumber (by decide) number with ⟨written, rfl, numeral⟩
      exact ⟨'-' :: written, front, .negative numeral⟩
    · next digits front =>
      rcases (readSigned_eq_ok_iff fun value => (value : Int)).mp read with
        ⟨value, number, rfl, -⟩
      rcases exists_numeral_of_readNumber (by decide) number with ⟨written, rfl, numeral⟩
      exact ⟨'+' :: written, front, .positive numeral⟩
    · rcases (readSigned_eq_ok_iff fun value => (value : Int)).mp read with
        ⟨value, number, rfl, -⟩
      rcases exists_numeral_of_readNumber (by decide) number with ⟨written, split, numeral⟩
      exact ⟨written, split, .unsigned numeral⟩
  rcases after with ⟨item, split, numeral⟩
  rcases exists_blanks text with ⟨blanks, whole, blank⟩
  rw [split, ← List.append_assoc] at whole
  exact ⟨blanks ++ item, whole, blanks, item, rfl, blank, numeral⟩

/-! ## Dates -/

theorem readDash_eq_ok_iff {text rest : List Char} :
    readDash text = .ok rest ↔ text = '-' :: rest := by
  unfold readDash
  split <;> simp_all

theorem daysInMonth_le (year : Int) (month : Nat) : daysInMonth year month ≤ 31 := by
  unfold daysInMonth
  split
  · split <;> decide
  · split <;> decide

/-- The items of a date are within the bounds that reading checks. -/
theorem Date.bounds (date : Date) :
    (minYear ≤ date.year ∧ date.year ≤ maxYear) ∧ (1 ≤ date.month ∧ date.month ≤ 12) ∧
      1 ≤ date.day ∧ date.day ≤ 31 := by
  have valid := date.valid
  simp only [isDate, Bool.and_eq_true, decide_eq_true_eq] at valid
  rcases valid with ⟨⟨⟨⟨⟨first, last⟩, monthLower⟩, monthUpper⟩, dayLower⟩, dayUpper⟩
  exact ⟨⟨first, last⟩, ⟨monthLower, monthUpper⟩, dayLower, dayUpper.trans (daysInMonth_le ..)⟩

/-- The parts of a text that is read as a date. -/
theorem exists_parts_of_parse {text : String} {date : Date} (parsed : Date.parse text = .ok date) :
    ∃ afterYear afterMonth,
      readYear (trimChars text.toList) = .ok (date.year, '-' :: afterYear) ∧
      readPart 1 12 afterYear = .ok (date.month, '-' :: afterMonth) ∧
      readPart 1 31 afterMonth = .ok (date.day, []) := by
  unfold Date.parse at parsed
  rcases except_bind_eq_ok_iff.mp parsed with ⟨⟨year, yearRest⟩, yearRead, parsed⟩
  rcases except_bind_eq_ok_iff.mp parsed with ⟨afterYear, firstDash, parsed⟩
  rcases except_bind_eq_ok_iff.mp parsed with ⟨⟨month, monthRest⟩, monthRead, parsed⟩
  rcases except_bind_eq_ok_iff.mp parsed with ⟨afterMonth, secondDash, parsed⟩
  rcases except_bind_eq_ok_iff.mp parsed with ⟨⟨day, dayRest⟩, dayRead, parsed⟩
  obtain rfl := readDash_eq_ok_iff.mp firstDash
  obtain rfl := readDash_eq_ok_iff.mp secondDash
  cases dayRest with
  | cons c rest => simp at parsed
  | nil =>
      simp only [List.isEmpty_nil, Bool.not_true, Bool.false_eq_true, if_false] at parsed
      split at parsed
      · cases parsed
        exact ⟨afterYear, afterMonth, yearRead, monthRead, dayRead⟩
      · contradiction

/-- A text is read as a date exactly when it spells the date. -/
theorem parse_eq_ok_iff {text : String} {date : Date} :
    Date.parse text = .ok date ↔ Spells text date := by
  constructor
  · intro parsed
    rcases exists_parts_of_parse parsed with
      ⟨afterYear, afterMonth, yearRead, monthRead, dayRead⟩
    rcases exists_item_of_readYear yearRead with ⟨year, whole, yearWritten⟩
    rcases exists_item_of_readPart monthRead with ⟨month, rfl, monthWritten⟩
    rcases exists_item_of_readPart dayRead with ⟨day, rfl, dayWritten⟩
    rw [List.append_nil] at whole
    exact ⟨year, month, day, whole, yearWritten, monthWritten, dayWritten⟩
  · rintro ⟨year, month, day, split, yearWritten, monthWritten, dayWritten⟩
    rcases date.bounds with ⟨⟨first, last⟩, ⟨monthLower, monthUpper⟩, dayLower, dayUpper⟩
    have yearRead := readYear_eq yearWritten (endsNumber_dash (month ++ '-' :: day)) first last
    have monthRead := readPart_eq monthWritten (endsNumber_dash day) monthLower monthUpper
      (monthUpper.trans (by decide))
    have noMore : EndsNumber [] := nofun
    have dayRead := readPart_eq dayWritten noMore dayLower dayUpper (dayUpper.trans (by decide))
    rw [List.append_nil] at dayRead
    unfold Date.parse
    rw [split, yearRead]
    simp [readDash, monthRead, dayRead, bind, Except.bind, date.valid]

end Calendar

end EntitySurface
