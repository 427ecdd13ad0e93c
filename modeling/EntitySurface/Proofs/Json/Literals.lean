import EntitySurface.Json.Printer
import EntitySurface.Json.Reader
import Mathlib.Data.List.TakeWhile

/-!
# JSON literals

A string literal is read back as the string that it was written for, whatever characters are in it,
and the decimal digits of a number below `2 ^ 64` are read back as this number.
-/

namespace EntitySurface.Json

/-! ## Strings -/

/-- An escaped control character takes part in a string as one code point. -/
theorem readUnit_control {code : Nat} (control : code < 32) (rest : List Char) :
    readUnit ('0' :: '0' :: hexDigit (code / 16) :: hexDigit (code % 16) :: rest) =
      some (code, rest) := by
  have zero : Text.hexDigit? '0' = some 0 := by decide
  have high : Text.hexDigit? (hexDigit (code / 16)) = some (code / 16) :=
    Text.hexDigit?_digitChar (by omega)
  have low : Text.hexDigit? (hexDigit (code % 16)) = some (code % 16) :=
    Text.hexDigit?_digitChar (by omega)
  simp only [readUnit, zero, high, low, Option.bind_eq_bind, Option.bind_some]
  congr 2
  omega

/-- A written character is read as one code point. -/
theorem readCodes_escapeChar (read : List Nat) (steps : Nat) (c : Char) (rest : List Char) :
    readCodes read (steps + 1) (escapeChar c ++ rest) =
      readCodes (c.toNat :: read) steps rest := by
  unfold escapeChar
  iterate 7
    split
    · subst c
      simp [readCodes, simpleEscape?]
  split
  · next control => simp [readCodes, readUnit_control control]
  · next noBackslash _ _ _ _ _ control => simp [readCodes, noBackslash, control]

/-- The characters of a literal are read up to the quote that ends it. -/
theorem readCodes_flatMap_escapeChar (read : List Nat) {steps : Nat} {text : List Char}
    (room : text.length < steps) (rest : List Char) :
    readCodes read steps (text.flatMap escapeChar ++ '"' :: rest) =
      some (read.reverse ++ text.map Char.toNat, rest) := by
  induction text generalizing read steps with
  | nil =>
      cases steps with
      | zero => contradiction
      | succ steps => simp [readCodes]
  | cons c chars ih =>
      cases steps with
      | zero => contradiction
      | succ steps =>
          rw [List.flatMap_cons, List.append_assoc, readCodes_escapeChar,
            ih _ (Nat.lt_of_succ_lt_succ room)]
          simp

/-- No character is half of a surrogate pair. -/
theorem isHighSurrogate_toNat (c : Char) : isHighSurrogate c.toNat = false := by
  have valid := c.valid
  simp only [isHighSurrogate, Bool.and_eq_false_iff, decide_eq_false_iff_not]
  simp only [UInt32.isValidChar, Nat.isValidChar] at valid
  simp only [Char.toNat]
  omega

theorem isLowSurrogate_toNat (c : Char) : isLowSurrogate c.toNat = false := by
  have valid := c.valid
  simp only [isLowSurrogate, Bool.and_eq_false_iff, decide_eq_false_iff_not]
  simp only [UInt32.isValidChar, Nat.isValidChar] at valid
  simp only [Char.toNat]
  omega

theorem joinSurrogates_map_toNat (read text : List Char) :
    joinSurrogates read (text.map Char.toNat) = some (read.reverse ++ text) := by
  induction text generalizing read with
  | nil => simp [joinSurrogates]
  | cons c rest ih =>
      cases rest with
      | nil =>
          simp [joinSurrogates, isHighSurrogate_toNat, isLowSurrogate_toNat]
      | cons next others =>
          have tail := ih (c :: read)
          rw [List.map_cons] at tail
          simp [joinSurrogates, isHighSurrogate_toNat, isLowSurrogate_toNat, tail]

/-- A written string is read as it was. -/
theorem readString_stringLiteral {steps : Nat} {text : String} (room : text.toList.length < steps)
    (rest : List Char) :
    readString steps (text.toList.flatMap escapeChar ++ '"' :: rest) =
      some (some text, rest) := by
  simp [readString, readCodes_flatMap_escapeChar [] room, joinSurrogates_map_toNat]

/-! ## Numbers -/

/-- What may follow a number: nothing that would be taken for a part of it. -/
def EndsNumber (rest : List Char) : Prop :=
  ∀ c ∈ rest.head?, c.isDigit = false ∧ c ≠ '.' ∧ c ≠ 'e' ∧ c ≠ 'E'

theorem takeDigits_append {digits rest : List Char} (numeral : ∀ c ∈ digits, c.isDigit = true)
    (ends : EndsNumber rest) : Decimal.takeDigits (digits ++ rest) = (digits, rest) := by
  have stops : rest.takeWhile Char.isDigit = [] ∧ rest.dropWhile Char.isDigit = rest := by
    cases rest with
    | nil => exact ⟨rfl, rfl⟩
    | cons c tail => simp [(ends c rfl).1]
  simp [Decimal.takeDigits, List.takeWhile_append_of_pos numeral,
    List.dropWhile_append_of_pos numeral, stops]

theorem natural_toDigits (n : Nat) : Decimal.natural (Nat.toDigits 10 n) = n := by
  have same : ∀ (digits : List Char) (value : Nat), digits.foldl
      (fun value c => value * 10 + Decimal.digitValue c) value =
        Nat.ofDigitChars 10 digits value := by
    intro digits value
    simp [Nat.ofDigitChars, Decimal.digitValue, Nat.mul_comm]
  rw [Decimal.natural, same, Nat.ofDigitChars_toDigits (by decide) (by decide)]

theorem ne_of_isDigit {c other : Char} (digit : c.isDigit = true)
    (noDigit : other.isDigit = false) : c ≠ other := by
  rintro rfl
  rw [digit] at noDigit
  contradiction

theorem exists_cons_toDigits (n : Nat) :
    ∃ c digits, Nat.toDigits 10 n = c :: digits ∧ c.isDigit = true := by
  obtain ⟨c, digits, chars⟩ := List.exists_cons_of_ne_nil (Nat.toDigits_ne_nil (b := 10) (n := n))
  exact ⟨c, digits, chars, Nat.isDigit_of_mem_toDigits (b := 10) (n := n) (by decide) (by decide)
    (by simp [chars])⟩

/-- No number but zero starts with a zero. -/
theorem head?_toDigits_ne {n : Nat} (positive : n ≠ 0) : (Nat.toDigits 10 n).head? ≠ some '0' := by
  induction n using Nat.strongRecOn with
  | ind n ih =>
      by_cases single : n < 10
      · have first : ∀ digit < 10, digit ≠ 0 → Nat.digitChar digit ≠ '0' := by decide
        simpa [Nat.toDigits_of_lt_base single] using first n single positive
      · have tens : n / 10 ≠ 0 := by omega
        have smaller := ih (n / 10) (by omega) tens
        obtain ⟨c, digits, leading, -⟩ := exists_cons_toDigits (n / 10)
        rw [Nat.toDigits_of_base_le (by decide) (by omega)]
        rw [leading] at smaller ⊢
        exact smaller

/-- The integer part of a number is taken up to its last digit. -/
theorem readInteger_toDigits (n : Nat) {rest : List Char} (ends : EndsNumber rest) :
    readInteger (Nat.toDigits 10 n ++ rest) = some (Nat.toDigits 10 n, rest) := by
  have numeral : ∀ c ∈ Nat.toDigits 10 n, c.isDigit = true := fun c mem =>
    Nat.isDigit_of_mem_toDigits (by decide) (by decide) mem
  have taken := takeDigits_append numeral ends
  by_cases zero : n = 0
  · subst zero
    have ended : rest.head?.any Char.isDigit = false := by
      cases rest with
      | nil => rfl
      | cons c tail => exact (ends c rfl).1
    show readInteger ('0' :: rest) = some (['0'], rest)
    simp [readInteger, ended]
  · have head := head?_toDigits_ne zero
    obtain ⟨c, digits, chars, -⟩ := exists_cons_toDigits n
    rw [chars] at head taken ⊢
    have noZero : c ≠ '0' := by simpa using head
    rw [List.cons_append] at taken ⊢
    simp [readInteger, noZero, taken]

theorem readNumber_toDigits {n : Nat} (small : n < UInt64.size) {rest : List Char}
    (ends : EndsNumber rest) :
    readNumber (Nat.toDigits 10 n ++ rest) = some (.natural n, rest) := by
  have fraction : readFraction rest = some ([], rest) := by
    cases rest with
    | nil => rfl
    | cons c tail => simp [readFraction, (ends c rfl).2.1]
  have exponent : readExponent rest = some (none, rest) := by
    cases rest with
    | nil => rfl
    | cons c tail =>
      obtain ⟨-, -, lower, upper⟩ := ends c rfl
      simp [readExponent, lower, upper]
  have integer := readInteger_toDigits n ends
  have size := natural_toDigits n
  obtain ⟨c, digits, chars, digit⟩ := exists_cons_toDigits n
  have noSign : c ≠ '-' := ne_of_isDigit digit (by decide)
  rw [chars] at integer size ⊢
  rw [List.cons_append] at integer ⊢
  simp [readNumber, noSign, integer, fraction, exponent, size, small]

end EntitySurface.Json
