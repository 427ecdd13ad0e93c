import EntitySurface.Proofs.Calendar.Reading

/-!
# Dates read back

The written form of a date is read as that date, whatever its year. Searches write the bounds of a
range, and the rows are compared with what they wrote.
-/

namespace EntitySurface.Calendar.Date

open Text

/-! ## Padded numbers -/

theorem isDigit_of_mem_padded {width n : Nat} {c : Char} (mem : c ∈ padded width n) :
    c.isDigit = true := by
  rcases List.mem_append.mp mem with zero | digit
  · rw [List.eq_of_mem_replicate zero]
    rfl
  · exact Nat.isDigit_of_mem_toDigits (by decide) (by decide) digit

/-- Zeros in front do not change the number. -/
theorem ofDigitChars_padded (width n : Nat) : Nat.ofDigitChars 10 (padded width n) 0 = n := by
  rw [padded, Nat.ofDigitChars_append, Nat.ofDigitChars_replicate_zero, Nat.mul_zero,
    Nat.ofDigitChars_toDigits (by decide) (by decide)]

/-- A number that needs no more digits takes exactly the width. -/
theorem length_padded {width n : Nat} (positive : 0 < width) (fits : n < 10 ^ width) :
    (padded width n).length = width := by
  have short := (Nat.length_toDigits_le_iff (b := 10) (by decide) positive).mpr fits
  rw [padded, List.length_append, List.length_replicate]
  omega

/-- A padded number is a numeral of any width that it fits. -/
theorem numeral_padded {shape n : Nat} {width : Option Nat}
    (fits : ∀ most ∈ width, (padded shape n).length ≤ most) :
    Numeral width n (padded shape n) where
  nonempty := List.append_ne_nil_of_right_ne_nil _ Nat.toDigits_ne_nil
  isDigit _ := isDigit_of_mem_padded
  fits := fits
  value_eq := ofDigitChars_padded shape n

theorem numeral_padded_two {n : Nat} (small : n < 100) : Numeral (some 2) n (padded 2 n) := by
  apply numeral_padded
  rintro most ⟨⟩
  exact (length_padded (by decide) small).le

/-! ## The written form -/

/-- A year in its written form: with a sign when it is negative or takes more than four digits. -/
def signedYear (year : Int) : List Char :=
  if year < 0 then '-' :: padded 4 year.natAbs
  else if 9999 < year then '+' :: padded 4 year.natAbs
  else padded 4 year.natAbs

theorem yearNumeral_signedYear (year : Int) : YearNumeral year (signedYear year) := by
  have anyWidth : Numeral none year.natAbs (padded 4 year.natAbs) := numeral_padded nofun
  unfold signedYear
  split
  · next negative =>
    have written := YearNumeral.negative anyWidth
    rwa [show -(year.natAbs : Int) = year by omega] at written
  · next notNegative =>
    have value : (year.natAbs : Int) = year := by omega
    split
    · have written := YearNumeral.positive anyWidth
      rwa [value] at written
    · next short =>
      have fourDigits : Numeral (some 4) year.natAbs (padded 4 year.natAbs) := by
        apply numeral_padded
        rintro most ⟨⟩
        exact (length_padded (by decide) (by omega)).le
      have written := YearNumeral.unsigned fourDigits
      rwa [value] at written

theorem text_eq (date : Date) :
    date.text = String.ofList
      (signedYear date.year ++ '-' :: (padded 2 date.month ++ '-' :: padded 2 date.day)) := by
  simp [text, signedYear]

/-- No blank stands in the written form. -/
theorem not_isBlank_of_mem_text {date : Date} {c : Char} (mem : c ∈ date.text.toList) :
    isBlank c = false := by
  have number : ∀ {width n}, c ∈ padded width n → isBlank c = false :=
    fun inNumber => not_isBlank_of_isDigit (isDigit_of_mem_padded inNumber)
  have year : c ∈ signedYear date.year → isBlank c = false := by
    unfold signedYear
    split
    · rintro (_ | ⟨_, inNumber⟩)
      · decide
      · exact number inNumber
    · split
      · rintro (_ | ⟨_, inNumber⟩)
        · decide
        · exact number inNumber
      · exact number
  rw [text_eq, String.toList_ofList] at mem
  rcases List.mem_append.mp mem with inYear | _ | ⟨_, afterYear⟩
  · exact year inYear
  · decide
  · rcases List.mem_append.mp afterYear with inMonth | _ | ⟨_, inDay⟩
    · exact number inMonth
    · decide
    · exact number inDay

theorem isAllBlank_text (date : Date) : isAllBlank date.text = false := by
  have dash : '-' ∈ date.text.toList := by
    rw [text_eq]
    simp
  exact List.all_eq_false.mpr ⟨'-', dash, by decide⟩

theorem spells_text (date : Date) : Spells date.text date := by
  rcases date.bounds with ⟨-, ⟨-, month⟩, -, day⟩
  have noBlanks : ∀ {item : List Char → Prop} {written}, item written →
      AfterBlanks item written := fun holds => ⟨[], _, rfl, nofun, holds⟩
  refine ⟨_, _, _, ?_, noBlanks (yearNumeral_signedYear date.year),
    noBlanks (numeral_padded_two (by omega)), noBlanks (numeral_padded_two (by omega))⟩
  rw [trimChars_eq_self fun c => not_isBlank_of_mem_text, text_eq, String.toList_ofList]

/-- The written form of a date is read as that date. -/
theorem parse_text (date : Date) : parse date.text = .ok date :=
  parse_eq_ok_iff.mpr date.spells_text

end EntitySurface.Calendar.Date
