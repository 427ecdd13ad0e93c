import EntitySurface.Proofs.Text.AsciiCase
import EntitySurface.Text.Blank

/-!
# Characters that are no blanks

Name characters and digits are no blanks, so a reader that skips blanks stops at them.
-/

namespace EntitySurface.Text

open Name

theorem not_isBlank_of_isNameChar {c : Char} (named : isNameChar c = true) : isBlank c = false := by
  have ranges := toNat_of_isNameChar named
  simp only [isBlank, Bool.or_eq_false_iff, Bool.and_eq_false_iff, decide_eq_false_iff_not,
    beq_eq_false_iff_ne]
  omega

theorem not_isBlank_of_isDigit {c : Char} (digit : c.isDigit = true) : isBlank c = false :=
  not_isBlank_of_isNameChar (by simp [isNameChar, Char.isAlphanum, digit])

/-- A text without blanks at its front keeps it. -/
theorem dropBlanks_cons {c : Char} {rest : List Char} (shows : isBlank c = false) :
    dropBlanks (c :: rest) = c :: rest := by
  simp [dropBlanks, shows]

/-- Trimming leaves a text without blanks as it is. -/
theorem trimChars_eq_self {text : List Char} (shows : ∀ c ∈ text, isBlank c = false) :
    trimChars text = text := by
  have front : ∀ {part : List Char}, (∀ c ∈ part, isBlank c = false) → dropBlanks part = part := by
    intro part shows
    cases part with
    | nil => rfl
    | cons c rest => exact dropBlanks_cons (shows c (List.mem_cons_self ..))
  have back : ∀ c ∈ text.reverse, isBlank c = false :=
    fun c mem => shows c (List.mem_reverse.mp mem)
  rw [trimChars, front shows, front back, List.reverse_reverse]

end EntitySurface.Text
