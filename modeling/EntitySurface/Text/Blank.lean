/-!
# Blank characters and trimming

The Unicode property White_Space and the removal of blanks at both ends of a text. Searches treat a
blank input like an absent one, so the class has to be the full property and not the ASCII blanks.
-/

namespace EntitySurface.Text

/-- Characters with the property White_Space. -/
def isBlank (c : Char) : Bool :=
  let n := c.toNat
  (9 ≤ n && n ≤ 13) || n == 0x20 || n == 0x85 || n == 0xA0 || n == 0x1680
    || (0x2000 ≤ n && n ≤ 0x200A) || n == 0x2028 || n == 0x2029 || n == 0x202F || n == 0x205F
    || n == 0x3000

/-- Drop the blanks at the front. -/
def dropBlanks (text : List Char) : List Char :=
  text.dropWhile isBlank

/-- Drop the blanks at both ends of a list of characters. -/
def trimChars (text : List Char) : List Char :=
  (dropBlanks (dropBlanks text).reverse).reverse

/-- Drop the blanks at both ends. -/
def trim (text : String) : String :=
  String.ofList (trimChars text.toList)

/-- A text of blanks only. -/
def isAllBlank (text : String) : Bool :=
  text.toList.all isBlank

theorem dropBlanks_eq_nil_iff {text : List Char} :
    dropBlanks text = [] ↔ ∀ c ∈ text, isBlank c = true := by
  induction text with
  | nil => simp [dropBlanks]
  | cons c rest ih =>
      by_cases blank : isBlank c = true
      · have dropped : dropBlanks (c :: rest) = dropBlanks rest := by simp [dropBlanks, blank]
        rw [dropped, ih]
        simp [blank]
      · simp [dropBlanks, blank]

/-- What is left after dropping blanks starts with a character that is none. -/
theorem not_isBlank_of_dropBlanks_eq_cons {text rest : List Char} {c : Char}
    (dropped : dropBlanks text = c :: rest) : isBlank c = false := by
  induction text with
  | nil => simp [dropBlanks] at dropped
  | cons d tail ih =>
      by_cases blank : isBlank d = true
      · exact ih (by simpa [dropBlanks, blank] using dropped)
      · simp [dropBlanks, blank] at dropped
        simpa [dropped.1] using blank

theorem trimChars_eq_nil_iff {text : List Char} :
    trimChars text = [] ↔ ∀ c ∈ text, isBlank c = true := by
  have back : trimChars text = [] ↔ ∀ c ∈ dropBlanks text, isBlank c = true := by
    simp [trimChars, dropBlanks_eq_nil_iff]
  rw [back, ← @dropBlanks_eq_nil_iff text]
  constructor
  · intro blank
    cases remaining : dropBlanks text with
    | nil => rfl
    | cons c rest =>
        have head := blank c (by simp [remaining])
        simp [not_isBlank_of_dropBlanks_eq_cons remaining] at head
  · intro empty
    simp [empty]

/-- Trimming leaves nothing exactly of the blank texts. -/
theorem trim_eq_empty_iff {text : String} : trim text = "" ↔ isAllBlank text = true := by
  have : trim text = "" ↔ trimChars text.toList = [] := by
    simp [trim, String.ofList_eq_empty_iff]
  simp [this, trimChars_eq_nil_iff, isAllBlank]

end EntitySurface.Text
