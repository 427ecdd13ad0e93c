import EntitySurface.Text.CaseMapping
import EntitySurface.Text.Letter

/-!
# Changing the case of a text

Whole-text case conversion. Every character is mapped on its own, except that a capital sigma at the
end of a word becomes the final form of the small letter.
-/

namespace EntitySurface.Text

/-- Skipping case-ignorable characters, the next character takes part in case. -/
def reachesCased (text : List Char) : Bool :=
  match text.dropWhile isCaseIgnorable with
  | [] => false
  | c :: _ => isCased c

/-- Lowercase `text`, where `before` holds the characters already passed, nearest first. -/
def lowercaseFrom (before : List Char) : List Char → List Char
  | [] => []
  | c :: rest =>
      let mapped :=
        if c = 'Σ' then
          if reachesCased before && !reachesCased rest then ['ς'] else ['σ']
        else lowerChar c
      mapped ++ lowercaseFrom (c :: before) rest

/-- The lowercase form of a text. -/
def lowercase (text : String) : String :=
  String.ofList (lowercaseFrom [] text.toList)

/-- The uppercase form of a text. -/
def uppercase (text : String) : String :=
  String.ofList (text.toList.flatMap upperChar)

/-- Equality of two texts up to the case of ASCII letters. -/
def equalIgnoringAsciiCase (first second : String) : Bool :=
  first.toList.map Char.toLower == second.toList.map Char.toLower

theorem lowercaseFrom_of_ascii {text : List Char} (ascii : ∀ c ∈ text, c.val < 128)
    (before : List Char) : lowercaseFrom before text = text.map Char.toLower := by
  induction text generalizing before with
  | nil => rfl
  | cons c rest ih =>
      have head : c.val < 128 := ascii c (by simp)
      have notSigma : c ≠ 'Σ' := by
        intro equal
        subst equal
        exact absurd head (by decide)
      have tail := ih (fun d mem => ascii d (by simp [mem])) (c :: before)
      simp [lowercaseFrom, notSigma, lowerChar_of_ascii head, tail]

/-- On ASCII texts the lowercase form maps letter by letter. -/
theorem lowercase_of_ascii {text : String} (ascii : ∀ c ∈ text.toList, c.val < 128) :
    lowercase text = String.ofList (text.toList.map Char.toLower) := by
  simp [lowercase, lowercaseFrom_of_ascii ascii]

/-- On ASCII texts the uppercase form maps letter by letter. -/
theorem uppercase_of_ascii {text : String} (ascii : ∀ c ∈ text.toList, c.val < 128) :
    uppercase text = String.ofList (text.toList.map Char.toUpper) := by
  have chars : ∀ l : List Char, (∀ c ∈ l, c.val < 128) →
      l.flatMap upperChar = l.map Char.toUpper := by
    intro l
    induction l with
    | nil => intro _; rfl
    | cons c rest ih =>
        intro all
        have head := upperChar_of_ascii (all c (by simp))
        have tail := ih fun d mem => all d (by simp [mem])
        simp [head, tail]
  simp [uppercase, chars _ ascii]

end EntitySurface.Text
