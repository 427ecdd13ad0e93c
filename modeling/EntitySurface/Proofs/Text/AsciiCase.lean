import EntitySurface.Name
import EntitySurface.Text.Case

/-!
# Case of identifiers

Columns are kept apart up to the case of ASCII letters, search arguments as texts in lowercase.
Identifiers are ASCII texts, and on ASCII texts both distinctions are the same: the lowercase forms
agree exactly when the texts differ in the case of letters only.
-/

namespace EntitySurface.Text

/-- A text of ASCII characters. -/
def IsAscii (text : String) : Prop :=
  ∀ c ∈ text.toList, c.val < 128

instance (text : String) : Decidable (IsAscii text) :=
  List.decidableBAll _ text.toList

/-! ## Equality up to case -/

theorem equalIgnoringAsciiCase_iff {first second : String} :
    equalIgnoringAsciiCase first second = true ↔
      first.toList.map Char.toLower = second.toList.map Char.toLower := by
  simp [equalIgnoringAsciiCase]

@[simp]
theorem equalIgnoringAsciiCase_refl (text : String) : equalIgnoringAsciiCase text text = true :=
  equalIgnoringAsciiCase_iff.mpr rfl

theorem equalIgnoringAsciiCase_comm (first second : String) :
    equalIgnoringAsciiCase first second = equalIgnoringAsciiCase second first :=
  BEq.comm

/-- Texts that differ in more than case are distinct. -/
theorem nodup_of_apart {texts : List String}
    (apart : texts.Pairwise fun first second => equalIgnoringAsciiCase first second = false) :
    texts.Nodup := by
  refine apart.imp fun {first second} apart same => ?_
  rw [same, equalIgnoringAsciiCase_refl] at apart
  contradiction

/-- A common ending does not matter for equality up to case. -/
theorem equalIgnoringAsciiCase_append_right (first second ending : String) :
    equalIgnoringAsciiCase (first ++ ending) (second ++ ending) =
      equalIgnoringAsciiCase first second := by
  rw [Bool.eq_iff_iff, equalIgnoringAsciiCase_iff, equalIgnoringAsciiCase_iff]
  simp

/-- A common beginning does not matter for equality up to case. -/
theorem equalIgnoringAsciiCase_append_left (start first second : String) :
    equalIgnoringAsciiCase (start ++ first) (start ++ second) =
      equalIgnoringAsciiCase first second := by
  rw [Bool.eq_iff_iff, equalIgnoringAsciiCase_iff, equalIgnoringAsciiCase_iff]
  simp

/-- ASCII texts have the same lowercase form exactly when they differ in case only. -/
theorem lowercase_eq_iff_of_ascii {first second : String} (left : IsAscii first)
    (right : IsAscii second) :
    lowercase first = lowercase second ↔ equalIgnoringAsciiCase first second = true := by
  rw [lowercase_of_ascii left, lowercase_of_ascii right, equalIgnoringAsciiCase_iff,
    String.ofList_inj]

end EntitySurface.Text

namespace EntitySurface.Name

open Text

/-- The ranges of name characters. -/
theorem toNat_of_isNameChar {c : Char} (named : isNameChar c = true) :
    ((65 ≤ c.toNat ∧ c.toNat ≤ 90 ∨ 97 ≤ c.toNat ∧ c.toNat ≤ 122) ∨
      48 ≤ c.toNat ∧ c.toNat ≤ 57) ∨ c.toNat = 95 := by
  have ranges : (decide (c.val ≥ 65 ∧ c.val ≤ 90) || c.val ≥ 97 && c.val ≤ 122 ||
      c.val ≥ 48 && c.val ≤ 57 || c == '_') = true := named
  simp only [Bool.or_eq_true, Bool.and_eq_true, decide_eq_true_eq, beq_iff_eq, ge_iff_le,
    UInt32.le_iff_toNat_le] at ranges
  rcases ranges with range | rfl
  · exact .inl range
  · exact .inr rfl

theorem isNameChar_ascii {c : Char} (named : isNameChar c = true) : c.val < 128 := by
  have ranges := toNat_of_isNameChar named
  have bounded : c.toNat < 128 := by omega
  exact UInt32.lt_iff_toNat_lt.mpr bounded

theorem isNameChar_of_isLower {c : Char} (lower : c.isLower = true) : isNameChar c = true := by
  show (c.isUpper || c.isLower || c.isDigit || c == '_') = true
  simp [lower]

theorem isNameChar_toLower {c : Char} (named : isNameChar c = true) :
    isNameChar c.toLower = true := by
  unfold Char.toLower
  split
  · next upper =>
    have bounds : 65 ≤ c.toNat ∧ c.toNat ≤ 90 := by simpa [UInt32.le_iff_toNat_le] using upper
    apply isNameChar_of_isLower
    show (decide (c.val + 32 ≥ 97) && decide (c.val + 32 ≤ 122)) = true
    simp only [Bool.and_eq_true, decide_eq_true_eq, ge_iff_le, UInt32.le_iff_toNat_le,
      UInt32.toNat_add]
    change 97 ≤ (c.toNat + 32) % 4294967296 ∧ (c.toNat + 32) % 4294967296 ≤ 122
    omega
  · exact named

/-- In lower case, letters are small, and name characters are those of namespaces. -/
theorem isSegmentChar_toLower {c : Char} (named : isNameChar c = true) :
    isSegmentChar c.toLower = true ∧ (c.isAlpha = true → c.toLower.isLower = true) := by
  have table : ∀ code < 128, isNameChar (Char.ofNat code) = true →
      isSegmentChar (Char.ofNat code).toLower = true ∧
        ((Char.ofNat code).isAlpha = true → (Char.ofNat code).toLower.isLower = true) := by
    decide +kernel
  have lowered := table c.toNat (UInt32.lt_iff_toNat_lt.mp (isNameChar_ascii named))
  rw [Char.ofNat_toNat] at lowered
  exact lowered named

/-- Identifiers are made of name characters, a letter first. -/
theorem isIdentifierShape_iff {text : List Char} :
    isIdentifierShape text = true ↔
      ∃ c rest, text = c :: rest ∧ c.isAlpha = true ∧ ∀ d ∈ text, isNameChar d = true := by
  cases text with
  | nil => simp [isIdentifierShape]
  | cons c rest =>
      simp only [isIdentifierShape, Bool.and_eq_true, List.all_eq_true, List.cons.injEq,
        List.forall_mem_cons]
      constructor
      · rintro ⟨letter, others⟩
        exact ⟨c, rest, ⟨rfl, rfl⟩, letter, by simp [isNameChar, Char.isAlphanum, letter], others⟩
      · rintro ⟨_, _, ⟨rfl, rfl⟩, letter, -, others⟩
        exact ⟨letter, others⟩

theorem isIdentifierShape_append {front back : List Char} (shape : isIdentifierShape front = true)
    (others : ∀ c ∈ back, isNameChar c = true) : isIdentifierShape (front ++ back) = true := by
  obtain ⟨c, rest, rfl, letter, named⟩ := isIdentifierShape_iff.mp shape
  refine isIdentifierShape_iff.mpr ⟨c, rest ++ back, rfl, letter, fun d mem => ?_⟩
  exact (List.mem_append.mp mem).elim (named d) (others d)

theorem isAscii_of_isIdentifierShape {name : String}
    (shape : isIdentifierShape name.toList = true) : IsAscii name := by
  obtain ⟨-, -, -, -, named⟩ := isIdentifierShape_iff.mp shape
  exact fun c mem => isNameChar_ascii (named c mem)

/-- Nothing is wrong with an identifier and with no other text. -/
theorem identifierProblem?_eq_none_iff {name : String} :
    identifierProblem? name = none ↔ isIdentifier name = true := by
  unfold identifierProblem?
  split
  case isTrue empty =>
    subst empty
    decide
  case isFalse =>
    split
    case isTrue long => simp [isIdentifier, Nat.not_le.mpr long]
    case isFalse short => simp [isIdentifier, Nat.not_lt.mp short]

theorem isIdentifierShape_of_identifierProblem?_eq_none {name : String}
    (valid : identifierProblem? name = none) : isIdentifierShape name.toList = true := by
  have identifier := identifierProblem?_eq_none_iff.mp valid
  rw [isIdentifier, Bool.and_eq_true] at identifier
  exact identifier.2

/-- Identifiers consist of name characters. -/
theorem isNameChar_of_identifierProblem?_eq_none {name : String}
    (valid : identifierProblem? name = none) : ∀ c ∈ name.toList, isNameChar c = true := by
  obtain ⟨-, -, -, -, named⟩ :=
    isIdentifierShape_iff.mp (isIdentifierShape_of_identifierProblem?_eq_none valid)
  exact named

/-- Identifiers are ASCII texts. -/
theorem isAscii_of_identifierProblem?_eq_none {name : String}
    (valid : identifierProblem? name = none) : IsAscii name :=
  isAscii_of_isIdentifierShape (isIdentifierShape_of_identifierProblem?_eq_none valid)

end EntitySurface.Name
