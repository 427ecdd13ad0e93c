import EntitySurface.Proofs.Text.Words
import Mathlib.Data.Char
import Mathlib.Data.Set.Basic
import Mathlib.Order.Interval.Set.Defs

/-!
# How accepted names are spelled

An identifier is a letter and then letters, digits and underscores. A namespace is one segment or
several joined by dots, and a segment is spelled like an identifier in small letters. The check of a
namespace does not take it apart: it goes along the characters and asks for a small letter at the
beginning and behind every dot. All letters and digits are those of ASCII.
-/

namespace EntitySurface.Name

open Text

/-! ## Characters -/

/-- The small letters. -/
def smallLetters : Set Char := Set.Icc 'a' 'z'

/-- The letters of both cases. -/
def letters : Set Char := Set.Icc 'A' 'Z' ∪ smallLetters

/-- The digits. -/
def digits : Set Char := Set.Icc '0' '9'

section Characters

variable {c : Char}

theorem isLower_iff : c.isLower = true ↔ c ∈ smallLetters := by
  show (decide (c.val ≥ 'a'.val) && decide (c.val ≤ 'z'.val)) = true ↔ 'a' ≤ c ∧ c ≤ 'z'
  simp [Char.le_def]

theorem isUpper_iff : c.isUpper = true ↔ c ∈ Set.Icc 'A' 'Z' :=
  decide_eq_true_iff

theorem isAlpha_iff : c.isAlpha = true ↔ c ∈ letters := by
  show (c.isUpper || c.isLower) = true ↔ c ∈ letters
  rw [Bool.or_eq_true, isUpper_iff, isLower_iff, letters, Set.mem_union]

theorem isDigit_iff : c.isDigit = true ↔ c ∈ digits := by
  show (decide (c.val ≥ '0'.val) && decide (c.val ≤ '9'.val)) = true ↔ '0' ≤ c ∧ c ≤ '9'
  simp [Char.le_def]

theorem isNameChar_iff : isNameChar c = true ↔ c ∈ letters ∨ c ∈ digits ∨ c = '_' := by
  simp [isNameChar, Char.isAlphanum, isAlpha_iff, isDigit_iff, or_assoc]

theorem isSegmentChar_iff : isSegmentChar c = true ↔ c ∈ smallLetters ∨ c ∈ digits ∨ c = '_' := by
  simp [isSegmentChar, isLower_iff, isDigit_iff, or_assoc]

end Characters

/-! ## Identifiers and segments -/

/-- A letter of the alphabet, and then letters of it, digits and underscores. -/
def IsSpelledIn (alphabet : Set Char) (text : String) : Prop :=
  ∃ c rest, text.toList = c :: rest ∧ c ∈ alphabet ∧
    ∀ d ∈ rest, d ∈ alphabet ∨ d ∈ digits ∨ d = '_'

theorem not_isSpelledIn_of_nil {alphabet : Set Char} {text : String} (empty : text.toList = []) :
    ¬IsSpelledIn alphabet text := by
  rintro ⟨c, rest, chars, -⟩
  rw [empty] at chars
  contradiction

theorem isSpelledIn_iff_of_cons {alphabet : Set Char} {text : String} {c : Char} {rest : List Char}
    (chars : text.toList = c :: rest) :
    IsSpelledIn alphabet text ↔
      c ∈ alphabet ∧ ∀ d ∈ rest, d ∈ alphabet ∨ d ∈ digits ∨ d = '_' := by
  constructor
  · rintro ⟨_, _, same, letter, others⟩
    obtain ⟨rfl, rfl⟩ := List.cons.inj (chars.symm.trans same)
    exact ⟨letter, others⟩
  · rintro ⟨letter, others⟩
    exact ⟨c, rest, chars, letter, others⟩

theorem isIdentifierShape_iff_isSpelledIn {name : String} :
    isIdentifierShape name.toList = true ↔ IsSpelledIn letters name := by
  cases chars : name.toList with
  | nil => simp [isIdentifierShape, not_isSpelledIn_of_nil chars]
  | cons c rest =>
      rw [isSpelledIn_iff_of_cons chars]
      simp [isIdentifierShape, isAlpha_iff, isNameChar_iff]

theorem isSmallName_iff_isSpelledIn {text : String} :
    isSmallName text = true ↔ IsSpelledIn smallLetters text := by
  unfold isSmallName
  cases chars : text.toList with
  | nil => simp [not_isSpelledIn_of_nil chars]
  | cons c rest =>
      rw [isSpelledIn_iff_of_cons chars]
      simp [isLower_iff, isSegmentChar_iff]

/-- An identifier is a text of at most 64 bytes that is spelled in the letters of both cases. -/
theorem isIdentifier_iff {name : String} :
    isIdentifier name = true ↔ name.utf8ByteSize ≤ 64 ∧ IsSpelledIn letters name := by
  rw [isIdentifier, Bool.and_eq_true, decide_eq_true_eq, maxLength,
    isIdentifierShape_iff_isSpelledIn]

/-! ## Namespaces -/

section Segments

variable {c : Char} {rest first : List Char} {others : List (List Char)}

theorem splitOn_cons_of_ne (inside : c ≠ '.') (split : rest.splitOn '.' = first :: others) :
    (c :: rest).splitOn '.' = (c :: first) :: others := by
  simp [List.splitOn_cons_eq_if_modifyHead, inside, split]

theorem splitOn_cons_dot (rest : List Char) :
    ('.' :: rest).splitOn '.' = [] :: rest.splitOn '.' := by
  simp [List.splitOn_cons_eq_if_modifyHead]

/-- The check of a whole namespace, given what the check of the rest says about the open segment and
the ones after it. -/
theorem isNamespaceShape_cons (split : rest.splitOn '.' = first :: others)
    (tail : isSegmentTail rest = (first.all isSegmentChar &&
      others.all fun segment => isSmallName (String.ofList segment))) :
    isNamespaceShape (c :: rest) =
      ((c :: rest).splitOn '.').all fun segment => isSmallName (String.ofList segment) := by
  by_cases dot : c = '.'
  · subst dot
    simp [splitOn_cons_dot, isNamespaceShape, isSmallName]
  · rw [splitOn_cons_of_ne dot split, isNamespaceShape, tail, ← Bool.and_assoc]
    simp [isSmallName]

/-- After the first letter, the open segment goes on up to a dot, and segments follow. -/
theorem isSegmentTail_eq_all (split : rest.splitOn '.' = first :: others) :
    isSegmentTail rest = (first.all isSegmentChar &&
      others.all fun segment => isSmallName (String.ofList segment)) := by
  fun_induction isSegmentTail rest generalizing first others with
  | case1 =>
      obtain ⟨rfl, rfl⟩ := List.cons.inj split
      rfl
  | case2 c rest ih =>
      rw [splitOn_cons_dot] at split
      obtain ⟨rfl, rfl⟩ := List.cons.inj split
      obtain ⟨first, others, inner⟩ := List.exists_cons_of_ne_nil (List.splitOn_ne_nil '.' rest)
      -- Behind a dot the check starts again, as at the beginning of a namespace.
      exact isNamespaceShape_cons inner (ih inner)
  | case3 c rest noDot ih =>
      obtain ⟨first, others, inner⟩ := List.exists_cons_of_ne_nil (List.splitOn_ne_nil '.' rest)
      by_cases dot : c = '.'
      · subst dot
        cases rest with
        | nil =>
            obtain ⟨rfl, rfl⟩ := List.cons.inj split
            rfl
        | cons d rest => exact (noDot d rest rfl rfl).elim
      · rw [splitOn_cons_of_ne dot inner] at split
        obtain ⟨rfl, rfl⟩ := List.cons.inj split
        rw [ih inner, List.all_cons, Bool.and_assoc]

end Segments

/-- The check goes along a namespace once, and all pieces between dots are segments. -/
theorem isNamespaceShape_eq_all (space : List Char) :
    isNamespaceShape space =
      (space.splitOn '.').all fun segment => isSmallName (String.ofList segment) := by
  cases space with
  | nil => rfl
  | cons c rest =>
      obtain ⟨first, others, split⟩ := List.exists_cons_of_ne_nil (List.splitOn_ne_nil '.' rest)
      exact isNamespaceShape_cons split (isSegmentTail_eq_all split)

/-- Nothing is wrong with a namespace and with no other text. -/
theorem namespaceProblem?_eq_none_iff {space : String} :
    namespaceProblem? space = none ↔ isNamespace space = true := by
  simp [namespaceProblem?]

theorem IsSpelledIn.dot_notMem {segment : String} (spelled : IsSpelledIn smallLetters segment) :
    '.' ∉ segment.toList := by
  obtain ⟨-, -, -, -, named⟩ := isSmallName_iff.mp (isSmallName_iff_isSpelledIn.mpr spelled)
  exact fun mem => absurd (named '.' mem) (by decide)

/-- A namespace is made of segments with single dots between them. -/
theorem isNamespace_iff {space : String} :
    isNamespace space = true ↔ ∃ segments : List String, segments ≠ [] ∧
      (∀ segment ∈ segments, IsSpelledIn smallLetters segment) ∧
        space = ".".intercalate segments := by
  rw [isNamespace, isNamespaceShape_eq_all, List.all_eq_true]
  simp only [isSmallName_iff_isSpelledIn]
  constructor
  · intro spelled
    refine ⟨(space.toList.splitOn '.').map String.ofList, ?_, List.forall_mem_map.mpr spelled, ?_⟩
    · exact mt List.map_eq_nil_iff.mp (List.splitOn_ne_nil '.' _)
    · have chars : String.toList ∘ String.ofList = id := funext fun _ => String.toList_ofList
      rw [← String.toList_inj, String.toList_intercalate, List.map_map, chars, List.map_id]
      exact (List.intercalate_splitOn '.').symm
  · rintro ⟨segments, nonempty, spelled, rfl⟩
    have whole : ∀ segment ∈ segments.map String.toList, '.' ∉ segment :=
      List.forall_mem_map.mpr fun segment mem => (spelled segment mem).dot_notMem
    have dot : ".".toList = ['.'] := rfl
    rw [String.toList_intercalate, dot,
      List.splitOn_intercalate '.' whole (mt List.map_eq_nil_iff.mp nonempty), List.forall_mem_map]
    simpa only [String.ofList_toList] using spelled

/-! ## Accepted names -/

/-- The checks accept exactly the names of their form. Both checks of an identifier accept a name
exactly when it has at most 64 bytes and is spelled in letters of both cases, and the check of a
namespace accepts exactly what is put together from segments in small letters and single dots. -/
theorem accepted_iff_spelled (name : String) :
    (identifierProblem? name = none ↔ isIdentifier name = true) ∧
      (isIdentifier name = true ↔ name.utf8ByteSize ≤ 64 ∧ IsSpelledIn letters name) ∧
      (namespaceProblem? name = none ↔ ∃ segments : List String, segments ≠ [] ∧
        (∀ segment ∈ segments, IsSpelledIn smallLetters segment) ∧
          name = ".".intercalate segments) := by
  refine ⟨identifierProblem?_eq_none_iff, isIdentifier_iff, ?_⟩
  rw [namespaceProblem?_eq_none_iff, isNamespace_iff]

/-- Letters outside ASCII, a line break at the end and an empty segment are refused. -/
example : isIdentifier "Größe" = false ∧ isNamespace "sales\n" = false ∧
    isNamespace "acme..sales" = false := by
  decide

end EntitySurface.Name
