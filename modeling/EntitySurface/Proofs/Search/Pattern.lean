import EntitySurface.Search.Pattern
import Mathlib.Data.List.Infix

/-!
# What patterns match

The pattern of a user and the query pattern made of it are both read as pieces. The query pattern
matches the texts that start with a text of the form of the user's pattern.
-/

namespace EntitySurface.Search

/-- A part of a pattern. -/
inductive Piece where
  /-- Any text, the empty one included. -/
  | anyText
  | anyChar
  | char (c : Char)
  deriving DecidableEq

/-- A text is of the form of a pattern. -/
def fits : List Piece → List Char → Bool
  | [], text => text.isEmpty
  | .anyText :: pieces, text => text.tails.any (fits pieces)
  | .anyChar :: pieces, _ :: text => fits pieces text
  | .char c :: pieces, d :: text => c == d && fits pieces text
  | .anyChar :: _, [] | .char _ :: _, [] => false

/-- The pieces of a query pattern: `%` is any text and `_` any character, unless they follow a
backslash. -/
def queryPieces : List Char → List Piece
  | [] => []
  | '\\' :: c :: rest => .char c :: queryPieces rest
  | '%' :: rest => .anyText :: queryPieces rest
  | '_' :: rest => .anyChar :: queryPieces rest
  | c :: rest => .char c :: queryPieces rest

/-- The pieces of a user's pattern: `*` is any text. -/
def userPieces (pattern : List Char) : List Piece :=
  pattern.map fun c => if c = '*' then .anyText else .char c

/-- A text starts with a text of the form of a pattern. -/
def Starts (pieces : List Piece) (text : List Char) : Prop :=
  ∃ start rest, text = start ++ rest ∧ fits pieces start = true

theorem fits_anyText_iff {pieces : List Piece} {text : List Char} :
    fits (.anyText :: pieces) text = true ↔
      ∃ skipped rest, text = skipped ++ rest ∧ fits pieces rest = true := by
  simp only [fits, List.any_eq_true, List.mem_tails]
  constructor
  · rintro ⟨rest, ⟨skipped, rfl⟩, fit⟩
    exact ⟨skipped, rest, rfl, fit⟩
  · rintro ⟨skipped, rest, rfl, fit⟩
    exact ⟨rest, List.suffix_append .., fit⟩

theorem fits_char_iff {c : Char} {pieces : List Piece} {text : List Char} :
    fits (.char c :: pieces) text = true ↔ ∃ rest, text = c :: rest ∧ fits pieces rest = true := by
  cases text with
  | nil => simp [fits]
  | cons d rest =>
      simp only [fits, Bool.and_eq_true, beq_iff_eq, List.cons.injEq]
      constructor
      · rintro ⟨rfl, fit⟩
        exact ⟨rest, ⟨rfl, rfl⟩, fit⟩
      · rintro ⟨rest, ⟨rfl, rfl⟩, fit⟩
        exact ⟨rfl, fit⟩

theorem fits_anyChar_iff {pieces : List Piece} {text : List Char} :
    fits (.anyChar :: pieces) text = true ↔
      ∃ c rest, text = c :: rest ∧ fits pieces rest = true := by
  cases text <;> simp [fits]

/-- A wildcard at the end asks for a beginning. -/
theorem fits_append_anyText_iff {pieces : List Piece} {text : List Char} :
    fits (pieces ++ [.anyText]) text = true ↔ Starts pieces text := by
  unfold Starts
  induction pieces generalizing text with
  | nil =>
      rw [List.nil_append, fits_anyText_iff]
      constructor
      · rintro -
        exact ⟨[], text, rfl, rfl⟩
      · rintro -
        exact ⟨text, [], (List.append_nil text).symm, rfl⟩
  | cons piece pieces ih =>
      rw [List.cons_append]
      cases piece with
      | anyText =>
          simp only [fits_anyText_iff, ih]
          constructor
          · rintro ⟨skipped, -, rfl, start, rest, rfl, fit⟩
            exact ⟨skipped ++ start, rest, (List.append_assoc ..).symm, skipped, start, rfl, fit⟩
          · rintro ⟨-, rest, rfl, skipped, start, rfl, fit⟩
            exact ⟨skipped, start ++ rest, List.append_assoc .., start, rest, rfl, fit⟩
      | anyChar =>
          simp only [fits_anyChar_iff, ih]
          constructor
          · rintro ⟨c, -, rfl, start, rest, rfl, fit⟩
            exact ⟨c :: start, rest, rfl, c, start, rfl, fit⟩
          · rintro ⟨-, rest, rfl, c, start, rfl, fit⟩
            exact ⟨c, start ++ rest, rfl, start, rest, rfl, fit⟩
      | char c =>
          simp only [fits_char_iff, ih]
          constructor
          · rintro ⟨-, rfl, start, rest, rfl, fit⟩
            exact ⟨c :: start, rest, rfl, start, rfl, fit⟩
          · rintro ⟨-, rest, rfl, start, rfl, fit⟩
            exact ⟨start ++ rest, rfl, start, rest, rfl, fit⟩

/-- A pattern that ends with a wildcard asks for a beginning anyway. -/
theorem starts_append_anyText_iff {pieces : List Piece} {text : List Char} :
    Starts (pieces ++ [.anyText]) text ↔ Starts pieces text := by
  constructor
  · rintro ⟨longer, rest, rfl, longerFits⟩
    obtain ⟨start, skipped, rfl, fit⟩ := fits_append_anyText_iff.mp longerFits
    exact ⟨start, skipped ++ rest, List.append_assoc .., fit⟩
  · rintro ⟨start, rest, rfl, fit⟩
    exact ⟨start, rest, rfl, fits_append_anyText_iff.mpr ⟨start, [], by simp, fit⟩⟩

/-- The characters of a user's pattern keep their meaning in the query pattern. -/
theorem queryPieces_flatMap_patternChar (pattern rest : List Char) :
    queryPieces (pattern.flatMap patternChar ++ rest) = userPieces pattern ++ queryPieces rest := by
  induction pattern with
  | nil => rfl
  | cons c pattern ih =>
      rw [List.flatMap_cons, List.append_assoc]
      have piece : ∀ tail, queryPieces (patternChar c ++ tail) =
          (if c = '*' then Piece.anyText else .char c) :: queryPieces tail := by
        intro tail
        unfold patternChar
        split
        case isTrue => simp [queryPieces]
        case isFalse =>
          split
          case isTrue special => simp [queryPieces]
          case isFalse plain =>
            simp only [Bool.or_eq_true, decide_eq_true_eq, not_or] at plain
            simp [queryPieces, plain]
      rw [piece, ih]
      rfl

/-- A star at the end of a user's pattern is a wildcard at the end. -/
theorem userPieces_append_star (pattern : List Char) :
    userPieces (pattern ++ ['*']) = userPieces pattern ++ [.anyText] := by
  simp [userPieces]

/-- The query pattern is matched by the texts that start with the user's pattern. -/
theorem fits_patternChars_iff {pattern text : List Char} :
    fits (queryPieces (patternChars pattern)) text = true ↔ Starts (userPieces pattern) text := by
  unfold patternChars
  rw [queryPieces_flatMap_patternChar]
  split
  case isTrue ends =>
    obtain ⟨front, rfl⟩ := List.getLast?_eq_some_iff.mp (eq_of_beq ends)
    rw [userPieces_append_star, queryPieces, List.append_nil, fits_append_anyText_iff,
      starts_append_anyText_iff]
  case isFalse => exact fits_append_anyText_iff

/-! ## Patterns of what was entered -/

/-- The query pattern is made of the trimmed input, unless nothing is left of it. -/
theorem prefixPattern?_eq (input : String) :
    prefixPattern? input =
      if Text.trim input = "" then none
      else some (String.ofList (patternChars (Text.trim input).toList)) := by
  unfold prefixPattern? Text.trim
  cases Text.trimChars input.toList with
  | nil => rfl
  | cons c rest => simp [String.ofList_eq_empty_iff]

/-- Input has no query pattern exactly when nothing is left after trimming. Otherwise a text matches
the query pattern exactly when it matches the trimmed input with a star after it, in which stars are
any text and all other characters stand for themselves. -/
theorem prefixPattern?_matches (input : String) :
    (prefixPattern? input = none ↔ Text.trim input = "") ∧
      ∀ pattern, prefixPattern? input = some pattern → ∀ text : String,
        fits (queryPieces pattern.toList) text.toList = true ↔
          fits (userPieces (Text.trim input ++ "*").toList) text.toList = true := by
  rw [prefixPattern?_eq]
  split
  case isTrue empty => simp [empty]
  case isFalse shows =>
    refine ⟨by simp [shows], fun pattern made text => ?_⟩
    obtain rfl := Option.some.inj made
    have star : userPieces ((Text.trim input).toList ++ "*".toList) =
        userPieces (Text.trim input).toList ++ [.anyText] := userPieces_append_star _
    rw [String.toList_ofList, String.toList_append, fits_patternChars_iff, star,
      fits_append_anyText_iff]

/-- The characters that query patterns give a meaning to stand for themselves; the star in the
middle, and the one that is added, for any text. -/
theorem prefixPattern?_matches_percentage :
    prefixPattern? " 5%*\\ " = some "5\\%%\\\\%" ∧
      fits (queryPieces "5\\%%\\\\%".toList) "5% of C:\\temp".toList = true ∧
        fits (queryPieces "5\\%%\\\\%".toList) "50 % of C:\\".toList = false := by
  have made : prefixPattern? " 5%*\\ " = some "5\\%%\\\\%" := by decide
  have trimmed : Text.trim " 5%*\\ " = "5%*\\" := by decide
  have agrees := (prefixPattern?_matches " 5%*\\ ").2 _ made
  rw [trimmed] at agrees
  refine ⟨made, (agrees _).mpr (by decide), ?_⟩
  rw [← Bool.not_eq_true, agrees]
  decide

end EntitySurface.Search
