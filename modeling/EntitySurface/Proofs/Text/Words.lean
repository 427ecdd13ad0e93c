import EntitySurface.Proofs.Text.AsciiCase
import EntitySurface.Text.Plural
import EntitySurface.Text.Words

/-!
# What snake case keeps

Cutting a name into words loses the separators between its pieces and nothing else. So the snake
case of an ASCII name consists of its letters and digits in lower case, and of underscores. That of
an identifier is a small name: it starts with a small letter, and so does its plural.
-/

namespace EntitySurface.Text

/-- The pieces of a name hold its letters and numbers. -/
theorem flatten_pieces (name : List Char) : (pieces name).flatten = name.filter isAlphanumeric := by
  induction name with
  | nil => rfl
  | cons c rest ih =>
      rw [pieces]
      cases kept : isAlphanumeric c with
      | true =>
          rw [if_pos rfl, List.filter_cons_of_pos kept, ← ih]
          cases pieces rest <;> simp
      | false =>
          rw [if_neg (by simp), List.filter_cons_of_neg (by simp [kept]), ← ih]
          rfl

/-- Cutting a piece loses nothing, neither of the piece nor of the open word. -/
theorem flatten_cutPiece (mode : WordMode) (current : List Char) {piece : List Char}
    (filled : piece ≠ []) : (cutPiece mode current piece).flatten = current.reverse ++ piece := by
  induction piece generalizing mode current with
  | nil => contradiction
  | cons c rest ih =>
      cases rest with
      | nil => simp [cutPiece]
      | cons next rest =>
          rw [cutPiece]
          split
          · simp [ih]
          · split <;> simp [ih]

theorem flatten_cutPiece_nil (mode : WordMode) (piece : List Char) :
    (cutPiece mode [] piece).flatten = piece := by
  cases piece with
  | nil => rfl
  | cons c rest => exact flatten_cutPiece mode [] (List.cons_ne_nil c rest)

/-- The words of a name hold its letters and numbers. -/
theorem flatten_words (name : List Char) : (words name).flatten = name.filter isAlphanumeric := by
  have uncut : (pieces name).map (List.flatten ∘ cutPiece .none []) = pieces name :=
    List.map_id'' (flatten_cutPiece_nil .none) _
  rw [words, List.flatMap_def, List.flatten_flatten, List.map_map, uncut, flatten_pieces]

/-- The words of a name that starts with a letter start with this letter. -/
theorem flatten_words_of_letter {c : Char} (letter : c.isAlpha = true) (rest : List Char) :
    (words (c :: rest)).flatten = c :: rest.filter isAlphanumeric := by
  have named : Name.isNameChar c = true := by simp [Name.isNameChar, Char.isAlphanum, letter]
  have first : isAlphanumeric c = true := by
    rw [isAlphanumeric_of_ascii (Name.isNameChar_ascii named), Char.isAlphanum, letter,
      Bool.true_or]
  rw [flatten_words, List.filter_cons_of_pos first]

theorem lowerWord_of_ascii {word : List Char} (ascii : ∀ c ∈ word, c.val < 128) :
    lowerWord word = word.map Char.toLower := by
  induction word with
  | nil => rfl
  | cons c rest ih =>
      obtain ⟨first, others⟩ := List.forall_mem_cons.mp ascii
      cases rest with
      | nil =>
          have notSigma : c ≠ 'Σ' := by
            rintro rfl
            exact absurd first (by decide)
          simp [lowerWord, notSigma, lowerChar_of_ascii first]
      | cons next rest => simp [lowerWord, ih others, lowerChar_of_ascii first]

/-! ## Joining words -/

theorem mem_of_mem_intercalate {α : Type} {c : α} {separator : List α} {lists : List (List α)}
    (mem : c ∈ separator.intercalate lists) : c ∈ separator ∨ ∃ list ∈ lists, c ∈ list := by
  induction lists with
  | nil => contradiction
  | cons first rest ih =>
      cases rest with
      | nil => exact Or.inr ⟨first, List.mem_cons_self, by simpa using mem⟩
      | cons second rest =>
          rw [List.intercalate_cons_cons, List.mem_append, List.mem_append] at mem
          rcases mem with (inFirst | between) | later
          · exact Or.inr ⟨first, List.mem_cons_self, inFirst⟩
          · exact Or.inl between
          · refine (ih later).imp_right ?_
            rintro ⟨list, among, inList⟩
            exact ⟨list, List.mem_cons_of_mem _ among, inList⟩

theorem subset_intercalate {α : Type} {separator list : List α} {lists : List (List α)}
    (mem : list ∈ lists) : list ⊆ separator.intercalate lists := by
  induction lists with
  | nil => contradiction
  | cons first rest ih =>
      cases rest with
      | nil => simp [List.mem_singleton.mp mem]
      | cons second rest =>
          rw [List.intercalate_cons_cons]
          rcases List.mem_cons.mp mem with rfl | later
          · simp
          · exact List.subset_append_of_subset_right _ (ih later)

section Ascii

variable {name : String} (ascii : IsAscii name)
include ascii

theorem lowerWord_of_mem_words {word : List Char} (mem : word ∈ words name.toList) :
    lowerWord word = word.map Char.toLower ∧ word ⊆ name.toList := by
  have within : word ⊆ name.toList := by
    intro c inWord
    have kept : c ∈ (words name.toList).flatten := List.mem_flatten_of_mem mem inWord
    rw [flatten_words] at kept
    exact (List.mem_filter.mp kept).1
  exact ⟨lowerWord_of_ascii fun c inWord => ascii c (within inWord), within⟩

/-- The snake case of a name consists of underscores and of its characters in lower case. -/
theorem mem_snakeCase {c : Char} (mem : c ∈ (snakeCase name).toList) :
    c = '_' ∨ ∃ d ∈ name.toList, c = d.toLower := by
  rw [snakeCase, String.toList_ofList] at mem
  refine (mem_of_mem_intercalate mem).imp List.mem_singleton.mp ?_
  rintro ⟨_, among, inLowered⟩
  obtain ⟨word, inWords, rfl⟩ := List.mem_map.mp among
  obtain ⟨lowered, within⟩ := lowerWord_of_mem_words ascii inWords
  rw [lowered] at inLowered
  obtain ⟨d, inWord, rfl⟩ := List.mem_map.mp inLowered
  exact ⟨d, within inWord, rfl⟩

/-- The snake case of a name has the letters and digits of the name in it. -/
theorem toLower_mem_snakeCase {d : Char} (mem : d ∈ name.toList) (kept : isAlphanumeric d = true) :
    d.toLower ∈ (snakeCase name).toList := by
  have inWords : d ∈ (words name.toList).flatten := by
    rw [flatten_words]
    exact List.mem_filter.mpr ⟨mem, kept⟩
  obtain ⟨word, among, inWord⟩ := List.mem_flatten.mp inWords
  rw [snakeCase, String.toList_ofList]
  apply subset_intercalate (List.mem_map_of_mem among)
  rw [(lowerWord_of_mem_words ascii among).1]
  exact List.mem_map_of_mem inWord

end Ascii

/-- The snake case of a name that is made of name characters is made of them too. -/
theorem isNameChar_of_mem_snakeCase {name : String}
    (named : ∀ c ∈ name.toList, Name.isNameChar c = true) {c : Char}
    (mem : c ∈ (snakeCase name).toList) : Name.isNameChar c = true := by
  rcases mem_snakeCase (fun c mem => Name.isNameChar_ascii (named c mem)) mem with
    rfl | ⟨d, inName, rfl⟩
  · decide
  · exact Name.isNameChar_toLower (named d inName)

open Name

/-! ## Small names -/

/-- Small letters, digits and underscores, the first one a letter. -/
def isSmallName (text : String) : Bool :=
  match text.toList with
  | [] => false
  | c :: rest => c.isLower && rest.all isSegmentChar

theorem isSmallName_iff {text : String} :
    isSmallName text = true ↔ ∃ c rest, text.toList = c :: rest ∧ c.isLower = true ∧
      ∀ d ∈ text.toList, isSegmentChar d = true := by
  unfold isSmallName
  cases text.toList with
  | nil => simp
  | cons c rest =>
      simp only [Bool.and_eq_true, List.all_eq_true, List.cons.injEq, List.forall_mem_cons]
      constructor
      · rintro ⟨small, others⟩
        exact ⟨c, rest, ⟨rfl, rfl⟩, small, by simp [isSegmentChar, small], others⟩
      · rintro ⟨_, _, ⟨rfl, rfl⟩, small, -, others⟩
        exact ⟨small, others⟩

theorem isSmallName_append {front back : String} (first : isSmallName front = true)
    (others : back.toList.all isSegmentChar = true) : isSmallName (front ++ back) = true := by
  obtain ⟨c, rest, chars, small, all⟩ := isSmallName_iff.mp first
  rw [isSmallName_iff, String.toList_append]
  refine ⟨c, rest ++ back.toList, by rw [chars, List.cons_append], small, ?_⟩
  exact fun d mem => (List.mem_append.mp mem).elim (all d) (List.all_eq_true.mp others d)

/-- What stands in front of a small name and is small itself makes it a longer one. -/
theorem isSmallName_prefixed {front back : String} (first : isSmallName front = true)
    (second : isSmallName back = true) : isSmallName (front ++ back) = true := by
  obtain ⟨-, -, -, -, all⟩ := isSmallName_iff.mp second
  exact isSmallName_append first (List.all_eq_true.mpr all)

theorem isSmallName_of_append {front back : String} (filled : front ≠ "")
    (small : isSmallName (front ++ back) = true) : isSmallName front = true := by
  obtain ⟨c, rest, chars⟩ := List.exists_cons_of_ne_nil (mt String.toList_eq_nil_iff.mp filled)
  obtain ⟨d, others, split, letter, all⟩ := isSmallName_iff.mp small
  rw [String.toList_append, chars, List.cons_append, List.cons.injEq] at split
  refine isSmallName_iff.mpr ⟨c, rest, chars, split.1 ▸ letter, fun e mem => all e ?_⟩
  rw [String.toList_append]
  exact List.mem_append_left _ mem

/-- A text that has an identifier's letters in lower case, and perhaps further underscores after
the first one, is a small name. -/
theorem isSmallName_of_lowered {text name : String}
    (shape : isIdentifierShape name.toList = true)
    (first : text.toList.head? = name.toList.head?.map Char.toLower)
    (others : ∀ c ∈ text.toList, c = '_' ∨ ∃ d ∈ name.toList, c = d.toLower) :
    isSmallName text = true := by
  obtain ⟨c, rest, chars, letter, named⟩ := isIdentifierShape_iff.mp shape
  rw [chars, List.head?_cons, Option.map_some] at first
  obtain ⟨tail, lowered⟩ := List.head?_eq_some_iff.mp first
  refine isSmallName_iff.mpr ⟨c.toLower, tail, lowered, ?_, fun d mem => ?_⟩
  · exact (isSegmentChar_toLower (named c (by simp [chars]))).2 letter
  · rcases others d mem with rfl | ⟨e, inName, rfl⟩
    · decide
    · exact (isSegmentChar_toLower (named e inName)).1

theorem isSmallName_lowercase {name : String} (shape : isIdentifierShape name.toList = true) :
    isSmallName (lowercase name) = true := by
  rw [lowercase_of_ascii (isAscii_of_isIdentifierShape shape)]
  apply isSmallName_of_lowered shape
  · rw [String.toList_ofList, List.head?_map]
  · intro c mem
    rw [String.toList_ofList, List.mem_map] at mem
    obtain ⟨d, inName, rfl⟩ := mem
    exact Or.inr ⟨d, inName, rfl⟩

/-- Cutting a piece leaves no empty words. -/
theorem nil_not_mem_cutPiece {mode : WordMode} {current : List Char} (piece : List Char)
    (begun : mode = .none ∨ current ≠ []) : [] ∉ cutPiece mode current piece := by
  induction piece generalizing mode current with
  | nil => simp [cutPiece]
  | cons c rest ih =>
      cases rest with
      | nil => simp [cutPiece]
      | cons next rest =>
          rw [cutPiece]
          split
          · simp [ih (Or.inl rfl)]
          · split
            · next upper =>
                have filled : current ≠ [] := begun.resolve_left (by rintro rfl; simp at upper)
                simp [filled, ih (Or.inr (List.cons_ne_nil c []))]
            · exact ih (Or.inr (List.cons_ne_nil c current))

theorem nil_not_mem_words (name : List Char) : [] ∉ words name := by
  rw [words, List.mem_flatMap]
  rintro ⟨piece, -, mem⟩
  exact nil_not_mem_cutPiece piece (Or.inl rfl) mem

theorem head?_snakeCase {name : String} (shape : isIdentifierShape name.toList = true) :
    (snakeCase name).toList.head? = name.toList.head?.map Char.toLower := by
  obtain ⟨c, rest, chars, letter, named⟩ := isIdentifierShape_iff.mp shape
  have kept := flatten_words_of_letter letter rest
  rw [← chars] at kept
  have full := nil_not_mem_words name.toList
  have lowered : ∀ word ∈ words name.toList, lowerWord word = word.map Char.toLower :=
    fun _ mem => (lowerWord_of_mem_words (isAscii_of_isIdentifierShape shape) mem).1
  rw [snakeCase, String.toList_ofList]
  cases split : words name.toList with
  | nil => simp [split] at kept
  | cons word others =>
      rw [split] at kept full lowered
      cases word with
      | nil => simp at full
      | cons d word =>
          obtain ⟨rfl, -⟩ := List.cons.inj kept
          rw [List.map_cons, lowered _ List.mem_cons_self, chars]
          cases others <;> simp [List.intercalate_cons_cons]

theorem isSmallName_snakeCase {name : String} (shape : isIdentifierShape name.toList = true) :
    isSmallName (snakeCase name) = true :=
  isSmallName_of_lowered shape (head?_snakeCase shape) fun _ mem =>
    mem_snakeCase (isAscii_of_isIdentifierShape shape) mem

theorem pluralFromEnd_eq (letters : List Char) :
    letters = [] ∨ pluralFromEnd letters = 's' :: letters ∨
      pluralFromEnd letters = 's' :: 'e' :: letters ∨
      ∃ stem, letters = 'y' :: stem ∧ pluralFromEnd letters = 's' :: 'e' :: 'i' :: stem := by
  fun_cases pluralFromEnd letters <;> simp

/-- A plural has letters after the word, or after the word without a `y` at its end. -/
theorem plural_eq {word : String} (filled : word ≠ "") :
    plural word = word ++ "s" ∨ plural word = word ++ "es" ∨
      ∃ stem, word = stem ++ "y" ∧ plural word = stem ++ "ies" := by
  rcases pluralFromEnd_eq word.toList.reverse with empty | same | same | ⟨stem, ending, same⟩
  · exact absurd (by simpa using empty) filled
  · exact Or.inl (String.toList_inj.mp (by simp [plural, same]))
  · exact Or.inr (Or.inl (String.toList_inj.mp (by simp [plural, same])))
  · refine Or.inr (Or.inr ⟨String.ofList stem.reverse, ?_, ?_⟩) <;> apply String.toList_inj.mp
    · simpa using congrArg List.reverse ending
    · simp [plural, same]

theorem isSmallName_plural {word : String} (small : isSmallName word = true) :
    isSmallName (plural word) = true := by
  have filled : word ≠ "" := by
    rintro rfl
    contradiction
  rcases plural_eq filled with same | same | ⟨stem, rfl, same⟩
  · rw [same]
    exact isSmallName_append small (by decide)
  · rw [same]
    exact isSmallName_append small (by decide)
  · rw [same]
    by_cases short : stem = ""
    · rw [short]
      decide
    · exact isSmallName_append (isSmallName_of_append short small) (by decide)

end EntitySurface.Text
