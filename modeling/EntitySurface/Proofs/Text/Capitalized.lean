import EntitySurface.Proofs.Text.Words

/-!
# Capitalized texts

Names of operations are put together from texts in Pascal case. Where one of these texts ends and
the next one begins, snake case starts a new word: always after a small letter, and also before a
capital letter that a small one follows. Anywhere else the two texts run together.
-/

namespace EntitySurface

namespace Name

/-- Identifiers start with a letter. -/
theorem exists_letter_of_identifierProblem?_eq_none {name : String}
    (valid : identifierProblem? name = none) :
    ∃ c rest, name.toList = c :: rest ∧ c.isAlpha = true := by
  obtain ⟨c, rest, chars, letter, -⟩ :=
    isIdentifierShape_iff.mp (isIdentifierShape_of_identifierProblem?_eq_none valid)
  exact ⟨c, rest, chars, letter⟩

/-- Letters and digits stay letters and digits in either case, and capital letters are letters. -/
theorem isAlphanum_of_case {c : Char} (alphanumeric : c.isAlphanum = true) :
    c.toUpper.isAlphanum = true ∧ c.toLower.isAlphanum = true ∧
      (c.isAlpha = true → c.toUpper.isUpper = true) := by
  have table : ∀ code < 128, (Char.ofNat code).isAlphanum = true →
      (Char.ofNat code).toUpper.isAlphanum = true ∧ (Char.ofNat code).toLower.isAlphanum = true ∧
        ((Char.ofNat code).isAlpha = true → (Char.ofNat code).toUpper.isUpper = true) := by
    decide +kernel
  have named : isNameChar c = true := by rw [isNameChar, alphanumeric, Bool.true_or]
  have cases := table c.toNat (UInt32.lt_iff_toNat_lt.mp (isNameChar_ascii named))
  rw [Char.ofNat_toNat] at cases
  exact cases alphanumeric

end Name

namespace Text

/-- Letters and digits, the first one a capital letter. -/
def isCapitalized (text : String) : Bool :=
  match text.toList with
  | [] => false
  | c :: rest => c.isUpper && rest.all Char.isAlphanum

/-- The characters of a text in snake case. -/
def snakeChars (name : String) : List Char :=
  ['_'].intercalate ((words name.toList).map lowerWord)

theorem toList_snakeCase (name : String) : (snakeCase name).toList = snakeChars name :=
  String.toList_ofList

/-- The last character is a small letter. -/
def endsSmall (text : String) : Bool :=
  text.toList.getLast?.any Char.isLower

/-- The second character is a small letter. -/
def startsWord (text : String) : Bool :=
  (text.toList.drop 1).head?.any Char.isLower

theorem ascii_of_isAlphanum {c : Char} (alphanumeric : c.isAlphanum = true) : c.val < 128 :=
  Name.isNameChar_ascii (by rw [Name.isNameChar, alphanumeric, Bool.true_or])

theorem isAlphanum_of_isUpper {c : Char} (upper : c.isUpper = true) : c.isAlphanum = true := by
  show (c.isUpper || c.isLower || c.isDigit) = true
  rw [upper, Bool.true_or, Bool.true_or]

theorem isLower_eq_false_of_isUpper {c : Char} (upper : c.isUpper = true) : c.isLower = false := by
  have bound : c.val ≤ 'Z'.val := (of_decide_eq_true upper).2
  have below : ¬('a'.val ≤ c.val) := fun above =>
    absurd (UInt32.le_trans above bound) (by decide)
  show (decide ('a'.val ≤ c.val) && decide (c.val ≤ 'z'.val)) = false
  rw [decide_eq_false below, Bool.false_and]

theorem isCapitalized_iff {text : String} :
    isCapitalized text = true ↔ ∃ c rest, text.toList = c :: rest ∧ c.isUpper = true ∧
      ∀ d ∈ text.toList, d.isAlphanum = true := by
  unfold isCapitalized
  cases text.toList with
  | nil => simp
  | cons c rest =>
      simp only [Bool.and_eq_true, List.all_eq_true, List.cons.injEq, List.forall_mem_cons]
      constructor
      · rintro ⟨upper, others⟩
        exact ⟨c, rest, ⟨rfl, rfl⟩, upper, isAlphanum_of_isUpper upper, others⟩
      · rintro ⟨_, _, ⟨rfl, rfl⟩, upper, -, others⟩
        exact ⟨upper, others⟩

theorem isCapitalized_append {front back : String} (first : isCapitalized front = true)
    (second : isCapitalized back = true) : isCapitalized (front ++ back) = true := by
  obtain ⟨c, rest, chars, upper, allFront⟩ := isCapitalized_iff.mp first
  obtain ⟨-, -, -, -, allBack⟩ := isCapitalized_iff.mp second
  rw [isCapitalized_iff, String.toList_append]
  refine ⟨c, rest ++ back.toList, by rw [chars, List.cons_append], upper, ?_⟩
  exact fun d mem => (List.mem_append.mp mem).elim (allFront d) (allBack d)

theorem ne_empty_of_isCapitalized {text : String} (capitalized : isCapitalized text = true) :
    text ≠ "" := by
  rintro rfl
  contradiction

/-! ## Pascal case -/

theorem exists_flatMap_capitalWord {lists : List (List Char)} {c : Char} {rest : List Char}
    (flat : lists.flatten = c :: rest) :
    ∃ others, lists.flatMap capitalWord = upperChar c ++ others := by
  induction lists with
  | nil => contradiction
  | cons word words ih =>
      cases word with
      | nil => exact ih flat
      | cons d word =>
          obtain ⟨rfl, -⟩ := List.cons.inj flat
          exact ⟨_, by rw [List.flatMap_cons, capitalWord, List.append_assoc]⟩

theorem isAlphanum_of_mem_capitalWord {word : List Char}
    (all : ∀ c ∈ word, c.isAlphanum = true) {c : Char} (mem : c ∈ capitalWord word) :
    c.isAlphanum = true := by
  cases word with
  | nil => simp [capitalWord] at mem
  | cons d rest =>
      obtain ⟨first, others⟩ := List.forall_mem_cons.mp all
      have lowered := lowerWord_of_ascii fun e inRest => ascii_of_isAlphanum (others e inRest)
      rw [capitalWord, upperChar_of_ascii (ascii_of_isAlphanum first), lowered, List.mem_append,
        List.mem_singleton] at mem
      rcases mem with rfl | inRest
      · exact (Name.isAlphanum_of_case first).1
      · obtain ⟨e, among, rfl⟩ := List.mem_map.mp inRest
        exact (Name.isAlphanum_of_case (others e among)).2.1

/-- An identifier in Pascal case is capitalized. -/
theorem isCapitalized_pascalCase {name : String} (valid : Name.identifierProblem? name = none) :
    isCapitalized (pascalCase name) = true := by
  have named := Name.isNameChar_of_identifierProblem?_eq_none valid
  have alphanumeric : ∀ c ∈ name.toList, isAlphanumeric c = c.isAlphanum := fun c mem =>
    isAlphanumeric_of_ascii (Name.isNameChar_ascii (named c mem))
  obtain ⟨c, rest, chars, letter⟩ := Name.exists_letter_of_identifierProblem?_eq_none valid
  have kept := flatten_words_of_letter letter rest
  rw [← chars] at kept
  have all : ∀ word ∈ words name.toList, ∀ d ∈ word, d.isAlphanum = true := by
    intro word among d inWord
    have found := List.mem_flatten_of_mem among inWord
    rw [flatten_words, List.mem_filter] at found
    rw [← alphanumeric d found.1]
    exact found.2
  obtain ⟨others, capital⟩ := exists_flatMap_capitalWord kept
  have ascii : c.val < 128 := Name.isNameChar_ascii (named c (by simp [chars]))
  rw [upperChar_of_ascii ascii] at capital
  rw [isCapitalized_iff, pascalCase, String.toList_ofList]
  refine ⟨c.toUpper, others, capital, ?_, ?_⟩
  · exact (Name.isAlphanum_of_case (by rw [Char.isAlphanum, letter, Bool.true_or])).2.2 letter
  · rw [List.forall_mem_flatMap]
    exact fun word among d => isAlphanum_of_mem_capitalWord (all word among)

/-! ## Joints of a name -/

/-- The mode behind a cased character does not depend on the mode before it. -/
theorem WordMode.next_eq_of_cased {c : Char} (cased : (isLowercase c || isUppercase c) = true)
    (mode other : WordMode) : mode.next c = other.next c := by
  unfold WordMode.next
  cases lower : isLowercase c with
  | true => rfl
  | false => simp_all

theorem cutPiece_of_small {c : Char} (small : isLowercase c = true)
    (notCapital : isUppercase c = false) (mode other : WordMode) (current rest : List Char) :
    cutPiece mode current (c :: rest) = cutPiece other current (c :: rest) := by
  cases rest with
  | nil => rfl
  | cons next rest =>
      have same : mode.next c = other.next c := WordMode.next_eq_of_cased (by simp [small]) _ _
      simp only [cutPiece, notCapital, same, Bool.and_false, Bool.false_and]

/-- A piece is cut before a capital letter that comes behind a small letter, or behind a capital one
and before a small one. The modes are those of the uncut piece, since a cut is followed by a cased
character, which sets the mode anew. -/
theorem cutPiece_append (mode : WordMode) (current : List Char) {front : List Char}
    (filled : front ≠ []) {c : Char} {rest : List Char} (capital : isUppercase c = true)
    (notSmall : isLowercase c = false)
    (joint : front.foldl WordMode.next mode = .lower ∨
      front.foldl WordMode.next mode = .upper ∧
        ∃ d others, rest = d :: others ∧ isLowercase d = true ∧ isUppercase d = false) :
    cutPiece mode current (front ++ c :: rest) =
      cutPiece mode current front ++ cutPiece .none [] (c :: rest) := by
  induction front generalizing mode current with
  | nil => contradiction
  | cons b front ih =>
      cases front with
      | nil =>
          rw [List.foldl_cons, List.foldl_nil] at joint
          rcases joint with lower | ⟨upper, d, others, rfl, small, notCapital⟩
          · simp [cutPiece, lower, capital]
          · have mode' : ∀ mode : WordMode, mode.next c = .upper := fun mode => by
              simp [WordMode.next, notSmall, capital]
            have behind := cutPiece_of_small small notCapital .none .upper [c] others
            simp [cutPiece, upper, mode', capital, notSmall, small, behind]
      | cons next front =>
          rw [List.foldl_cons] at joint
          have resumed (cased : (isLowercase next || isUppercase next) = true)
              (current : List Char) :
              cutPiece .none current (next :: front ++ c :: rest) =
                cutPiece .none current (next :: front) ++ cutPiece .none [] (c :: rest) := by
            apply ih .none current (List.cons_ne_nil _ _)
            rw [List.foldl_cons] at joint ⊢
            rwa [WordMode.next_eq_of_cased cased .none (mode.next b)]
          simp only [List.cons_append, cutPiece]
          split
          · next cut =>
            rw [Bool.and_eq_true] at cut
            rw [List.cons_append, ← List.cons_append, resumed (by simp [cut.2])]
          · split
            · next cut =>
              rw [Bool.and_eq_true, Bool.and_eq_true] at cut
              rw [List.cons_append, ← List.cons_append, resumed (by simp [cut.2])]
            · rw [← List.cons_append]
              exact ih (mode.next b) (b :: current) (List.cons_ne_nil _ _) joint

theorem pieces_of_alphanumeric {name : List Char} (all : ∀ c ∈ name, isAlphanumeric c = true) :
    pieces name = [name] := by
  induction name with
  | nil => rfl
  | cons c rest ih =>
      obtain ⟨first, others⟩ := List.forall_mem_cons.mp all
      rw [pieces, if_pos first, ih others]

theorem words_of_isCapitalized {text : String} (capitalized : isCapitalized text = true) :
    words text.toList = cutPiece .none [] text.toList := by
  obtain ⟨-, -, -, -, all⟩ := isCapitalized_iff.mp capitalized
  have alphanumeric : ∀ c ∈ text.toList, isAlphanumeric c = true := fun c mem => by
    rw [isAlphanumeric_of_ascii (ascii_of_isAlphanum (all c mem)), all c mem]
  rw [words, pieces_of_alphanumeric alphanumeric, List.flatMap_singleton]

theorem WordMode.foldl_next_ne_none {mode : WordMode} (set : mode ≠ .none) (text : List Char) :
    text.foldl next mode ≠ .none := by
  induction text generalizing mode with
  | nil => exact set
  | cons c rest ih =>
      refine ih ?_
      unfold next
      split
      · nofun
      · split
        · nofun
        · exact set

theorem words_ne_nil {text : String} (capitalized : isCapitalized text = true) :
    words text.toList ≠ [] := by
  intro wordless
  have flat := flatten_cutPiece_nil .none text.toList
  rw [← words_of_isCapitalized capitalized, wordless] at flat
  exact ne_empty_of_isCapitalized capitalized (String.toList_eq_nil_iff.mp flat.symm)

theorem intercalate_append {α : Type} {separator : List α} {front back : List (List α)}
    (first : front ≠ []) (second : back ≠ []) :
    separator.intercalate (front ++ back) =
      separator.intercalate front ++ separator ++ separator.intercalate back := by
  obtain ⟨next, others, rfl⟩ := List.exists_cons_of_ne_nil second
  induction front with
  | nil => contradiction
  | cons list front ih =>
      cases front with
      | nil => simp [List.intercalate_cons_cons]
      | cons following front =>
          rw [List.cons_append, List.cons_append, List.intercalate_cons_cons,
            List.intercalate_cons_cons, ← List.cons_append, ih (List.cons_ne_nil _ _)]
          simp only [List.append_assoc]

section Joined

variable {front back : String} (first : isCapitalized front = true)
  (second : isCapitalized back = true)
include first

theorem mode_ne_none_of_isCapitalized : front.toList.foldl WordMode.next .none ≠ .none := by
  obtain ⟨c, rest, chars, upper, -⟩ := isCapitalized_iff.mp first
  have ascii := ascii_of_isAlphanum (isAlphanum_of_isUpper upper)
  rw [chars, List.foldl_cons]
  apply WordMode.foldl_next_ne_none
  simp [WordMode.next, isUppercase_of_ascii ascii, isLowercase_of_ascii ascii, upper,
    isLower_eq_false_of_isUpper upper]

theorem mode_eq_lower_of_endsSmall (small : endsSmall front = true) :
    front.toList.foldl WordMode.next .none = .lower := by
  obtain ⟨-, -, -, -, all⟩ := isCapitalized_iff.mp first
  obtain ⟨d, last, lower⟩ := (Option.any_eq_true _ _).mp small
  obtain ⟨start, chars⟩ := List.getLast?_eq_some_iff.mp last
  have ascii := ascii_of_isAlphanum (all d (by simp [chars]))
  rw [chars, List.foldl_append, List.foldl_cons, List.foldl_nil, WordMode.next,
    isLowercase_of_ascii ascii, lower, if_pos rfl]

include second

/-- A name is cut between two capitalized texts if the first one ends in a small letter or the
second one starts a word. -/
theorem words_append (joint : (endsSmall front || startsWord back) = true) :
    words (front ++ back).toList = words front.toList ++ words back.toList := by
  obtain ⟨c, rest, chars, upper, all⟩ := isCapitalized_iff.mp second
  have ascii := ascii_of_isAlphanum (isAlphanum_of_isUpper upper)
  have filled : front.toList ≠ [] := by simpa using ne_empty_of_isCapitalized first
  rw [words_of_isCapitalized (isCapitalized_append first second), words_of_isCapitalized first,
    words_of_isCapitalized second, String.toList_append, chars]
  apply cutPiece_append .none [] filled (by rw [isUppercase_of_ascii ascii, upper])
    (by rw [isLowercase_of_ascii ascii, isLower_eq_false_of_isUpper upper])
  rcases Bool.or_eq_true_iff.mp joint with small | starts
  · exact Or.inl (mode_eq_lower_of_endsSmall first small)
  · cases mode : front.toList.foldl WordMode.next .none with
    | none => exact absurd mode (mode_ne_none_of_isCapitalized first)
    | lower => exact Or.inl rfl
    | upper =>
        rw [startsWord, chars, List.drop_succ_cons, List.drop_zero, Option.any_eq_true] at starts
        obtain ⟨d, next, small⟩ := starts
        obtain ⟨others, rfl⟩ := List.head?_eq_some_iff.mp next
        have ascii := ascii_of_isAlphanum (all d (by simp [chars]))
        refine Or.inr ⟨rfl, d, others, rfl, by rw [isLowercase_of_ascii ascii, small], ?_⟩
        rw [isUppercase_of_ascii ascii, Bool.eq_false_iff]
        intro capital
        rw [isLower_eq_false_of_isUpper capital] at small
        contradiction

theorem snakeCase_append (joint : (endsSmall front || startsWord back) = true) :
    snakeCase (front ++ back) = snakeCase front ++ "_" ++ snakeCase back := by
  rw [snakeCase, snakeCase, snakeCase, words_append first second joint, List.map_append,
    intercalate_append (by simpa using words_ne_nil first) (by simpa using words_ne_nil second),
    String.ofList_append, String.ofList_append]

end Joined

theorem endsSmall_append (front : String) {back : String} (filled : back ≠ "") :
    endsSmall (front ++ back) = endsSmall back := by
  have chars : back.toList ≠ [] := by simpa using filled
  rw [endsSmall, endsSmall, String.toList_append, List.getLast?_append,
    Option.or_of_isSome (List.getLast?_isSome.mpr chars)]

/-- A word between two capitalized texts stands by itself in snake case. -/
theorem snakeCase_between {front word back : String} (first : isCapitalized front = true)
    (second : isCapitalized back = true) (middle : isCapitalized word = true)
    (starts : startsWord word = true) (ends : endsSmall word = true) :
    snakeCase (front ++ word ++ back) =
      snakeCase front ++ "_" ++ snakeCase word ++ "_" ++ snakeCase back := by
  have joined := isCapitalized_append first middle
  have joint : endsSmall (front ++ word) = true := by
    rw [endsSmall_append front (ne_empty_of_isCapitalized middle), ends]
  rw [snakeCase_append joined second (by rw [joint, Bool.true_or]),
    snakeCase_append first middle (by rw [starts, Bool.or_true])]

theorem append_joint_ne (front back : String) : front ≠ front ++ "_" ++ back := by
  intro same
  have length := congrArg String.length same
  rw [String.length_append, String.length_append] at length
  have joint : "_".length = 1 := rfl
  omega

/-! ## Texts told apart -/

/-- Snake case tells the texts apart. -/
def SnakeApart (texts : List String) : Prop :=
  ∀ first ∈ texts, ∀ second ∈ texts, snakeCase first = snakeCase second → first = second

instance (texts : List String) : Decidable (SnakeApart texts) :=
  inferInstanceAs (Decidable (∀ first ∈ texts, ∀ second ∈ texts, _ → _))

theorem SnakeApart.cons {first : String} {rest : List String} (apart : SnakeApart rest)
    (differs : ∀ second ∈ rest, snakeCase first ≠ snakeCase second) :
    SnakeApart (first :: rest) := by
  intro one inOne other inOther same
  rcases List.mem_cons.mp inOne with rfl | oneLater <;>
    rcases List.mem_cons.mp inOther with rfl | otherLater
  · rfl
  · exact absurd same (differs other otherLater)
  · exact absurd same.symm (differs one oneLater)
  · exact apart one oneLater other otherLater same

end Text

end EntitySurface
