import EntitySurface.Name
import EntitySurface.Proofs.Search.Nesting
import EntitySurface.Proofs.Text.Blank

/-!
# Tokens of a condition

A condition falls into words, signs, literals and texts in parentheses, and blanks may stand between
them. Tokens that are written with blanks between them are read back.
-/

namespace EntitySurface.Search

open Name Text

/-- A part of a condition. -/
inductive Token where
  | word (text : String)
  | sign (text : String)
  | literal (value : String)
  /-- A text in parentheses. -/
  | group (inner : String)
  deriving DecidableEq

/-- Characters of signs. -/
def isSignChar (c : Char) : Bool :=
  c == '=' || c == '<' || c == '>'

/-- The token at the front of a text, and what follows it. -/
def token? : List Char → Option (Token × List Char)
  | [] => none
  | c :: rest =>
      if c = '\'' then
        (closeLiteral rest).map fun (value, rest) => (.literal (String.ofList value), rest)
      else if c = '(' then
        (closeGroup .flat rest).map fun (inner, rest) => (.group (String.ofList inner), rest)
      else if isNameChar c then
        some (.word (String.ofList (c :: rest.takeWhile isNameChar)), rest.dropWhile isNameChar)
      else if isSignChar c then
        some (.sign (String.ofList (c :: rest.takeWhile isSignChar)), rest.dropWhile isSignChar)
      else none

/-- The tokens of a text; blanks may stand between them. -/
def tokens? (text : List Char) : Option (List Token) :=
  if (dropBlanks text).isEmpty then some []
  else
    match token? (dropBlanks text) with
    | none => none
    | some (token, rest) =>
        -- Every token takes a character.
        if _ : rest.length < text.length then (tokens? rest).map (token :: ·) else none
termination_by text.length

/-- One or more characters of a class. -/
def IsRun (class' : Char → Bool) (text : String) : Prop :=
  text.toList ≠ [] ∧ ∀ c ∈ text.toList, class' c = true

instance (class' : Char → Bool) (text : String) : Decidable (IsRun class' text) :=
  @instDecidableAnd _ _ inferInstance (List.decidableBAll _ text.toList)

namespace Token

/-- The written form. -/
def text : Token → List Char
  | word text | sign text => text.toList
  | literal value => (Predicate.literal value).toList
  | group inner => '(' :: (inner.toList ++ [')'])

/-- The token is read as itself. -/
def IsProper : Token → Prop
  | word text => IsRun isNameChar text
  | sign text => IsRun isSignChar text
  | literal _ => True
  | group inner => IsBalanced inner.toList

instance : (token : Token) → Decidable token.IsProper
  | word _ => inferInstanceAs (Decidable (IsRun isNameChar _))
  | sign _ => inferInstanceAs (Decidable (IsRun isSignChar _))
  | literal _ => inferInstanceAs (Decidable True)
  | group _ => inferInstanceAs (Decidable (IsBalanced _))

end Token

/-- Tokens with a blank between any two. -/
def spaced (tokens : List Token) : List Char :=
  [' '].intercalate (tokens.map Token.text)

/-! ## Reading tokens back -/

theorem spaced_singleton (token : Token) : spaced [token] = token.text :=
  List.intercalate_singleton

theorem spaced_cons_cons (first second : Token) (rest : List Token) :
    spaced (first :: second :: rest) = first.text ++ ' ' :: spaced (second :: rest) := by
  simp [spaced, List.intercalate_cons_cons]

/-- Nothing, or a blank: what may follow any token. -/
def Apart (rest : List Char) : Prop :=
  ∀ c ∈ rest.head?, c = ' '

/-- A run is taken whole. -/
theorem IsRun.split {class' : Char → Bool} {text : String} (run : IsRun class' text)
    {rest : List Char} (apart : Apart rest) (notBlank : class' ' ' = false) :
    ∃ c chars, text.toList = c :: chars ∧ class' c = true ∧
      String.ofList (c :: (chars ++ rest).takeWhile class') = text ∧
        (chars ++ rest).dropWhile class' = rest := by
  obtain ⟨nonempty, all⟩ := run
  obtain ⟨c, chars, split⟩ := List.exists_cons_of_ne_nil nonempty
  rw [split, List.forall_mem_cons] at all
  have front : rest.takeWhile class' = [] ∧ rest.dropWhile class' = rest := by
    cases rest with
    | nil => simp
    | cons d rest =>
        obtain rfl := apart d rfl
        simp [notBlank]
  refine ⟨c, chars, split, all.1, ?_, ?_⟩
  · rw [List.takeWhile_append_of_pos all.2, front.1, List.append_nil, ← split, String.ofList_toList]
  · rw [List.dropWhile_append_of_pos all.2, front.2]

theorem plain_of_isSignChar {c : Char} (sign : isSignChar c = true) :
    isBlank c = false ∧ isNameChar c = false := by
  have signs : (c = '=' ∨ c = '<') ∨ c = '>' := by simpa [isSignChar] using sign
  rcases signs with (rfl | rfl) | rfl <;> decide

/-- No blank stands in front of a proper token. -/
theorem Token.IsProper.exists_cons {token : Token} (proper : token.IsProper) :
    ∃ c rest, token.text = c :: rest ∧ isBlank c = false := by
  cases token with
  | word text =>
      obtain ⟨c, rest, chars⟩ := List.exists_cons_of_ne_nil proper.1
      exact ⟨c, rest, chars, not_isBlank_of_isNameChar (proper.2 c (chars ▸ List.mem_cons_self ..))⟩
  | sign text =>
      obtain ⟨c, rest, chars⟩ := List.exists_cons_of_ne_nil proper.1
      exact ⟨c, rest, chars, (plain_of_isSignChar (proper.2 c (chars ▸ List.mem_cons_self ..))).1⟩
  | literal value => exact ⟨'\'', _, String.toList_ofList, by decide⟩
  | group inner => exact ⟨'(', _, rfl, by decide⟩

/-- A token is read back. -/
theorem token?_append {token : Token} (proper : token.IsProper) {rest : List Char}
    (apart : Apart rest) : token? (token.text ++ rest) = some (token, rest) := by
  cases token with
  | word text =>
      obtain ⟨c, chars, split, named, taken, left⟩ := IsRun.split proper apart (by decide)
      have noQuote : c ≠ '\'' := ne_of_apply_ne isNameChar (by rw [named]; decide)
      have noParenthesis : c ≠ '(' := ne_of_apply_ne isNameChar (by rw [named]; decide)
      simp [Token.text, split, token?, noQuote, noParenthesis, named, taken, left]
  | sign text =>
      obtain ⟨c, chars, split, sign, taken, left⟩ := IsRun.split proper apart (by decide)
      have noQuote : c ≠ '\'' := ne_of_apply_ne isSignChar (by rw [sign]; decide)
      have noParenthesis : c ≠ '(' := ne_of_apply_ne isSignChar (by rw [sign]; decide)
      have noWord : isNameChar c = false := (plain_of_isSignChar sign).2
      simp [Token.text, split, token?, noQuote, noParenthesis, noWord, sign, taken, left]
  | literal value =>
      have noQuote : rest.head? ≠ some '\'' := fun quote => absurd (apart _ quote) (by decide)
      simp [Token.text, Predicate.literal, token?, closeLiteral_append noQuote]
  | group inner =>
      have closed : Nesting.flat.after? inner.toList = some .flat := proper
      simp [Token.text, token?, closeGroup_append closed]

/-- Blanks in front of a token are skipped, and what follows it is read on. -/
theorem tokens?_append {token : Token} (proper : token.IsProper) {blanks rest : List Char}
    (blank : ∀ c ∈ blanks, isBlank c = true) (apart : Apart rest) :
    tokens? (blanks ++ (token.text ++ rest)) = (tokens? rest).map (token :: ·) := by
  obtain ⟨c, chars, split, shows⟩ := proper.exists_cons
  have dropped : dropBlanks (blanks ++ (token.text ++ rest)) = token.text ++ rest := by
    rw [dropBlanks, List.dropWhile_append_of_pos blank, split]
    exact dropBlanks_cons shows
  have shorter : rest.length < (blanks ++ (token.text ++ rest)).length := by
    rw [split]
    simp only [List.length_append, List.length_cons]
    omega
  rw [tokens?, dropped, token?_append proper apart, if_neg (by simp [split])]
  exact dif_pos shorter

/-- Tokens with blanks between them are read back, and what follows after a blank is read on. -/
theorem tokens?_spaced_append {tokens : List Token} (nonempty : tokens ≠ [])
    (proper : ∀ token ∈ tokens, token.IsProper) {blanks rest : List Char}
    (blank : ∀ c ∈ blanks, isBlank c = true) (apart : Apart rest) :
    tokens? (blanks ++ (spaced tokens ++ rest)) = (tokens? rest).map (tokens ++ ·) := by
  induction tokens generalizing blanks with
  | nil => contradiction
  | cons token tokens ih =>
      obtain ⟨first, others⟩ := List.forall_mem_cons.mp proper
      cases tokens with
      | nil =>
          rw [spaced_singleton, tokens?_append first blank apart]
          rfl
      | cons next tokens =>
          have follows : Apart (' ' :: (spaced (next :: tokens) ++ rest)) := by
            rintro c ⟨⟩
            rfl
          have read := ih (List.cons_ne_nil next tokens) others
            (List.forall_mem_singleton.mpr (by decide : isBlank ' ' = true))
          rw [List.singleton_append] at read
          rw [spaced_cons_cons, List.append_assoc, List.cons_append,
            tokens?_append first blank follows, read, Option.map_map]
          rfl

/-- Tokens with blanks between them are read back. -/
theorem tokens?_spaced {tokens : List Token} (proper : ∀ token ∈ tokens, token.IsProper)
    {blanks : List Char} (blank : ∀ c ∈ blanks, isBlank c = true) :
    tokens? (blanks ++ spaced tokens) = some tokens := by
  have ends : tokens? [] = some [] := by
    rw [tokens?]
    rfl
  by_cases empty : tokens = []
  · subst empty
    have skipped : dropBlanks (blanks ++ spaced []) = [] :=
      dropBlanks_eq_nil_iff.mpr (by simpa [spaced] using blank)
    rw [tokens?, skipped]
    rfl
  · have read : tokens? (blanks ++ (spaced tokens ++ [])) = (tokens? []).map (tokens ++ ·) :=
      tokens?_spaced_append empty proper blank nofun
    rwa [List.append_nil, ends, Option.map_some, List.append_nil] at read

/-- A text that is written in tokens is read as these. -/
theorem tokens?_of_eq_spaced {text : List Char} {tokens : List Token}
    (written : text = spaced tokens) (proper : ∀ token ∈ tokens, token.IsProper) :
    tokens? text = some tokens := by
  have read : tokens? ([] ++ spaced tokens) = some tokens := tokens?_spaced proper nofun
  rwa [List.nil_append, ← written] at read

/-- A group at the front of a text is shorter than the text. -/
theorem length_lt_of_token?_eq_group {text rest : List Char} {inner : String}
    (read : token? text = some (.group inner, rest)) : inner.length < text.length := by
  cases text with
  | nil => simp [token?] at read
  | cons c text =>
      rw [token?] at read
      split at read
      case isTrue => simp at read
      case isFalse =>
        split at read
        case isTrue =>
          obtain ⟨⟨chars, after⟩, closed, same⟩ := Option.map_eq_some_iff.mp read
          simp only [Prod.mk.injEq, Token.group.injEq] at same
          have shorter := length_closeGroup closed
          rw [← same.1, String.length_ofList, List.length_cons]
          omega
        case isFalse =>
          split at read
          · simp at read
          · split at read <;> simp at read

/-- A group is shorter than the text that it stands in. -/
theorem length_lt_of_group_mem {text : List Char} {tokens : List Token} {inner : String}
    (read : tokens? text = some tokens) (mem : .group inner ∈ tokens) :
    inner.length < text.length := by
  have shown : (dropBlanks text).length ≤ text.length := (List.dropWhile_suffix _).length_le
  rw [tokens?] at read
  split at read
  case isTrue =>
    obtain rfl := Option.some.inj read
    contradiction
  case isFalse =>
    split at read
    case h_1 => contradiction
    case h_2 token rest front =>
      split at read
      case isTrue shorter =>
        obtain ⟨others, readRest, rfl⟩ := Option.map_eq_some_iff.mp read
        rcases List.mem_cons.mp mem with rfl | later
        · exact Nat.lt_of_lt_of_le (length_lt_of_token?_eq_group front) shown
        · exact Nat.lt_trans (length_lt_of_group_mem readRest later) shorter
      case isFalse => contradiction
termination_by text.length

/-- Two lists of tokens with a word between them. -/
theorem spaced_append_cons {first second : List Token} (nonempty : first ≠ [])
    (follows : second ≠ []) (word : String) :
    spaced (first ++ .word word :: second) =
      spaced first ++ ' ' :: (word.toList ++ ' ' :: spaced second) := by
  obtain ⟨next, rest, rfl⟩ := List.exists_cons_of_ne_nil follows
  induction first with
  | nil => contradiction
  | cons token first ih =>
      cases first with
      | nil =>
          rw [List.singleton_append, spaced_cons_cons, spaced_cons_cons, spaced_singleton]
          rfl
      | cons another first =>
          have later := ih (List.cons_ne_nil another first)
          rw [List.cons_append] at later
          rw [List.cons_append, List.cons_append, spaced_cons_cons, later, spaced_cons_cons]
          simp

theorem isProper_of_isIdentifierShape {name : String}
    (shape : isIdentifierShape name.toList = true) : (Token.word name).IsProper := by
  cases chars : name.toList with
  | nil => simp [chars, isIdentifierShape] at shape
  | cons c rest =>
      rw [chars] at shape
      simp only [isIdentifierShape, Bool.and_eq_true, List.all_eq_true] at shape
      refine ⟨by simp [chars], ?_⟩
      rw [chars, List.forall_mem_cons]
      exact ⟨by simp [isNameChar, Char.isAlphanum, shape.1], shape.2⟩

/-! ## Balanced tokens -/

theorem IsRun.isBalanced {class' : Char → Bool} {text : String} (run : IsRun class' text)
    (notQuote : class' '\'' = false) (notOpen : class' '(' = false)
    (notClose : class' ')' = false) : IsBalanced text.toList := by
  refine isBalanced_of_plain fun c mem => ⟨?_, ?_, ?_⟩
  · exact ne_of_apply_ne class' (by simp [run.2 c mem, notQuote])
  · exact ne_of_apply_ne class' (by simp [run.2 c mem, notOpen])
  · exact ne_of_apply_ne class' (by simp [run.2 c mem, notClose])

/-- A proper token is balanced. -/
theorem Token.IsProper.isBalanced {token : Token} (proper : token.IsProper) :
    IsBalanced token.text := by
  cases token with
  | word text => exact IsRun.isBalanced proper (by decide) (by decide) (by decide)
  | sign text => exact IsRun.isBalanced proper (by decide) (by decide) (by decide)
  | literal value =>
      rw [Token.text, Predicate.literal, String.toList_ofList]
      exact isBalanced_literal value.toList
  | group inner => exact IsBalanced.parenthesize proper

theorem isBalanced_spaced {tokens : List Token} (proper : ∀ token ∈ tokens, token.IsProper) :
    IsBalanced (spaced tokens) := by
  have blank : IsBalanced [' '] := by decide
  induction tokens with
  | nil => rfl
  | cons token tokens ih =>
      obtain ⟨first, others⟩ := List.forall_mem_cons.mp proper
      cases tokens with
      | nil =>
          rw [spaced_singleton]
          exact first.isBalanced
      | cons next tokens =>
          rw [spaced_cons_cons]
          exact first.isBalanced.append (blank.append (ih others))

end EntitySurface.Search
