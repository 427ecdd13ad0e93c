import EntitySurface.Proofs.Search.Meaning
import EntitySurface.Proofs.Search.Token

/-!
# Comparisons in writing

A comparison is written as its column, an operator and its values. The values come from users and
may hold any characters, quotes and words of the query language among them. Each of them is one
literal in the text: none ends early, and none reaches into what follows.
-/

namespace EntitySurface.Comparison

open Search

/-- The column, the words or signs of the operator, and a literal for each value. -/
def tokens : Comparison → List Token
  | like column pattern => [.word column, .word "LIKE", .literal pattern]
  | equals column value => [.word column, .sign "=", .literal value]
  | between column from' to' =>
      [.word column, .word "BETWEEN", .literal from', .word "AND", .literal to']
  | atLeast column value => [.word column, .sign ">=", .literal value]
  | atMost column value => [.word column, .sign "<=", .literal value]

variable {condition : Comparison}

theorem tokens_ne_nil (condition : Comparison) : condition.tokens ≠ [] := by
  cases condition <;> exact List.cons_ne_nil _ _

/-- The written form is made of the tokens, with blanks between them. -/
theorem toList_text (condition : Comparison) :
    (Predicate.ofComparison condition).text.toList = spaced condition.tokens := by
  cases condition <;>
    simp [Predicate.ofComparison, Predicate.text, tokens, spaced_cons_cons, spaced_singleton,
      Token.text]

/-- Whatever the values, the tokens of a comparison of an identifier are read as themselves. -/
theorem isProper_of_mem_tokens
    (identifier : Name.isIdentifierShape condition.column.toList = true) :
    ∀ token ∈ condition.tokens, token.IsProper := by
  have isColumn := isProper_of_isIdentifierShape identifier
  cases condition with
  | like | equals | atLeast | atMost =>
      simp only [tokens, List.forall_mem_cons]
      exact ⟨isColumn, by decide, trivial, List.forall_mem_nil _⟩
  | between =>
      simp only [tokens, List.forall_mem_cons]
      exact ⟨isColumn, by decide, trivial, by decide, trivial, List.forall_mem_nil _⟩

/-- The written form of a comparison of an identifier falls into the column, the operator and one
literal for each value, which reads as that value. What follows it after a blank is no part of any
of them. -/
theorem tokens?_text (identifier : Name.isIdentifierShape condition.column.toList = true) :
    tokens? (Predicate.ofComparison condition).text.toList = some condition.tokens ∧
      ∀ rest, Apart rest → tokens? ((Predicate.ofComparison condition).text.toList ++ rest) =
        (tokens? rest).map (condition.tokens ++ ·) := by
  have proper := isProper_of_mem_tokens identifier
  rw [toList_text]
  refine ⟨tokens?_of_eq_spaced rfl proper, fun rest apart => ?_⟩
  have read : tokens? ([] ++ (spaced condition.tokens ++ rest)) =
      (tokens? rest).map (condition.tokens ++ ·) :=
    tokens?_spaced_append condition.tokens_ne_nil proper nofun apart
  rwa [List.nil_append] at read

/-- A range between a quote and a text that looks like the rest of a condition. -/
def trickyRange : Comparison :=
  .between "DUEDATE" "'" "1' OR '1' = '1\\"

/-- Both values are read back, the backslash at the end included. -/
theorem tokens?_text_trickyRange :
    Name.isIdentifierShape trickyRange.column.toList = true ∧
      tokens? "DUEDATE BETWEEN '''' AND '1'' OR ''1'' = ''1\\'".toList =
        some [.word "DUEDATE", .word "BETWEEN", .literal "'", .word "AND",
          .literal "1' OR '1' = '1\\"] := by
  have identifier : Name.isIdentifierShape trickyRange.column.toList = true := by decide
  have written : (Predicate.ofComparison trickyRange).text =
      "DUEDATE BETWEEN '''' AND '1'' OR ''1'' = ''1\\'" := by decide
  rw [← written]
  exact ⟨identifier, (tokens?_text identifier).1⟩

end EntitySurface.Comparison
