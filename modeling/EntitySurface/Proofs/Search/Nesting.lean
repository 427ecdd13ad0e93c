import EntitySurface.Search.Predicate

/-!
# Literals and parentheses

How the query language finds the end of a literal and of a text in parentheses. A text is balanced
when it closes all its literals and parentheses; a parenthesis inside a literal is text.
-/

namespace EntitySurface.Search

/-- The value of a literal after its first quote, and what follows its last one. Two quotes inside
are one. -/
def closeLiteral : List Char → Option (List Char × List Char)
  | [] => none
  | '\'' :: '\'' :: rest => (closeLiteral rest).map fun (value, rest) => ('\'' :: value, rest)
  | '\'' :: rest => some ([], rest)
  | c :: rest => (closeLiteral rest).map fun (value, rest) => (c :: value, rest)

/-- Where a scan stands: how many parentheses are open, and whether it is inside a literal. -/
structure Nesting where
  depth : Nat
  quoted : Bool
  deriving DecidableEq

namespace Nesting

/-- Outside all parentheses and literals. -/
def flat : Nesting := ⟨0, false⟩

/-- The nesting after a character, unless it is a parenthesis that closes none. -/
def next? (nesting : Nesting) (c : Char) : Option Nesting :=
  if c = '\'' then some { nesting with quoted := !nesting.quoted }
  else if nesting.quoted then some nesting
  else if c = '(' then some { nesting with depth := nesting.depth + 1 }
  else if c = ')' then
    if nesting.depth = 0 then none else some { nesting with depth := nesting.depth - 1 }
  else some nesting

/-- The nesting after a text. -/
def after? (nesting : Nesting) (text : List Char) : Option Nesting :=
  text.foldlM next? nesting

end Nesting

/-- All parentheses and literals of a text are closed. -/
def IsBalanced (text : List Char) : Prop :=
  Nesting.flat.after? text = some .flat

instance (text : List Char) : Decidable (IsBalanced text) :=
  inferInstanceAs (Decidable (_ = _))

/-- The text up to the first parenthesis that closes none of its own, and what follows it. -/
def closeGroup (nesting : Nesting) : List Char → Option (List Char × List Char)
  | [] => none
  | c :: rest =>
      match nesting.next? c with
      | none => some ([], rest)
      | some next => (closeGroup next rest).map fun (inner, rest) => (c :: inner, rest)

/-- Writing and closing a literal gives its value back. -/
theorem closeLiteral_append {value rest : List Char} (apart : rest.head? ≠ some '\'') :
    closeLiteral (value.flatMap Predicate.literalChar ++ '\'' :: rest) = some (value, rest) := by
  induction value with
  | nil =>
      cases rest with
      | nil => rfl
      | cons c rest =>
          have other : c ≠ '\'' := by simpa using apart
          simp [closeLiteral, other]
  | cons c value ih =>
      rw [List.flatMap_cons, List.append_assoc]
      by_cases quote : c = '\''
      · subst quote
        simp [Predicate.literalChar, closeLiteral, ih]
      · simp [Predicate.literalChar, closeLiteral, quote, ih]

/-- The first parenthesis after a balanced text closes the group. -/
theorem closeGroup_append {nesting : Nesting} {inner rest : List Char}
    (closed : nesting.after? inner = some .flat) :
    closeGroup nesting (inner ++ ')' :: rest) = some (inner, rest) := by
  induction inner generalizing nesting with
  | nil =>
      obtain rfl := Option.some.inj closed
      rfl
  | cons c inner ih =>
      rw [Nesting.after?, List.foldlM_cons, Option.bind_eq_bind, Option.bind_eq_some_iff] at closed
      obtain ⟨next, step, closed⟩ := closed
      rw [List.cons_append, closeGroup, step]
      simp [ih closed]

/-- A group is shorter than the text that it stands in. -/
theorem length_closeGroup {nesting : Nesting} {text inner rest : List Char}
    (closed : closeGroup nesting text = some (inner, rest)) : inner.length < text.length := by
  induction text generalizing nesting inner rest with
  | nil => simp [closeGroup] at closed
  | cons c text ih =>
      rw [closeGroup] at closed
      split at closed
      · obtain ⟨rfl, -⟩ := Prod.mk.inj (Option.some.inj closed)
        simp
      · obtain ⟨⟨front, back⟩, found, same⟩ := Option.map_eq_some_iff.mp closed
        obtain ⟨rfl, -⟩ := Prod.mk.inj same
        simpa using ih found

/-! ## Balanced texts -/

namespace Nesting

theorem after?_append (nesting : Nesting) (first second : List Char) :
    nesting.after? (first ++ second) = (nesting.after? first).bind (·.after? second) :=
  List.foldlM_append ..

/-- More open parentheses around a character do not matter to it. -/
theorem next?_deeper {nesting next : Nesting} {c : Char} (more : Nat)
    (step : nesting.next? c = some next) :
    next? { nesting with depth := nesting.depth + more } c =
      some { next with depth := next.depth + more } := by
  unfold next? at step ⊢
  by_cases quote : c = '\''
  · rw [if_pos quote] at step ⊢
    obtain rfl := Option.some.inj step
    rfl
  rw [if_neg quote] at step ⊢
  by_cases quoted : nesting.quoted = true
  · rw [if_pos quoted] at step ⊢
    obtain rfl := Option.some.inj step
    rfl
  rw [if_neg quoted] at step ⊢
  by_cases opens : c = '('
  · rw [if_pos opens] at step ⊢
    obtain rfl := Option.some.inj step
    simp only [Nat.add_right_comm]
  rw [if_neg opens] at step ⊢
  by_cases closes : c = ')'
  · rw [if_pos closes] at step ⊢
    by_cases outside : nesting.depth = 0
    · rw [if_pos outside] at step
      contradiction
    · rw [if_neg outside] at step
      obtain rfl := Option.some.inj step
      have inside : nesting.depth + more ≠ 0 := by omega
      have shifted : nesting.depth + more - 1 = nesting.depth - 1 + more := by omega
      simp only [inside, if_false, shifted]
  · rw [if_neg closes] at step ⊢
    obtain rfl := Option.some.inj step
    rfl

/-- More open parentheses around a text do not matter to it. -/
theorem after?_deeper {nesting after : Nesting} {text : List Char} (more : Nat)
    (run : nesting.after? text = some after) :
    after? { nesting with depth := nesting.depth + more } text =
      some { after with depth := after.depth + more } := by
  induction text generalizing nesting with
  | nil =>
      obtain rfl := Option.some.inj run
      rfl
  | cons c text ih =>
      rw [after?, List.foldlM_cons, Option.bind_eq_bind, Option.bind_eq_some_iff] at run ⊢
      obtain ⟨next, step, run⟩ := run
      exact ⟨_, next?_deeper more step, ih run⟩

end Nesting

theorem IsBalanced.append {first second : List Char} (left : IsBalanced first)
    (right : IsBalanced second) : IsBalanced (first ++ second) := by
  unfold IsBalanced
  rw [Nesting.after?_append, left]
  exact right

/-- Parentheses around a balanced text are balanced. -/
theorem IsBalanced.parenthesize {inner : List Char} (balanced : IsBalanced inner) :
    IsBalanced ('(' :: (inner ++ [')'])) := by
  have open' : Nesting.flat.after? ('(' :: (inner ++ [')'])) =
      Nesting.after? ⟨1, false⟩ (inner ++ [')']) := rfl
  have deeper : Nesting.after? ⟨1, false⟩ inner = some ⟨1, false⟩ :=
    Nesting.after?_deeper 1 balanced
  unfold IsBalanced
  rw [open', Nesting.after?_append, deeper]
  rfl

/-- A text without parentheses and quotes is balanced. -/
theorem isBalanced_of_plain {text : List Char}
    (plain : ∀ c ∈ text, c ≠ '\'' ∧ c ≠ '(' ∧ c ≠ ')') : IsBalanced text := by
  induction text with
  | nil => rfl
  | cons c text ih =>
      obtain ⟨noQuote, noOpen, noClose⟩ := plain c (List.mem_cons_self ..)
      have same : Nesting.flat.next? c = some .flat := by
        simp [Nesting.next?, Nesting.flat, noQuote, noOpen, noClose]
      have rest := ih fun d mem => plain d (List.mem_cons_of_mem _ mem)
      rw [IsBalanced, Nesting.after?, List.foldlM_cons, same]
      exact rest

/-- A literal is balanced, whatever its value. -/
theorem isBalanced_literal (value : List Char) :
    IsBalanced ('\'' :: value.flatMap Predicate.literalChar ++ ['\'']) := by
  have inside : Nesting.after? ⟨0, true⟩ (value.flatMap Predicate.literalChar) =
      some ⟨0, true⟩ := by
    induction value with
    | nil => rfl
    | cons c value ih =>
        have step : Nesting.after? ⟨0, true⟩ (Predicate.literalChar c) = some ⟨0, true⟩ := by
          by_cases quote : c = '\''
          · subst quote
            rfl
          · simp [Predicate.literalChar, quote, Nesting.after?, Nesting.next?]
        rw [List.flatMap_cons, Nesting.after?_append, step]
        exact ih
  have opened : Nesting.flat.after? ('\'' :: value.flatMap Predicate.literalChar ++ ['\'']) =
      Nesting.after? ⟨0, true⟩ (value.flatMap Predicate.literalChar ++ ['\'']) := rfl
  unfold IsBalanced
  rw [opened, Nesting.after?_append, inside]
  rfl

end EntitySurface.Search
