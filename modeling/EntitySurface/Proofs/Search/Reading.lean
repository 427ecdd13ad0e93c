import EntitySurface.Proofs.Search.Comparisons

/-!
# Reading a condition

How the query language reads a condition. Comparisons and texts in parentheses are joined by AND and
OR, of which AND binds tighter, and the AND inside a BETWEEN belongs to it. A text in parentheses
that reads as a condition is that condition, any other stands for itself.
-/

namespace EntitySurface.Search

/-! ## Operands and sums -/

/-- What AND and OR join. -/
inductive Operand where
  | comparison (condition : Comparison)
  | group (inner : String)
  deriving DecidableEq

/-- The operand at the front of a condition, and what follows it. -/
def operand? : List Token → Option (Operand × List Token)
  | .group inner :: rest => some (.group inner, rest)
  | .word column :: .word "LIKE" :: .literal pattern :: rest =>
      some (.comparison (.like column pattern), rest)
  | .word column :: .sign "=" :: .literal value :: rest =>
      some (.comparison (.equals column value), rest)
  | .word column :: .word "BETWEEN" :: .literal from' :: .word "AND" :: .literal to' :: rest =>
      some (.comparison (.between column from' to'), rest)
  | .word column :: .sign ">=" :: .literal value :: rest =>
      some (.comparison (.atLeast column value), rest)
  | .word column :: .sign "<=" :: .literal value :: rest =>
      some (.comparison (.atMost column value), rest)
  | _ => none

theorem length_operand? {tokens rest : List Token} {operand : Operand}
    (read : operand? tokens = some (operand, rest)) : rest.length < tokens.length := by
  unfold operand? at read
  split at read <;> simp_all <;> omega

/-- A disjunction of conjunctions of operands. -/
abbrev Sum := List (List Operand)

/-- Join two sums by AND in writing: what stands at the seam becomes one conjunction. -/
def splice : Sum → Sum → Sum
  | [], second => second
  | [product], next :: second => (product ++ next) :: second
  | [product], [] => [product]
  | product :: first, second => product :: splice first second

/-- The sum that a condition reads as. -/
def sum? (tokens : List Token) : Option Sum :=
  match _ : operand? tokens with
  | none => none
  | some (first, []) => some [[first]]
  | some (first, .word "AND" :: rest) => (sum? rest).map (splice [[first]])
  | some (first, .word "OR" :: rest) => (sum? rest).map ([first] :: ·)
  | some _ => none
termination_by tokens.length
decreasing_by
  all_goals
    have := length_operand? ‹_›
    simp at this
    omega

/-- The predicate that a text reads as. -/
def read? (text : String) : Option Predicate :=
  ((tokens? text.toList).bind sum?).map fun sum =>
    .anyOf (sum.map fun product => .allOf (product.map fun
      | .comparison condition => .ofComparison condition
      | .group inner =>
          -- A text in parentheses is shorter than the whole.
          if _ : inner.length < text.length then (read? inner).getD (.raw inner)
          else .raw inner))
termination_by text.length

/-! ## The grammar of conditions -/

/-- The tokens of a comparison are one operand. -/
theorem operand?_tokens (condition : Comparison) :
    operand? condition.tokens = some (.comparison condition, []) := by
  cases condition <;> rfl

/-- What follows an operand is read the same with more after it. -/
theorem operand?_append {tokens rest : List Token} {operand : Operand}
    (read : operand? tokens = some (operand, rest)) (more : List Token) :
    operand? (tokens ++ more) = some (operand, rest ++ more) := by
  unfold operand? at read
  split at read
  case h_7 => contradiction
  all_goals
    obtain ⟨rfl, rfl⟩ := Prod.mk.inj (Option.some.inj read)
    simp [operand?]

theorem sum?_eq_last {tokens : List Token} {operand : Operand}
    (read : operand? tokens = some (operand, [])) : sum? tokens = some [[operand]] := by
  rw [sum?]
  split <;> simp_all

theorem sum?_eq_and {tokens rest : List Token} {operand : Operand}
    (read : operand? tokens = some (operand, .word "AND" :: rest)) :
    sum? tokens = (sum? rest).map (splice [[operand]]) := by
  rw [sum?]
  split <;> simp_all

theorem sum?_eq_or {tokens rest : List Token} {operand : Operand}
    (read : operand? tokens = some (operand, .word "OR" :: rest)) :
    sum? tokens = (sum? rest).map ([operand] :: ·) := by
  rw [sum?]
  split <;> simp_all

/-- The grammar of conditions: an operand, or an operand that AND or OR joins to a condition. -/
inductive Reads : List Token → Sum → Prop
  | last {tokens operand} (front : operand? tokens = some (operand, [])) :
      Reads tokens [[operand]]
  | and {tokens operand rest sum} (front : operand? tokens = some (operand, .word "AND" :: rest))
      (readRest : Reads rest sum) : Reads tokens (splice [[operand]] sum)
  | or {tokens operand rest sum} (front : operand? tokens = some (operand, .word "OR" :: rest))
      (readRest : Reads rest sum) : Reads tokens ([operand] :: sum)

/-- Reading finds the sum of the grammar. -/
theorem sum?_eq_some_iff {tokens : List Token} {sum : Sum} :
    sum? tokens = some sum ↔ Reads tokens sum := by
  constructor
  · intro read
    fun_induction sum? tokens generalizing sum with
    | case1 | case5 => contradiction
    | case2 tokens operand front =>
        obtain rfl := Option.some.inj read
        exact .last front
    | case3 tokens operand rest front ih =>
        obtain ⟨others, readRest, rfl⟩ := Option.map_eq_some_iff.mp read
        exact .and front (ih readRest)
    | case4 tokens operand rest front ih =>
        obtain ⟨others, readRest, rfl⟩ := Option.map_eq_some_iff.mp read
        exact .or front (ih readRest)
  · intro reads
    induction reads with
    | last front => exact sum?_eq_last front
    | and front _ ih => rw [sum?_eq_and front, ih, Option.map_some]
    | or front _ ih => rw [sum?_eq_or front, ih, Option.map_some]

/-! ### Joining sums -/

theorem splice_nil (sum : Sum) : splice sum [] = sum := by
  induction sum with
  | nil => rfl
  | cons product sum ih =>
      cases sum with
      | nil => rfl
      | cons next sum => exact congrArg (product :: ·) ih

theorem splice_ne_nil {first : Sum} (nonempty : first ≠ []) (second : Sum) :
    splice first second ≠ [] := by
  match first, second with
  | [product], [] | [product], next :: second | product :: next :: first, second => simp [splice]

theorem splice_cons {first : Sum} (nonempty : first ≠ []) (product : List Operand) (second : Sum) :
    splice (product :: first) second = product :: splice first second := by
  cases first with
  | nil => contradiction
  | cons next first => rfl

theorem splice_append {first second : Sum} (nonempty : second ≠ []) (third : Sum) :
    splice first (second ++ third) = splice first second ++ third := by
  induction first with
  | nil => rfl
  | cons product first ih =>
      cases first with
      | nil =>
          cases second with
          | nil => contradiction
          | cons next second => rfl
      | cons next first => exact congrArg (product :: ·) ih

theorem splice_assoc {first second : Sum} (nonempty : second ≠ []) (third : Sum) :
    splice first (splice second third) = splice (splice first second) third := by
  induction first with
  | nil => rfl
  | cons product first ih =>
      cases first with
      | cons next first =>
          have joined : splice (next :: first) second ≠ [] := splice_ne_nil (by simp) second
          have longer : next :: first ≠ [] := List.cons_ne_nil next first
          rw [splice_cons longer, ih, splice_cons longer, splice_cons joined]
      | nil =>
          match second, third with
          | [next], [] => rfl
          | [next], last :: third => simp [splice]
          | next :: another :: second, third => rfl

theorem flatten_splice (first second : Sum) :
    (splice first second).flatten = first.flatten ++ second.flatten := by
  induction first with
  | nil => rfl
  | cons product first ih =>
      match first, second with
      | [], [] => simp [splice]
      | [], next :: second => simp [splice]
      | next :: first, second => simp [splice, ih]

namespace Reads

theorem ne_nil {tokens : List Token} {sum : Sum} (reads : Reads tokens sum) : sum ≠ [] := by
  cases reads with
  | last | or => exact List.cons_ne_nil _ _
  | and => exact splice_ne_nil (List.cons_ne_nil _ _) _

/-- OR joins the readings of two conditions. -/
theorem append_or {first second : List Token} {left right : Sum} (readFirst : Reads first left)
    (readSecond : Reads second right) :
    Reads (first ++ .word "OR" :: second) (left ++ right) := by
  induction readFirst with
  | last front => exact .or (operand?_append front _) readSecond
  | and front readRest ih =>
      rw [← splice_append readRest.ne_nil]
      exact .and (operand?_append front _) ih
  | or front readRest ih => exact .or (operand?_append front _) ih

/-- AND joins the last conjunction of a condition to the first one of another. -/
theorem append_and {first second : List Token} {left right : Sum} (readFirst : Reads first left)
    (readSecond : Reads second right) :
    Reads (first ++ .word "AND" :: second) (splice left right) := by
  induction readFirst with
  | last front => exact .and (operand?_append front _) readSecond
  | and front readRest ih =>
      rw [← splice_assoc readRest.ne_nil]
      exact .and (operand?_append front _) ih
  | or front readRest ih =>
      rw [splice_cons readRest.ne_nil]
      exact .or (operand?_append front _) ih

/-- The groups of a condition are among its tokens. -/
theorem group_mem {tokens : List Token} {sum : Sum} {inner : String} (reads : Reads tokens sum)
    (mem : .group inner ∈ sum.flatten) : .group inner ∈ tokens := by
  have taken : ∀ {tokens rest : List Token} {operand : Operand},
      operand? tokens = some (operand, rest) →
        rest ⊆ tokens ∧ (.group inner = operand → .group inner ∈ tokens) := by
    intro tokens rest operand read
    unfold operand? at read
    split at read
    case h_7 => contradiction
    all_goals
      obtain ⟨rfl, rfl⟩ := Prod.mk.inj (Option.some.inj read)
      exact ⟨fun token mem => by simp [mem], by simp +contextual⟩
  induction reads with
  | last front => exact (taken front).2 (by simpa using mem)
  | @and _ operand _ sum front readRest ih =>
      rw [flatten_splice] at mem
      rcases List.mem_append.mp mem with here | later
      · exact (taken front).2 (by simpa using here)
      · exact (taken front).1 (List.mem_cons_of_mem _ (ih later))
  | @or _ operand _ sum front readRest ih =>
      rw [List.flatten_cons] at mem
      rcases List.mem_append.mp mem with here | later
      · exact (taken front).2 (by simpa using here)
      · exact (taken front).1 (List.mem_cons_of_mem _ (ih later))

end Reads

/-! ## Texts and what they read as -/

/-- A comparison, or what a group stands for. -/
def Operand.predicate : Operand → Predicate
  | .comparison condition => .ofComparison condition
  | .group inner => (read? inner).getD (.raw inner)

/-- The predicate of a sum. -/
def ofSum (sum : Sum) : Predicate :=
  .anyOf (sum.map fun product => .allOf (product.map Operand.predicate))

/-- A text reads as the sum of its tokens. -/
theorem read?_eq_ofSum {text : String} {tokens : List Token} {sum : Sum}
    (lexed : tokens? text.toList = some tokens) (reads : Reads tokens sum) :
    read? text = some (ofSum sum) := by
  rw [read?, lexed, Option.bind_some, sum?_eq_some_iff.mpr reads, Option.map_some, ofSum]
  congr 2
  refine List.map_congr_left fun product inSum => ?_
  congr 1
  refine List.map_congr_left fun operand inProduct => ?_
  cases operand with
  | comparison condition => rfl
  | group inner =>
      have mem := reads.group_mem (List.mem_flatten_of_mem inSum inProduct)
      have shorter : inner.length < text.length := length_lt_of_group_mem lexed mem
      simp only [Operand.predicate, shorter, dite_true]

/-- The text is written in tokens that read as the sum. -/
def Shows (text : String) (sum : Sum) : Prop :=
  ∃ tokens, text.toList = spaced tokens ∧ (∀ token ∈ tokens, token.IsProper) ∧ Reads tokens sum

theorem Reads.tokens_ne_nil {tokens : List Token} {sum : Sum} (reads : Reads tokens sum) :
    tokens ≠ [] := by
  rintro rfl
  cases reads <;> contradiction

namespace Shows

variable {first second text : String} {left right sum : Sum}

/-- The text reads as the sum that it shows. -/
theorem read?_eq (shown : Shows text sum) : read? text = some (ofSum sum) := by
  obtain ⟨tokens, written, proper, reads⟩ := shown
  exact read?_eq_ofSum (tokens?_of_eq_spaced written proper) reads

theorem sum_ne_nil (shown : Shows text sum) : sum ≠ [] := by
  obtain ⟨tokens, -, -, reads⟩ := shown
  exact reads.ne_nil

theorem isBalanced (shown : Shows text sum) : IsBalanced text.toList := by
  obtain ⟨tokens, written, proper, -⟩ := shown
  rw [written]
  exact isBalanced_spaced proper

/-- Texts that a word joins show what their tokens read as together. -/
theorem join (word : String) (isWord : (Token.word word).IsProper) {separator : String}
    (between : separator.toList = ' ' :: (word.toList ++ [' ']))
    (reads : ∀ firstTokens secondTokens, Reads firstTokens left → Reads secondTokens right →
      Reads (firstTokens ++ .word word :: secondTokens) sum)
    (showsFirst : Shows first left) (showsSecond : Shows second right) :
    Shows (first ++ separator ++ second) sum := by
  obtain ⟨firstTokens, writtenFirst, properFirst, readsFirst⟩ := showsFirst
  obtain ⟨secondTokens, writtenSecond, properSecond, readsSecond⟩ := showsSecond
  refine ⟨firstTokens ++ .word word :: secondTokens, ?_, ?_, reads _ _ readsFirst readsSecond⟩
  · rw [spaced_append_cons readsFirst.tokens_ne_nil readsSecond.tokens_ne_nil, ← writtenFirst,
      ← writtenSecond]
    simp [between]
  · exact List.forall_mem_append.mpr
      ⟨properFirst, List.forall_mem_cons.mpr ⟨isWord, properSecond⟩⟩

theorem or (showsFirst : Shows first left) (showsSecond : Shows second right) :
    Shows (first ++ " OR " ++ second) (left ++ right) :=
  join "OR" (by decide) (by decide) (fun _ _ => Reads.append_or) showsFirst showsSecond

theorem and (showsFirst : Shows first left) (showsSecond : Shows second right) :
    Shows (first ++ " AND " ++ second) (splice left right) :=
  join "AND" (by decide) (by decide) (fun _ _ => Reads.append_and) showsFirst showsSecond

/-- A balanced text in parentheses is one operand. -/
theorem group {inner : String} (balanced : IsBalanced inner.toList) :
    Shows ("(" ++ inner ++ ")") [[.group inner]] := by
  refine ⟨[.group inner], ?_, by simpa [Token.IsProper] using balanced, .last rfl⟩
  simp [spaced_singleton, Token.text]

/-- A comparison of a column is one operand. -/
theorem comparison {condition : Comparison}
    (identifier : Name.isIdentifierShape condition.column.toList = true) :
    Shows (Predicate.ofComparison condition).text [[.comparison condition]] :=
  ⟨condition.tokens, condition.toList_text, Comparison.isProper_of_mem_tokens identifier,
    .last (operand?_tokens condition)⟩

end Shows

/-! ## The truth of sums -/

variable {truth : Truth} {left right : Sum}

@[simp]
theorem holds_ofSum (sum : Sum) :
    (ofSum sum).holds truth =
      sum.any fun product => product.all fun operand => operand.predicate.holds truth := by
  simp [ofSum, Function.comp_def]

theorem holds_ofSum_append :
    (ofSum (left ++ right)).holds truth =
      ((ofSum left).holds truth || (ofSum right).holds truth) := by
  simp

/-- Where two conditions hold, their texts joined by AND do. -/
theorem holds_splice (nonempty : left ≠ []) (follows : right ≠ [])
    (holdsLeft : (ofSum left).holds truth = true) (holdsRight : (ofSum right).holds truth = true) :
    (ofSum (splice left right)).holds truth = true := by
  induction left with
  | nil => contradiction
  | cons product left ih =>
      cases left with
      | nil =>
          obtain ⟨next, right, rfl⟩ := List.exists_cons_of_ne_nil follows
          simp only [splice, holds_ofSum, List.any_cons, List.any_nil, Bool.or_false,
            List.all_append, Bool.or_eq_true, Bool.and_eq_true] at *
          exact holdsRight.imp_left fun holdsNext => ⟨holdsLeft, holdsNext⟩
      | cons next left =>
          have longer : next :: left ≠ [] := List.cons_ne_nil next left
          rw [← List.singleton_append, holds_ofSum_append, Bool.or_eq_true] at holdsLeft
          rw [splice_cons longer, ← List.singleton_append, holds_ofSum_append, Bool.or_eq_true]
          exact holdsLeft.imp_right (ih longer)

/-- Two conjunctions joined by AND are one that holds where both do. -/
theorem holds_splice_singleton (first second : List Operand) :
    (ofSum (splice [first] [second])).holds truth =
      ((ofSum [first]).holds truth && (ofSum [second]).holds truth) := by
  simp [splice]

end EntitySurface.Search
