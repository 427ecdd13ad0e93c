import EntitySurface.Proofs.Search.Reading

/-!
# The written form of a predicate

The written form reads as a disjunction of conjunctions, and where no OR comes loose it has the
meaning of the predicate. Parentheses are placed by the number of items of a conjunct. So a list of
one item hides an OR from them, and next to another conjunct the OR then reaches further than in the
predicate: the text finds all that the predicate finds, and may find more.
-/

namespace EntitySurface.Predicate

open Search

/-! ## The sum of a predicate -/

mutual

/-- The predicate and all that it is made of. -/
def parts : Predicate → List Predicate
  | anyOf items => .anyOf items :: partsOfEach items
  | allOf items => .allOf items :: partsOfEach items
  | predicate => [predicate]

/-- What several predicates are made of. -/
def partsOfEach : List Predicate → List Predicate
  | [] => []
  | item :: rest => parts item ++ partsOfEach rest

end

mutual

/-- The sum that the written form reads as. -/
def sum : Predicate → Sum
  | like column pattern => [[.comparison (.like column pattern)]]
  | equals column value => [[.comparison (.equals column value)]]
  | between column from' to' => [[.comparison (.between column from' to')]]
  | atLeast column value => [[.comparison (.atLeast column value)]]
  | atMost column value => [[.comparison (.atMost column value)]]
  | anyOf items => sumOfAny items
  | allOf items => sumOfAll items
  | raw text => [[.group text]]

/-- The sum of a disjunction. -/
def sumOfAny : List Predicate → Sum
  | [] => []
  | item :: rest => sum item ++ sumOfAny rest

/-- The sum of a conjunction; a compound conjunct is one operand. -/
def sumOfAll : List Predicate → Sum
  | [] => []
  | item :: rest =>
      splice (if isCompound item then [[.group (text item)]] else sum item) (sumOfAll rest)

end

/-- The parts that can be written: lists have items, columns are identifiers, and conditions in the
words of the query language are balanced. -/
def IsWritable : Predicate → Prop
  | like column _ | equals column _ | between column _ _ | atLeast column _ | atMost column _ =>
      Name.isIdentifierShape column.toList = true
  | anyOf items | allOf items => items ≠ []
  | raw text => IsBalanced text.toList

/-- No conjunct among several has an OR outside the parentheses of its text. -/
def IsBracketed : Predicate → Prop
  | allOf items => items.length ≤ 1 ∨ ∀ item ∈ items, item.isCompound = true ∨ item.sum.length = 1
  | _ => True

instance : (predicate : Predicate) → Decidable predicate.IsWritable
  | like .. | equals .. | between .. | atLeast .. | atMost .. => inferInstanceAs (Decidable (_ = _))
  | anyOf _ | allOf _ => inferInstanceAs (Decidable (_ ≠ []))
  | raw _ => inferInstanceAs (Decidable (IsBalanced _))

instance : (predicate : Predicate) → Decidable predicate.IsBracketed
  | allOf _ => inferInstanceAs (Decidable (_ ∨ _))
  | like .. | equals .. | between .. | atLeast .. | atMost .. | anyOf _ | raw _ =>
      inferInstanceAs (Decidable True)

/-- The written form of a conjunct. -/
def conjunct (item : Predicate) : String :=
  if isCompound item then "(" ++ text item ++ ")" else text item

/-- The sum of a conjunct. -/
def conjunctSum (item : Predicate) : Sum :=
  if isCompound item then [[.group (text item)]] else sum item

section Parts

variable {property : Predicate → Prop} {items : List Predicate}

theorem forall_parts_ofComparison_iff {condition : Comparison} :
    (∀ part ∈ (ofComparison condition).parts, property part) ↔
      property (ofComparison condition) := by
  cases condition <;> simp [ofComparison, parts]

theorem forall_parts_raw_iff {text : String} :
    (∀ part ∈ (raw text).parts, property part) ↔ property (raw text) := by
  simp [parts]

theorem forall_partsOfEach_iff :
    (∀ part ∈ partsOfEach items, property part) ↔
      ∀ item ∈ items, ∀ part ∈ item.parts, property part := by
  induction items with
  | nil => simp [partsOfEach]
  | cons item rest ih => rw [partsOfEach, List.forall_mem_append, ih, List.forall_mem_cons]

theorem forall_parts_anyOf_iff :
    (∀ part ∈ (anyOf items).parts, property part) ↔
      property (anyOf items) ∧ ∀ item ∈ items, ∀ part ∈ item.parts, property part := by
  rw [parts, List.forall_mem_cons, forall_partsOfEach_iff]

theorem forall_parts_allOf_iff :
    (∀ part ∈ (allOf items).parts, property part) ↔
      property (allOf items) ∧ ∀ item ∈ items, ∀ part ∈ item.parts, property part := by
  rw [parts, List.forall_mem_cons, forall_partsOfEach_iff]

end Parts

theorem textOfEach_eq_map (items : List Predicate) : textOfEach items = items.map text := by
  induction items with
  | nil => rfl
  | cons item rest ih => rw [textOfEach, ih, List.map_cons]

theorem conjunctOfEach_eq_map (items : List Predicate) :
    conjunctOfEach items = items.map conjunct := by
  induction items with
  | nil => rfl
  | cons item rest ih =>
      rw [conjunctOfEach, ih, List.map_cons]
      rfl

theorem sumOfAll_cons (item : Predicate) (rest : List Predicate) :
    sumOfAll (item :: rest) = splice item.conjunctSum (sumOfAll rest) :=
  rfl

theorem shows_conjunct {item : Predicate} (shown : Shows item.text item.sum) :
    Shows item.conjunct item.conjunctSum := by
  unfold conjunct conjunctSum
  split
  · exact .group shown.isBalanced
  · exact shown

theorem shows_anyOf {items : List Predicate} (nonempty : items ≠ [])
    (each : ∀ item ∈ items, Shows item.text item.sum) :
    Shows (anyOf items).text (anyOf items).sum := by
  rw [text, textOfEach_eq_map, sum]
  induction items with
  | nil => contradiction
  | cons item rest ih =>
      obtain ⟨first, others⟩ := List.forall_mem_cons.mp each
      cases rest with
      | nil =>
          rw [List.map_singleton, String.intercalate_singleton, sumOfAny, sumOfAny,
            List.append_nil]
          exact first
      | cons next rest =>
          rw [List.map_cons, List.map_cons, String.intercalate_cons_cons, sumOfAny]
          exact first.or (ih (List.cons_ne_nil next rest) others)

theorem shows_allOf {items : List Predicate} (nonempty : items ≠ [])
    (each : ∀ item ∈ items, Shows item.text item.sum) :
    Shows (allOf items).text (allOf items).sum := by
  rw [text, conjunctOfEach_eq_map, sum]
  induction items with
  | nil => contradiction
  | cons item rest ih =>
      obtain ⟨first, others⟩ := List.forall_mem_cons.mp each
      cases rest with
      | nil =>
          rw [List.map_singleton, String.intercalate_singleton, sumOfAll_cons, sumOfAll, splice_nil]
          exact shows_conjunct first
      | cons next rest =>
          rw [List.map_cons, List.map_cons, String.intercalate_cons_cons, sumOfAll_cons]
          exact (shows_conjunct first).and (ih (List.cons_ne_nil next rest) others)

/-- The written form shows the sum of the predicate. -/
theorem shows_text {predicate : Predicate} (writable : ∀ part ∈ predicate.parts, part.IsWritable) :
    Shows predicate.text predicate.sum := by
  induction predicate using Predicate.induction with
  | comparison condition =>
      have identifier : Name.isIdentifierShape condition.column.toList = true := by
        have own := forall_parts_ofComparison_iff.mp writable
        cases condition <;> exact own
      have sum_eq : (ofComparison condition).sum = [[.comparison condition]] := by
        cases condition <;> rfl
      rw [sum_eq]
      exact .comparison identifier
  | raw text =>
      have balanced : IsBalanced text.toList := forall_parts_raw_iff.mp writable
      rw [Predicate.text, sum]
      exact .group balanced
  | anyOf items ih =>
      obtain ⟨nonempty, each⟩ := forall_parts_anyOf_iff.mp writable
      exact shows_anyOf nonempty fun item mem => ih item mem (each item mem)
  | allOf items ih =>
      obtain ⟨nonempty, each⟩ := forall_parts_allOf_iff.mp writable
      exact shows_allOf nonempty fun item mem => ih item mem (each item mem)

/-! ## The truth of the written form -/

/-- A condition in the words of the query language is as true as what it reads as. -/
def Respected (truth : Truth) : Predicate → Prop
  | raw text => ∀ condition, read? text = some condition →
      truth.asserts text = condition.holds truth
  | _ => True

variable {truth : Truth} {items : List Predicate}

/-- Parentheses keep the truth of a conjunct. -/
theorem holds_conjunctSum {item : Predicate} (shown : Shows item.text item.sum) :
    (ofSum item.conjunctSum).holds truth = (ofSum item.sum).holds truth := by
  unfold conjunctSum
  split
  · have group : Operand.predicate (.group item.text) = ofSum item.sum := by
      rw [Operand.predicate, shown.read?_eq, Option.getD_some]
    rw [holds_ofSum, List.any_cons, List.any_nil, Bool.or_false, List.all_cons, List.all_nil,
      Bool.and_true, group]
  · rfl

theorem holds_sumOfAny : (ofSum (sumOfAny items)).holds truth =
    items.any fun item => (ofSum item.sum).holds truth := by
  induction items with
  | nil => rfl
  | cons item rest ih => rw [sumOfAny, holds_ofSum_append, ih, List.any_cons]

/-- Where all conjuncts hold, the text of the conjunction does. -/
theorem holds_sumOfAll_of_forall (nonempty : items ≠ [])
    (each : ∀ item ∈ items, Shows item.text item.sum)
    (all : ∀ item ∈ items, (ofSum item.sum).holds truth = true) :
    (ofSum (sumOfAll items)).holds truth = true := by
  induction items with
  | nil => contradiction
  | cons item rest ih =>
      obtain ⟨first, others⟩ := List.forall_mem_cons.mp each
      obtain ⟨holdsFirst, holdOthers⟩ := List.forall_mem_cons.mp all
      rw [← holds_conjunctSum first] at holdsFirst
      rw [sumOfAll_cons]
      cases rest with
      | nil => rwa [sumOfAll, splice_nil]
      | cons next rest =>
          have longer : next :: rest ≠ [] := List.cons_ne_nil next rest
          exact holds_splice (shows_conjunct first).sum_ne_nil
            (shows_allOf longer others).sum_ne_nil holdsFirst (ih longer others holdOthers)

/-- Conjuncts without an OR outside parentheses make one conjunction, which holds where all do. -/
theorem holds_sumOfAll_of_single (nonempty : items ≠ [])
    (each : ∀ item ∈ items, Shows item.text item.sum)
    (single : ∀ item ∈ items, item.conjunctSum.length = 1) :
    (sumOfAll items).length = 1 ∧ (ofSum (sumOfAll items)).holds truth =
      items.all fun item => (ofSum item.sum).holds truth := by
  induction items with
  | nil => contradiction
  | cons item rest ih =>
      obtain ⟨first, others⟩ := List.forall_mem_cons.mp each
      obtain ⟨singleFirst, singleOthers⟩ := List.forall_mem_cons.mp single
      rw [List.all_cons, ← holds_conjunctSum first, sumOfAll_cons]
      cases rest with
      | nil =>
          rw [sumOfAll, splice_nil, List.all_nil, Bool.and_true]
          exact ⟨singleFirst, rfl⟩
      | cons next rest =>
          obtain ⟨length, holds⟩ := ih (List.cons_ne_nil next rest) others singleOthers
          obtain ⟨product, isFirst⟩ := List.length_eq_one_iff.mp singleFirst
          obtain ⟨last, isLast⟩ := List.length_eq_one_iff.mp length
          rw [← holds, isFirst, isLast]
          exact ⟨rfl, holds_splice_singleton product last⟩

theorem holds_sum_ofComparison (condition : Comparison) :
    (ofSum (ofComparison condition).sum).holds truth = (ofComparison condition).holds truth := by
  have sum_eq : (ofComparison condition).sum = [[.comparison condition]] := by
    cases condition <;> rfl
  simp [sum_eq, Operand.predicate]

theorem holds_sum_raw {text : String} (respected : Respected truth (raw text)) :
    (ofSum (raw text).sum).holds truth = (raw text).holds truth := by
  have group : (Operand.predicate (.group text)).holds truth = truth.asserts text := by
    rw [Operand.predicate]
    cases reads : read? text with
    | none => rw [Option.getD_none, holds]
    | some condition => rw [Option.getD_some, respected condition reads]
  simp [sum, group, holds]

/-- The text holds wherever the predicate does. -/
theorem holds_sum_of_holds {predicate : Predicate}
    (writable : ∀ part ∈ predicate.parts, part.IsWritable)
    (respected : ∀ part ∈ predicate.parts, Respected truth part)
    (found : predicate.holds truth = true) : (ofSum predicate.sum).holds truth = true := by
  induction predicate using Predicate.induction with
  | comparison condition => rwa [holds_sum_ofComparison]
  | raw text => rwa [holds_sum_raw (forall_parts_raw_iff.mp respected)]
  | anyOf items ih =>
      obtain ⟨-, writable⟩ := forall_parts_anyOf_iff.mp writable
      obtain ⟨-, respected⟩ := forall_parts_anyOf_iff.mp respected
      rw [holds_anyOf, List.any_eq_true] at found
      obtain ⟨item, mem, found⟩ := found
      rw [sum, holds_sumOfAny, List.any_eq_true]
      exact ⟨item, mem, ih item mem (writable item mem) (respected item mem) found⟩
  | allOf items ih =>
      obtain ⟨nonempty, writable⟩ := forall_parts_allOf_iff.mp writable
      obtain ⟨-, respected⟩ := forall_parts_allOf_iff.mp respected
      rw [holds_allOf, List.all_eq_true] at found
      rw [sum]
      exact holds_sumOfAll_of_forall nonempty (fun item mem => shows_text (writable item mem))
        fun item mem => ih item mem (writable item mem) (respected item mem) (found item mem)

/-- The text holds nowhere else when no OR comes loose. -/
theorem holds_sum_eq {predicate : Predicate}
    (writable : ∀ part ∈ predicate.parts, part.IsWritable)
    (respected : ∀ part ∈ predicate.parts, Respected truth part)
    (bracketed : ∀ part ∈ predicate.parts, part.IsBracketed) :
    (ofSum predicate.sum).holds truth = predicate.holds truth := by
  induction predicate using Predicate.induction with
  | comparison condition => exact holds_sum_ofComparison condition
  | raw text => exact holds_sum_raw (forall_parts_raw_iff.mp respected)
  | anyOf items ih =>
      obtain ⟨-, writable⟩ := forall_parts_anyOf_iff.mp writable
      obtain ⟨-, respected⟩ := forall_parts_anyOf_iff.mp respected
      obtain ⟨-, bracketed⟩ := forall_parts_anyOf_iff.mp bracketed
      rw [sum, holds_sumOfAny, holds_anyOf, Bool.eq_iff_iff, List.any_eq_true, List.any_eq_true]
      refine exists_congr fun item => and_congr_right fun mem => ?_
      rw [ih item mem (writable item mem) (respected item mem) (bracketed item mem)]
  | allOf items ih =>
      obtain ⟨nonempty, writable⟩ := forall_parts_allOf_iff.mp writable
      obtain ⟨-, respected⟩ := forall_parts_allOf_iff.mp respected
      obtain ⟨tight, bracketed⟩ := forall_parts_allOf_iff.mp bracketed
      have each : ∀ item ∈ items, Shows item.text item.sum :=
        fun item mem => shows_text (writable item mem)
      have same : ∀ item ∈ items, (ofSum item.sum).holds truth = item.holds truth :=
        fun item mem => ih item mem (writable item mem) (respected item mem) (bracketed item mem)
      have all_eq : (items.all fun item => (ofSum item.sum).holds truth) =
          items.all (holds truth) := by
        rw [Bool.eq_iff_iff, List.all_eq_true, List.all_eq_true]
        exact forall₂_congr fun item mem => by rw [same item mem]
      rw [sum, holds_allOf, ← all_eq]
      rcases tight with few | single
      · -- The text of a single conjunct stands alone, whatever OR it has.
        obtain ⟨item, rfl⟩ : ∃ item, items = [item] := by
          match items, nonempty, few with
          | [item], _, _ => exact ⟨item, rfl⟩
        rw [sumOfAll_cons, sumOfAll, splice_nil, List.all_cons, List.all_nil, Bool.and_true]
        exact holds_conjunctSum (each item (List.mem_singleton_self item))
      · refine (holds_sumOfAll_of_single nonempty each fun item mem => ?_).2
        unfold conjunctSum
        split
        · rfl
        · exact (single item mem).resolve_left ‹_›

/-- The written form reads as a condition that holds wherever the predicate does, and nowhere else
when no conjunct among several has an OR outside its parentheses. -/
theorem text_reads {predicate : Predicate} (writable : ∀ part ∈ predicate.parts, part.IsWritable) :
    ∃ condition, read? predicate.text = some condition ∧
      ∀ truth, (∀ part ∈ predicate.parts, Respected truth part) →
        (predicate.holds truth = true → condition.holds truth = true) ∧
          ((∀ part ∈ predicate.parts, part.IsBracketed) →
            condition.holds truth = predicate.holds truth) := by
  refine ⟨ofSum predicate.sum, (shows_text writable).read?_eq, fun truth respected => ⟨?_, ?_⟩⟩
  · exact holds_sum_of_holds writable respected
  · exact holds_sum_eq writable respected

/-- A choice of two values, an exact value and a filter. -/
def choiceAndFilter : Predicate :=
  .allOf [.anyOf [.equals "A" "1", .equals "B" "2"], .equals "C" "3", .raw "OWNER = CURRENT_USER"]

/-- The filter reads as no condition, so every truth respects it. -/
theorem text_reads_choiceAndFilter :
    (∀ part ∈ choiceAndFilter.parts, part.IsWritable) ∧
      (∀ part ∈ choiceAndFilter.parts, part.IsBracketed) ∧
        ∃ condition, read? choiceAndFilter.text = some condition ∧
          ∀ truth, condition.holds truth = choiceAndFilter.holds truth := by
  have writable : ∀ part ∈ choiceAndFilter.parts, part.IsWritable := by decide
  have bracketed : ∀ part ∈ choiceAndFilter.parts, part.IsBracketed := by decide
  obtain ⟨condition, read, agrees⟩ := text_reads writable
  refine ⟨writable, bracketed, condition, read, fun truth => (agrees truth ?_).2 bracketed⟩
  have written : "OWNER = CURRENT_USER".toList =
      spaced [.word "OWNER", .sign "=", .word "CURRENT_USER"] := by decide
  have unread : read? "OWNER = CURRENT_USER" = none := by
    rw [read?, tokens?_of_eq_spaced written (by decide), Option.bind_some, sum?]
    rfl
  simp [choiceAndFilter, parts, partsOfEach, Respected, unread]

/-- A disjunction in a list of one. -/
def looseOr : Predicate :=
  .allOf [.anyOf [.anyOf [.equals "A" "1", .equals "B" "2"]], .equals "C" "3"]

/-- Its text `A = '1' OR B = '2' AND C = '3'` holds where A is 1, whatever C is. -/
theorem text_reads_looseOr :
    (∀ part ∈ looseOr.parts, part.IsWritable) ∧
      ∃ condition, read? looseOr.text = some condition ∧
        ∃ truth, (∀ part ∈ looseOr.parts, Respected truth part) ∧
          condition.holds truth = true ∧ looseOr.holds truth = false := by
  have writable : ∀ part ∈ looseOr.parts, part.IsWritable := by decide
  refine ⟨writable, ofSum looseOr.sum, (shows_text writable).read?_eq,
    ⟨fun condition => condition == .equals "A" "1", fun _ => false⟩, ?_, ?_, ?_⟩
  · simp [looseOr, parts, partsOfEach, Respected]
  · decide
  · decide

end EntitySurface.Predicate
