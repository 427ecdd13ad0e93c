import EntitySurface.Proofs.Schema.Growth
import EntitySurface.Schema.Command

/-!
# What successful steps do

Every step that succeeds on a well-formed schema is taken apart here once: most steps grow entities
by additions, and the others change the catalog, declare an entity or finish the schema.
-/

namespace EntitySurface

namespace Schema

/-- Additions to the entities of a schema, one after another. -/
inductive Growth (first : Schema) : Schema → Prop where
  | refl : Growth first first
  | step {last : Schema} {key : EntityKey} {found grown : Entity} (growth : Growth first last)
      (known : last.entity? key = some found) (added : found.Addition last grown) :
      Growth first (last.replace key grown)

namespace Growth

variable {first middle last : Schema} {key : EntityKey} {found grown : Entity}

theorem of_addition (known : first.entity? key = some found) (added : found.Addition first grown) :
    Growth first (first.replace key grown) :=
  Growth.refl.step known added

theorem trans (left : Growth first middle) (right : Growth middle last) : Growth first last := by
  induction right with
  | refl => exact left
  | step growth known added ih => exact ih.step known added

/-- Growth keeps the schema well-formed. -/
theorem wellFormed (growth : Growth first last) (sound : first.WellFormed) : last.WellFormed := by
  induction growth with
  | refl => exact sound
  | step growth known added ih =>
      exact ih.replace known added.key_eq (added.wellFormed (ih.entity known))

/-- Growth changes the entities and nothing else. -/
theorem eq_with_entities (growth : Growth first last) :
    ∃ entities, last = { first with entities } := by
  induction growth with
  | refl => exact ⟨first.entities, rfl⟩
  | @step last key found grown growth known added ih =>
      obtain ⟨before, rfl⟩ := ih
      obtain ⟨entities, replaced⟩ :=
        replace_eq_with_entities { first with entities := before } key grown
      exact ⟨entities, replaced⟩

end Growth

end Schema

namespace Composer

open Schema

variable {before after : Schema} {key : EntityKey} {done : Unit}

/-! ## Additions to one entity -/

theorem growth_of_modifyEntity {change : Entity → Except Fault Entity}
    (additive : ∀ found changed, before.entity? key = some found → change found = .ok changed →
      found.Addition before changed)
    (succeeded : modifyEntity key change before = .ok done after) : Growth before after := by
  obtain ⟨found, changed, known, result, rfl⟩ := modifyEntity_eq_ok_iff.mp succeeded
  exact Growth.of_addition known (additive found changed known result)

theorem describeEntity_growth {text : String}
    (succeeded : describeEntity key text before = .ok done after) : Growth before after := by
  simp only [describeEntity, bind_eq_ok_iff, ensureComposing_eq_ok_iff] at succeeded
  obtain ⟨_, _, ⟨-, rfl⟩, changed⟩ := succeeded
  refine growth_of_modifyEntity ?_ changed
  rintro found changed - ⟨⟩
  exact .description text

/-- A searchable field comes with its widget, so that both make one addition. -/
theorem attachField_growth {field : Field}
    (succeeded : attachField key field before = .ok done after) : Growth before after := by
  simp only [attachField, bind_eq_ok_iff, ensureComposing_eq_ok_iff, check_eq_ok_iff,
    requireCategory_eq_ok_iff, modifyEntity_eq_ok_iff, Option.map_eq_none_iff] at succeeded
  obtain ⟨_, _, ⟨-, rfl⟩, _, _, ⟨sound, rfl⟩, _, _, ⟨category, rfl⟩, _, _,
    ⟨found, stored, known, added, rfl⟩, shown⟩ := succeeded
  have stored_eq := (Entity.addField_eq_ok_iff.mp added).2
  cases searchable : field.searchable with
  | true =>
      rw [if_pos searchable, modifyEntity_eq_ok_iff] at shown
      obtain ⟨grown, final, knownGrown, addedWidget, rfl⟩ := shown
      rw [entity?_replace_self known, Option.some.injEq] at knownGrown
      subst knownGrown
      have final_eq : final = found.withField field := by
        rw [Entity.addWidget_ok_eq addedWidget, ← stored_eq]
        simp [Entity.withField, searchable]
      subst final_eq
      rw [replace_replace]
      exact Growth.of_addition known (.field sound category added fun _ => addedWidget)
  | false =>
      rw [if_neg (by simp [searchable]), pure_eq_ok_iff] at shown
      obtain ⟨-, rfl⟩ := shown
      have same : stored = found.withField field := by
        rw [← stored_eq]
        simp [Entity.withField, searchable]
      rw [same]
      exact Growth.of_addition known
        (.field sound category added fun shown => absurd shown (by simp [searchable]))

theorem attachRule_growth {property : String} {rule : BusinessRule}
    (wellFormed : before.WellFormed)
    (succeeded : attachRule key property rule before = .ok done after) : Growth before after := by
  simp only [attachRule, bind_eq_ok_iff, ensureComposing_eq_ok_iff,
    requireEntity_eq_ok_iff] at succeeded
  obtain ⟨_, _, ⟨-, rfl⟩, found, _, ⟨known, rfl⟩, rest⟩ := succeeded
  cases named : found.property? property with
  | none =>
      rw [named] at rest
      exact absurd rest throw_ne_ok
  | some attached =>
      simp only [named, bind_eq_ok_iff, check_eq_ok_iff] at rest
      obtain ⟨_, _, ⟨fits, rfl⟩, changed⟩ := rest
      refine growth_of_modifyEntity ?_ changed
      intro other grown otherKnown added
      rw [known, Option.some.injEq] at otherKnown
      subst otherKnown
      rw [← wellFormed.key_eq known] at fits
      exact .rule named fits added

theorem declareHook_growth {declaring method origin : String} {phase : HookPhase}
    (succeeded : declareHook key declaring method origin phase before = .ok done after) :
    Growth before after := by
  simp only [declareHook, bind_eq_ok_iff, ensureComposing_eq_ok_iff] at succeeded
  obtain ⟨_, _, ⟨-, rfl⟩, changed⟩ := succeeded
  exact growth_of_modifyEntity (fun _ _ _ added => .hook added) changed

theorem declareWidget_growth {element : ElementRef} {isPrimary : Bool}
    {category : Option ChoiceKey}
    (succeeded : declareWidget key element isPrimary category before = .ok done after) :
    Growth before after := by
  simp only [declareWidget, bind_eq_ok_iff, ensureComposing_eq_ok_iff,
    requireEntity_eq_ok_iff] at succeeded
  obtain ⟨_, _, ⟨-, rfl⟩, found, _, ⟨known, rfl⟩, rest⟩ := succeeded
  cases resolved : found.resolveElement? element with
  | none =>
      rw [resolved] at rest
      exact absurd rest throw_ne_ok
  | some described =>
      obtain ⟨type, label⟩ := described
      simp only [resolved, bind_eq_ok_iff, requireCategory_eq_ok_iff, check_eq_ok_iff] at rest
      obtain ⟨_, _, ⟨registered, rfl⟩, _, _, ⟨fits, rfl⟩, changed⟩ := rest
      refine growth_of_modifyEntity ?_ changed
      intro other grown otherKnown added
      rw [known, Option.some.injEq] at otherKnown
      subst otherKnown
      exact .widget resolved added rfl registered fits

theorem addTab_growth {tab : DisplayTab} (succeeded : addTab key tab before = .ok done after) :
    Growth before after := by
  simp only [addTab, bind_eq_ok_iff, ensureComposing_eq_ok_iff,
    requireIdentifier_eq_ok_iff] at succeeded
  obtain ⟨_, _, ⟨-, rfl⟩, _, _, ⟨identifier, rfl⟩, changed⟩ := succeeded
  exact growth_of_modifyEntity (fun _ _ _ added => .tab identifier added) changed

theorem addAlias_growth {header : LoaderAlias}
    (succeeded : addAlias key header before = .ok done after) : Growth before after := by
  simp only [addAlias, bind_eq_ok_iff, ensureComposing_eq_ok_iff] at succeeded
  obtain ⟨_, _, ⟨-, rfl⟩, changed⟩ := succeeded
  exact growth_of_modifyEntity (fun _ _ _ added => .loaderAlias added) changed

/-! ## Attachments with their companions -/

/-- Changes of one entity, one after another, come to one change. -/
theorem forM_modifyEntity_eq_ok {α : Type} {change : α → Entity → Except Fault Entity}
    {list : List α} {found : Entity} (known : before.entity? key = some found)
    (succeeded : (list.forM fun item => modifyEntity key (change item)) before = .ok done after) :
    ∃ changed, list.foldlM (fun entity item => change item entity) found = .ok changed ∧
      before.replace key changed = after := by
  induction list generalizing before found with
  | nil =>
      obtain ⟨-, rfl⟩ := pure_eq_ok_iff.mp succeeded
      exact ⟨found, rfl, replace_self known⟩
  | cons item rest ih =>
      simp only [List.forM, bind_eq_ok_iff] at succeeded
      obtain ⟨_, middle, first, others⟩ := succeeded
      obtain ⟨entity, next, entityKnown, changed, rfl⟩ := modifyEntity_eq_ok_iff.mp first
      rw [known, Option.some.injEq] at entityKnown
      subst entityKnown
      obtain ⟨final, folded, rfl⟩ := ih (entity?_replace_self known next) others
      refine ⟨final, ?_, (replace_replace before key next final).symm⟩
      rw [List.foldlM_cons, changed]
      exact folded

/-- A stored property comes with its widgets, and the companions that it implies are listed. -/
theorem store_eq_ok {pending : Pending} {implied : List Pending} (wellFormed : before.WellFormed)
    (succeeded : store pending before = .ok implied after) :
    implied = pending.implied ∧
      ∃ found, before.entity? pending.target = some found ∧
        found.Addition before (found.withProperty pending.bound) ∧
        after = before.replace pending.target (found.withProperty pending.bound) := by
  simp only [store, bind_eq_ok_iff, requireIdentifier_eq_ok_iff, check_eq_ok_iff,
    modifyEntity_eq_ok_iff, pure_eq_ok_iff] at succeeded
  obtain ⟨_, _, ⟨identifier, rfl⟩, _, _, ⟨rules, rfl⟩, _, _, ⟨bindings, rfl⟩, _, _,
    ⟨owner, rfl⟩, _, _, ⟨found, stored, known, added, rfl⟩, _, _, shown, rfl, rfl⟩ := succeeded
  obtain ⟨grown, folded, rfl⟩ :=
    forM_modifyEntity_eq_ok (entity?_replace_self known stored) shown
  have grown_eq : grown = found.withProperty pending.bound := by
    rw [Entity.foldlM_addWidget_ok_eq folded, ← (Entity.addProperty_eq_ok_iff.mp added).2.2.2]
    rfl
  subst grown_eq
  refine ⟨rfl, found, known, ?_, replace_replace before pending.target stored _⟩
  exact .property (wellFormed.key_eq known).symm identifier rules bindings
    (by simpa [ownerFault?] using owner) added folded

theorem store_growth {pending : Pending} {implied : List Pending}
    (wellFormed : before.WellFormed) (succeeded : store pending before = .ok implied after) :
    Growth before after := by
  obtain ⟨-, found, known, added, rfl⟩ := store_eq_ok wellFormed succeeded
  exact Growth.of_addition known added

/-- A processed attachment is a companion that is there already, or it is stored. -/
theorem process_eq_ok {pending : Pending} {implied : List Pending}
    (succeeded : process pending before = .ok implied after) :
    (∃ owner existing, before.entity? pending.target = some owner ∧
      owner.property? pending.property.name = some existing ∧
      existing.kind = pending.property.kind ∧ implied = [] ∧ before = after) ∨
    store pending before = .ok implied after := by
  simp only [process, bind_eq_ok_iff, requireTarget_eq_ok_iff] at succeeded
  obtain ⟨owner, _, ⟨known, rfl⟩, rest⟩ := succeeded
  cases companion : pending.isCompanion with
  | false =>
      simp only [companion] at rest
      exact Or.inr rest
  | true =>
      cases present : owner.property? pending.property.name with
      | none =>
          simp only [companion, present] at rest
          exact Or.inr rest
      | some existing =>
          simp only [companion, present] at rest
          by_cases same : existing.kind = pending.property.kind
          · rw [if_pos (by simp [same]), pure_eq_ok_iff] at rest
            obtain ⟨rfl, unchanged⟩ := rest
            exact Or.inl ⟨owner, existing, known, present, same, rfl, unchanged⟩
          · rw [if_neg (by simp [same])] at rest
            exact absurd rest throw_ne_ok

theorem process_growth {pending : Pending} {implied : List Pending}
    (wellFormed : before.WellFormed)
    (succeeded : process pending before = .ok implied after) : Growth before after := by
  rcases process_eq_ok succeeded with ⟨_, _, _, _, _, -, rfl⟩ | stored
  · exact Growth.refl
  · exact store_growth wellFormed stored

/-- What every processed attachment keeps, with the attachments that wait after it, is kept until
none waits any more. -/
theorem drain_induction (holds : Schema → List Pending → Prop)
    (step : ∀ {before after pending rest implied}, process pending before = .ok implied after →
      holds before (pending :: rest) → holds after (rest ++ implied))
    {steps : Nat} {queue : List Pending} (start : holds before queue)
    (succeeded : drain steps queue before = .ok done after) : holds after [] := by
  induction steps generalizing before queue with
  | zero =>
      cases queue with
      | nil =>
          obtain ⟨-, rfl⟩ := pure_eq_ok_iff.mp succeeded
          exact start
      | cons first rest => exact absurd succeeded throw_ne_ok
  | succ steps ih =>
      cases queue with
      | nil =>
          obtain ⟨-, rfl⟩ := pure_eq_ok_iff.mp succeeded
          exact start
      | cons first rest =>
          rw [drain, bind_eq_ok_iff] at succeeded
          obtain ⟨implied, middle, processed, drained⟩ := succeeded
          exact ih (step processed start) drained

theorem drain_growth {steps : Nat} {queue : List Pending} (wellFormed : before.WellFormed)
    (succeeded : drain steps queue before = .ok done after) : Growth before after := by
  apply drain_induction (fun middle _ => Growth before middle) _ Growth.refl succeeded
  intro middle next pending rest implied processed growth
  exact growth.trans (process_growth (growth.wellFormed wellFormed) processed)

theorem restoring_eq_ok_iff {step : Composer Unit} :
    restoring step before = .ok done after ↔ step before = .ok done after := by
  unfold restoring
  cases step before <;> simp

theorem attach_growth {property : Property} {visibility : Visibility}
    (wellFormed : before.WellFormed)
    (succeeded : attach key property visibility before = .ok done after) :
    Growth before after := by
  simp only [attach, bind_eq_ok_iff, ensureComposing_eq_ok_iff, requireEntity_eq_ok_iff,
    restoring_eq_ok_iff] at succeeded
  obtain ⟨_, _, ⟨-, rfl⟩, _, _, ⟨-, rfl⟩, drained⟩ := succeeded
  exact drain_growth wellFormed drained

end Composer

end EntitySurface
