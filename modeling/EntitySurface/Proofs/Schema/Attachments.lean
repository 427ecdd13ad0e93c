import EntitySurface.Proofs.Schema.Likeness
import EntitySurface.Proofs.Schema.Reachable

/-!
# Attachments one by one

When an attachment may be processed, and what each entity of the schema has received afterwards. A
property must pass every check before its entity takes it; a companion is also let pass when its
entity has it already.
-/

namespace EntitySurface

open Composer

/-! ## Changing all entities -/

namespace Schema

variable {schema : Schema} {key : EntityKey} {found : Entity}

/-- The schema with each of its entities changed. -/
def mapEntities (schema : Schema) (change : Entity → Entity) : Schema :=
  { schema with entities := schema.entities.map change }

@[simp]
theorem entity?_mapEntities (schema : Schema) (change : Entity → Entity) (key : EntityKey) :
    (schema.mapEntities change).entity? key = (schema.entity? key).map change := by
  unfold entity? mapEntities
  cases schema.index.position? key <;> simp

@[simp]
theorem mapEntities_mapEntities (schema : Schema) (first second : Entity → Entity) :
    (schema.mapEntities first).mapEntities second =
      schema.mapEntities fun entity => second (first entity) := by
  simp [mapEntities]

theorem mapEntities_congr {first second : Entity → Entity}
    (same : ∀ entity ∈ schema.entities, first entity = second entity) :
    schema.mapEntities first = schema.mapEntities second := by
  simp only [mapEntities, List.map_congr_left same]

/-- In a well-formed schema, replacing an entity changes it and no other. -/
theorem WellFormed.replace_eq_mapEntities (wellFormed : schema.WellFormed)
    (known : schema.entity? key = some found) (changed : Entity) :
    schema.replace key changed =
      schema.mapEntities fun entity => if entity.key = key then changed else entity := by
  obtain ⟨position, entered, stored⟩ := entity?_eq_some_iff_getElem?.mp known
  rw [replace_eq entered, mapEntities]
  congr 1
  refine List.ext_getElem? fun place => ?_
  rw [List.getElem?_map]
  by_cases same : position = place
  · subst same
    rw [List.getElem?_set_self (List.getElem?_eq_some_iff.mp stored).1, stored, Option.map_some,
      if_pos (wellFormed.key_eq known)]
  · rw [List.getElem?_set_ne same]
    cases other : schema.entities[place]? with
    | none => rfl
    | some entity =>
        have apart : entity.key ≠ key := by
          intro keyed
          have elsewhere := (wellFormed.indexed key place).mpr ⟨entity, other, keyed⟩
          rw [entered, Option.some.injEq] at elsewhere
          exact same elsewhere
        rw [Option.map_some, if_neg apart]

end Schema

/-! ## Storing one property -/

/-- What is checked before an entity of the schema stores a property. -/
structure Entity.Takes (schema : Schema) (entity : Entity) (pending : Pending) : Prop where
  identifier : Name.identifierProblem? pending.property.name = none
  rules : rulesFault? pending.target pending.property = none
  bindings : bindingFault? schema pending.target pending.property = none
  unowned : pending.property.owner = none
  fresh : entity.property? pending.property.name = none
  columns : ∀ element ∈ pending.bound.elements, entity.columnClashes element.name = false
  parentLinks : entity.checkParentLink pending.bound = .ok ()
  widgets : (propertyWidgets pending.bound).foldlM Entity.addWidget entity =
    .ok { entity with searchWidgets := entity.searchWidgets ++ propertyWidgets pending.bound }

/-- Whether widgets may be added depends on the widgets that are there and on nothing else. -/
theorem Entity.foldlM_addWidget_congr {entity other grown : Entity} {widgets : List SearchWidget}
    (added : widgets.foldlM Entity.addWidget entity = .ok grown)
    (same : other.searchWidgets = entity.searchWidgets) :
    widgets.foldlM Entity.addWidget other =
      .ok { other with searchWidgets := other.searchWidgets ++ widgets } := by
  induction widgets generalizing entity other with
  | nil => simp [pure, Except.pure]
  | cons widget rest ih =>
      rw [List.foldlM_cons] at added
      cases first : entity.addWidget widget with
      | error fault =>
          rw [first] at added
          contradiction
      | ok next =>
          rw [first] at added
          obtain ⟨free, -⟩ := Entity.addWidget_eq_ok_iff.mp first
          have second := Entity.addWidget_eq_ok_iff.mpr ⟨same ▸ free, rfl⟩
          rw [List.foldlM_cons, second]
          refine (ih added ?_).trans (by simp)
          rw [addWidget_ok_eq first, same]

namespace Composer

variable {before after : Schema} {key : EntityKey} {done : Unit} {pending : Pending}
  {implied : List Pending}

/-- Changes of one entity that come to one change may be made one after another. -/
theorem forM_modifyEntity_of_foldlM {α : Type} {change : α → Entity → Except Fault Entity}
    {list : List α} {found changed : Entity} (known : before.entity? key = some found)
    (folded : list.foldlM (fun entity item => change item entity) found = .ok changed) :
    (list.forM fun item => modifyEntity key (change item)) before =
      .ok () (before.replace key changed) := by
  induction list generalizing before found with
  | nil =>
      cases folded
      rw [Schema.replace_self known]
      rfl
  | cons item rest ih =>
      rw [List.foldlM_cons] at folded
      cases first : change item found with
      | error fault =>
          rw [first] at folded
          contradiction
      | ok next =>
          rw [first] at folded
          have stored : modifyEntity key (change item) before =
              .ok () (before.replace key next) :=
            modifyEntity_eq_ok_iff.mpr ⟨found, next, known, first, rfl⟩
          simp only [List.forM]
          rw [bind_of_ok stored, ih (Schema.entity?_replace_self known next) folded,
            Schema.replace_replace]

/-- A property is stored exactly when its entity takes it. -/
theorem store_eq_ok_iff :
    store pending before = .ok implied after ↔
      implied = pending.implied ∧ ∃ found, before.entity? pending.target = some found ∧
        found.Takes before pending ∧
        after = before.replace pending.target (found.withProperty pending.bound) := by
  have unowned_iff : ownerFault? pending.target pending.property = none ↔
      pending.property.owner = none := by
    simp [ownerFault?]
  simp only [store, bind_eq_ok_iff, requireIdentifier_eq_ok_iff, check_eq_ok_iff,
    modifyEntity_eq_ok_iff, pure_eq_ok_iff, unowned_iff]
  constructor
  · rintro ⟨_, _, ⟨identifier, rfl⟩, _, _, ⟨rules, rfl⟩, _, _, ⟨bindings, rfl⟩, _, _,
      ⟨unowned, rfl⟩, _, _, ⟨found, stored, known, added, rfl⟩, _, _, shown, rfl, rfl⟩
    obtain ⟨fresh, columns, parentLinks, rfl⟩ := Entity.addProperty_eq_ok_iff.mp added
    obtain ⟨grown, folded, rfl⟩ :=
      forM_modifyEntity_eq_ok (Schema.entity?_replace_self known _) shown
    obtain rfl := Entity.foldlM_addWidget_ok_eq folded
    have widgets : (propertyWidgets pending.bound).foldlM Entity.addWidget found = .ok _ :=
      Entity.foldlM_addWidget_congr folded rfl
    exact ⟨rfl, found, known, ⟨identifier, rules, bindings, unowned, fresh, columns, parentLinks,
      widgets⟩, Schema.replace_replace _ _ _ _⟩
  · rintro ⟨rfl, found, known, takes, rfl⟩
    have added : found.addProperty pending.bound = .ok _ :=
      Entity.addProperty_eq_ok_iff.mpr ⟨takes.fresh, takes.columns, takes.parentLinks, rfl⟩
    have widgets : (propertyWidgets pending.bound).foldlM Entity.addWidget
        { found with properties := found.properties ++ [pending.bound] } = .ok _ :=
      Entity.foldlM_addWidget_congr takes.widgets rfl
    have shown := forM_modifyEntity_of_foldlM (Schema.entity?_replace_self known _) widgets
    rw [Schema.replace_replace] at shown
    exact ⟨(), _, ⟨takes.identifier, rfl⟩, (), _, ⟨takes.rules, rfl⟩, (), _, ⟨takes.bindings, rfl⟩,
      (), _, ⟨takes.unowned, rfl⟩, (), _, ⟨found, _, known, added, rfl⟩, (), _, shown, rfl, rfl⟩

/-! ## Processing one attachment -/

/-- The entity after an attachment was processed. A property goes to its target, and a companion
that is there already stays as it is. -/
def Pending.receivedBy (pending : Pending) (entity : Entity) : Entity :=
  if entity.key = pending.target ∧ entity.property? pending.property.name = none then
    entity.withProperty pending.bound
  else entity

/-- The target of a companion has it already. -/
def Pending.IsPresent (pending : Pending) (found : Entity) : Prop :=
  pending.isCompanion = true ∧
    ∃ existing, found.property? pending.property.name = some existing ∧
      existing.kind = pending.property.kind

/-- The attachment may be processed: its target takes the property, or has the companion already. -/
def Pending.Fits (pending : Pending) (schema : Schema) : Prop :=
  ∃ found, schema.entity? pending.target = some found ∧
    (pending.IsPresent found ∨ found.Takes schema pending)

/-- What is received at the target of an attachment, entity by entity. -/
theorem mapEntities_receivedBy (wellFormed : before.WellFormed) {found : Entity}
    (known : before.entity? pending.target = some found) :
    before.mapEntities pending.receivedBy =
      before.replace pending.target (pending.receivedBy found) := by
  rw [wellFormed.replace_eq_mapEntities known]
  refine Schema.mapEntities_congr fun entity mem => ?_
  by_cases keyed : entity.key = pending.target
  · obtain ⟨foundMem, foundKey⟩ := wellFormed.entity?_eq_some_iff.mp known
    obtain rfl := wellFormed.eq_of_key_eq mem foundMem (keyed.trans foundKey.symm)
    rw [if_pos keyed]
  · rw [if_neg keyed, Pending.receivedBy, if_neg fun both => keyed both.1]

theorem Pending.IsPresent.receivedBy_eq {found : Entity} (present : pending.IsPresent found) :
    pending.receivedBy found = found := by
  obtain ⟨-, existing, stored, -⟩ := present
  exact if_neg fun both => by simp [stored] at both

theorem receivedBy_of_takes (wellFormed : before.WellFormed) {found : Entity}
    (known : before.entity? pending.target = some found) (takes : found.Takes before pending) :
    pending.receivedBy found = found.withProperty pending.bound :=
  if_pos ⟨wellFormed.key_eq known, takes.fresh⟩

/-- A processed attachment fits, and every entity has received what was meant for it. -/
theorem process_eq_ok_iff (wellFormed : before.WellFormed) :
    process pending before = .ok implied after ↔
      (∃ found, before.entity? pending.target = some found ∧
        (pending.IsPresent found ∧ implied = [] ∨
          found.Takes before pending ∧ implied = pending.implied)) ∧
      after = before.mapEntities pending.receivedBy := by
  have storing : store pending before = .ok implied after ↔
      ∃ found, before.entity? pending.target = some found ∧ found.Takes before pending ∧
        implied = pending.implied ∧ after = before.mapEntities pending.receivedBy := by
    rw [store_eq_ok_iff]
    constructor
    · rintro ⟨rfl, found, known, takes, rfl⟩
      rw [mapEntities_receivedBy wellFormed known, receivedBy_of_takes wellFormed known takes]
      exact ⟨found, known, takes, rfl, rfl⟩
    · rintro ⟨found, known, takes, rfl, rfl⟩
      rw [mapEntities_receivedBy wellFormed known, receivedBy_of_takes wellFormed known takes]
      exact ⟨rfl, found, known, takes, rfl⟩
  cases known : before.entity? pending.target with
  | none => simp [process, bind_eq_ok_iff, requireTarget_eq_ok_iff, known]
  | some found =>
      rw [process, bind_of_ok (requireTarget_eq_ok_iff.mpr ⟨known, rfl⟩)]
      cases companion : pending.isCompanion with
      | false => simp [storing, known, Pending.IsPresent, companion, and_assoc]
      | true =>
          cases named : found.property? pending.property.name with
          | none => simp [storing, known, Pending.IsPresent, named, and_assoc]
          | some existing =>
              have untaken : ¬ found.Takes before pending := fun takes =>
                Option.some_ne_none existing (named.symm.trans takes.fresh)
              by_cases same : existing.kind = pending.property.kind
              · have present : pending.IsPresent found := ⟨companion, existing, named, same⟩
                rw [mapEntities_receivedBy wellFormed known, present.receivedBy_eq,
                  Schema.replace_self known]
                simp [same, pure_eq_ok_iff, present, untaken, eq_comm]
              · have absent : ¬ pending.IsPresent found := by
                  simp [Pending.IsPresent, named, same]
                simp [same, throw_ne_ok, absent, untaken]

end Composer

end EntitySurface
