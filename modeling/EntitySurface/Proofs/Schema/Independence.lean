import EntitySurface.Proofs.Schema.Likeness
import EntitySurface.Proofs.Schema.Reachable
import EntitySurface.Demo
import Mathlib.Data.List.Lattice

/-!
# Independent attachments

Attaching a property reads and changes its entity and the entities that must carry its companions;
of the rest of the schema it reads only which entities and categories there are. So two attachments
that have no such entity in common may be done in either order, whether they succeed or fail.
-/

namespace EntitySurface

/-- The entities that attaching a property to an entity touches. -/
def Property.touched (property : Property) (entity : EntityKey) : List EntityKey :=
  entity :: (property.kind.companions entity property.name).map Companion.target

namespace Schema

variable {schema before middle after left right : Schema} {keys others : List EntityKey}

/-- What is found after a replacement, by the positions of the keys. -/
theorem entity?_replace_eq_ite (schema : Schema) (key other : EntityKey) (changed : Entity) :
    (schema.replace key changed).entity? other =
      if schema.index.position? other = schema.index.position? key then
        (schema.entity? key).map fun _ => changed
      else schema.entity? other := by
  unfold replace entity?
  cases schema.index.position? key with
  | none => cases schema.index.position? other <;> simp
  | some position =>
      cases schema.index.position? other with
      | none => simp
      | some elsewhere =>
          by_cases same : elsewhere = position
          · subst same
            simp [List.getElem?_set_self', Function.const_def]
          · simp [same, List.getElem?_set_ne (Ne.symm same)]

/-! ## Locality -/

/-- The schemas have the same entities of the keys, and they agree in everything that is not an
entity. -/
structure AgreeOn (keys : List EntityKey) (left right : Schema) : Prop where
  phase : left.phase = right.phase
  catalog : left.catalog = right.catalog
  index : left.index = right.index
  entity {key : EntityKey} (among : key ∈ keys) : left.entity? key = right.entity? key

/-- Nothing is changed but the entities of the keys. -/
structure ChangedOn (keys : List EntityKey) (before after : Schema) : Prop where
  others : ∃ entities, after = { before with entities }
  entity {position : Nat} (apart : ∀ key ∈ keys, before.index.position? key ≠ some position) :
    after.entities[position]? = before.entities[position]?

theorem AgreeOn.refl (keys : List EntityKey) (schema : Schema) : AgreeOn keys schema schema :=
  ⟨rfl, rfl, rfl, fun _ => rfl⟩

namespace ChangedOn

theorem refl (keys : List EntityKey) (schema : Schema) : ChangedOn keys schema schema :=
  ⟨⟨schema.entities, rfl⟩, fun _ => rfl⟩

theorem index_eq (changed : ChangedOn keys before after) : after.index = before.index := by
  obtain ⟨⟨entities, rfl⟩, -⟩ := changed
  rfl

theorem trans (first : ChangedOn keys before middle) (second : ChangedOn others middle after) :
    ChangedOn (keys ++ others) before after := by
  obtain ⟨⟨entities, rfl⟩, firstKept⟩ := first
  obtain ⟨⟨changed, rfl⟩, secondKept⟩ := second
  refine ⟨⟨changed, rfl⟩, fun apart => ?_⟩
  rw [List.forall_mem_append] at apart
  exact (secondKept apart.2).trans (firstKept apart.1)

end ChangedOn

theorem AgreeOn.replace (agree : AgreeOn keys left right) {key : EntityKey} (among : key ∈ keys)
    (changed : Entity) : AgreeOn keys (left.replace key changed) (right.replace key changed) := by
  have entities {other : EntityKey} (otherAmong : other ∈ keys) :
      (left.replace key changed).entity? other = (right.replace key changed).entity? other := by
    rw [entity?_replace_eq_ite, entity?_replace_eq_ite, agree.index, agree.entity among,
      agree.entity otherAmong]
  obtain ⟨leftEntities, leftReplaced⟩ := replace_eq_with_entities left key changed
  obtain ⟨rightEntities, rightReplaced⟩ := replace_eq_with_entities right key changed
  rw [leftReplaced, rightReplaced] at entities ⊢
  exact ⟨agree.phase, agree.catalog, agree.index, entities⟩

theorem ChangedOn.replace (changed : ChangedOn keys before schema) {key : EntityKey}
    (among : key ∈ keys) (entity : Entity) : ChangedOn keys before (schema.replace key entity) := by
  obtain ⟨⟨entities, rfl⟩, kept⟩ := changed
  obtain ⟨replaced, rest⟩ := replace_eq_with_entities { before with entities } key entity
  refine ⟨⟨replaced, rest⟩, fun {position} apart => ?_⟩
  rw [← kept apart]
  unfold Schema.replace
  cases entered : before.index.position? key with
  | none => rfl
  | some place =>
      have elsewhere : place ≠ position := by
        rintro rfl
        exact apart key among entered
      exact List.getElem?_set_ne elsewhere

end Schema

open Schema Composer

/-- Agreement on some entities, with nothing changed elsewhere since the schemas `first` and
`second`, is a relation under which properties of these entities are attached alike. -/
theorem Composer.likeness_agreeOn (keys : List EntityKey) (first second : Schema) :
    Likeness (· ∈ keys) Eq fun left right =>
      AgreeOn keys left right ∧ ChangedOn keys first left ∧ ChangedOn keys second right where
  phase same := same.1.phase
  catalog same := same.1.catalog
  contains same key := by rw [contains, same.1.index, contains]
  entity same key among := by
    rw [same.1.entity among]
    cases Schema.entity? _ _ with
    | none => exact .none
    | some entity => exact .some rfl
  replace := by
    rintro left right ⟨agree, leftChanged, rightChanged⟩ key among entity _ rfl
    exact ⟨agree.replace among entity, leftChanged.replace among entity,
      rightChanged.replace among entity⟩
  property entities name := by rw [entities]
  addProperty := by
    rintro entity _ rfl property
    exact .refl _
  addWidget := by
    rintro entity _ rfl widget
    exact .refl _

/-- A command that reads and changes no entities but those of the keys. -/
def Command.LocalTo (keys : List EntityKey) (command : Command) : Prop :=
  ∀ left right, AgreeOn keys left right →
    (left.execute command).2 = (right.execute command).2 ∧
    AgreeOn keys (left.execute command).1 (right.execute command).1 ∧
    ChangedOn keys left (left.execute command).1

/-- Attaching a property is local to the entities that it touches. -/
theorem Command.localTo_property (entity : EntityKey) (property : Property)
    (visibility : Visibility) :
    (Command.property entity property visibility).LocalTo (property.touched entity) := by
  intro left right agree
  have outcome := (likeness_agreeOn (property.touched entity) left right).attach visibility
    List.mem_cons_self
    (fun companion mem => List.mem_cons_of_mem _ (List.mem_map_of_mem mem))
    left right ⟨agree, .refl _ _, .refl _ _⟩
  unfold execute
  simp only [step]
  generalize attach entity property visibility left = leftOutcome at outcome ⊢
  generalize attach entity property visibility right = rightOutcome at outcome ⊢
  cases outcome with
  | ok values rest => exact ⟨rfl, rest.1, rest.2.1⟩
  | error fault rest => exact ⟨rfl, rest.1, rest.2.1⟩

namespace Schema

variable {schema before after : Schema} {keys others : List EntityKey} {first second : Command}

/-! ## Commuting -/

namespace WellFormed

variable (wellFormed : schema.WellFormed)
include wellFormed

/-- In a well-formed schema, different keys lead to different positions. -/
theorem eq_of_position?_eq {key other : EntityKey} {position : Nat}
    (entered : schema.index.position? key = some position)
    (elsewhere : schema.index.position? other = some position) : key = other := by
  obtain ⟨entity, stored, keyed⟩ := (wellFormed.indexed key position).mp entered
  obtain ⟨found, same, named⟩ := (wellFormed.indexed other position).mp elsewhere
  rw [stored, Option.some.injEq] at same
  rw [← keyed, ← named, same]

/-- What is changed at some keys is not seen at others. -/
theorem agreeOn_of_changedOn (changed : ChangedOn others schema after)
    (apart : keys.Disjoint others) : AgreeOn keys schema after := by
  obtain ⟨⟨entities, rfl⟩, kept⟩ := changed
  refine ⟨rfl, rfl, rfl, fun {key} among => ?_⟩
  unfold entity?
  dsimp only
  cases entered : schema.index.position? key with
  | none => rfl
  | some position =>
      refine (kept fun other inOthers elsewhere => ?_).symm
      rw [wellFormed.eq_of_position?_eq entered elsewhere] at among
      exact apart among inOthers

variable (firstLocal : first.LocalTo keys) (secondLocal : second.LocalTo others)
include firstLocal secondLocal

/-- The second of two commands that are local to different entities comes to what it comes to
alone. -/
theorem execute_execute_snd (apart : keys.Disjoint others) :
    ((schema.execute first).1.execute second).2 = (schema.execute second).2 := by
  obtain ⟨-, -, changed⟩ := firstLocal schema schema (.refl _ _)
  exact (secondLocal _ _ (wellFormed.agreeOn_of_changedOn changed apart.symm)).1.symm

/-- An entity of the first command is in either order what the first command alone makes of it. -/
theorem entities_execute_execute (apart : keys.Disjoint others) {position : Nat}
    (owned : ∃ key ∈ keys, schema.index.position? key = some position) :
    ((schema.execute first).1.execute second).1.entities[position]? =
      ((schema.execute second).1.execute first).1.entities[position]? := by
  obtain ⟨key, among, entered⟩ := owned
  obtain ⟨-, -, firstChanged⟩ := firstLocal schema schema (.refl _ _)
  obtain ⟨-, -, secondChanged⟩ := secondLocal schema schema (.refl _ _)
  obtain ⟨-, -, thenSecond⟩ := secondLocal (schema.execute first).1 _ (.refl _ _)
  obtain ⟨-, agree, -⟩ := firstLocal _ _ (wellFormed.agreeOn_of_changedOn secondChanged apart)
  have kept : ((schema.execute first).1.execute second).1.entities[position]? =
      (schema.execute first).1.entities[position]? := by
    refine thenSecond.entity fun other inOthers elsewhere => ?_
    rw [firstChanged.index_eq] at elsewhere
    rw [wellFormed.eq_of_position?_eq entered elsewhere] at among
    exact apart among inOthers
  have found := agree.entity among
  unfold entity? at found
  rw [← agree.index, firstChanged.index_eq, entered] at found
  exact kept.trans found

/-- Commands that are local to different entities may be executed in either order. -/
theorem execute_comm (apart : keys.Disjoint others) :
    ((schema.execute first).1.execute second).1 =
      ((schema.execute second).1.execute first).1 := by
  obtain ⟨-, -, firstChanged⟩ := firstLocal schema schema (.refl _ _)
  obtain ⟨-, -, secondChanged⟩ := secondLocal schema schema (.refl _ _)
  obtain ⟨-, -, thenSecond⟩ := secondLocal (schema.execute first).1 _ (.refl _ _)
  obtain ⟨-, -, thenFirst⟩ := firstLocal (schema.execute second).1 _ (.refl _ _)
  have oneWay := firstChanged.trans thenSecond
  have otherWay := secondChanged.trans thenFirst
  have entities : ((schema.execute first).1.execute second).1.entities =
      ((schema.execute second).1.execute first).1.entities := by
    refine List.ext_getElem? fun position => ?_
    by_cases inFirst : ∃ key ∈ keys, schema.index.position? key = some position
    · exact wellFormed.entities_execute_execute firstLocal secondLocal apart inFirst
    by_cases inSecond : ∃ key ∈ others, schema.index.position? key = some position
    · exact (wellFormed.entities_execute_execute secondLocal firstLocal apart.symm inSecond).symm
    push Not at inFirst inSecond
    rw [oneWay.entity (List.forall_mem_append.mpr ⟨inFirst, inSecond⟩),
      otherWay.entity (List.forall_mem_append.mpr ⟨inSecond, inFirst⟩)]
  obtain ⟨first, oneOrder⟩ := oneWay.others
  obtain ⟨second, otherOrder⟩ := otherWay.others
  rw [oneOrder, otherOrder] at entities ⊢
  rw [show first = second from entities]

end WellFormed

/-- Two attachments that touch no common entity may be done in either order: each comes to what it
comes to alone, and the same schema is left. -/
theorem Reachable.attachments_commute (reached : schema.Reachable) (entity other : EntityKey)
    (property added : Property) (visibility shown : Visibility)
    (apart : (property.touched entity).Disjoint (added.touched other)) :
    let first := Command.property entity property visibility
    let second := Command.property other added shown
    ∃ final,
      schema.executeAll [first, second] =
        (final, [(schema.execute first).2, (schema.execute second).2]) ∧
      schema.executeAll [second, first] =
        (final, [(schema.execute second).2, (schema.execute first).2]) := by
  intro first second
  have firstLocal : first.LocalTo (property.touched entity) := Command.localTo_property _ _ _
  have secondLocal : second.LocalTo (added.touched other) := Command.localTo_property _ _ _
  have wellFormed := reached.wellFormed
  refine ⟨((schema.execute first).1.execute second).1, ?_, ?_⟩
  · simp only [Schema.executeAll, wellFormed.execute_execute_snd firstLocal secondLocal apart]
  · simp only [Schema.executeAll, wellFormed.execute_execute_snd secondLocal firstLocal apart.symm,
      wellFormed.execute_comm firstLocal secondLocal apart]

/-- Invoices are linked to customers, whatever comes of a photo that products have already. -/
theorem Reachable.attachments_commute_sales :
    let schema := (({ name := "sales" } : Schema).executeAll
      (Demo.Sales.customers ++ Demo.Sales.products ++ [.entity "sales" "Invoice" "Invoice"])).1
    let link : Property := { name := "CUSTOMER", kind := .linkedToParent Demo.Sales.customer }
    let photo : Property := { name := "PHOTO", kind := .imageContent }
    let first := Command.property Demo.Sales.invoice link .active
    let second := Command.property Demo.Sales.product photo .legacy
    let repeated := Fault.duplicateName (.properties Demo.Sales.product) "PHOTO"
    schema.phase = .composing ∧
      (link.touched Demo.Sales.invoice).Disjoint (photo.touched Demo.Sales.product) ∧
      ∃ final, schema.executeAll [first, second] = (final, [none, some repeated]) ∧
        schema.executeAll [second, first] = (final, [some repeated, none]) := by
  intro schema link photo first second repeated
  have reached : schema.Reachable := (Reachable.start "sales").executeAll _
  have composing : schema.phase = .composing := by decide +kernel
  have linked : (schema.execute first).2 = none := by decide +kernel
  have refused : (schema.execute second).2 = some repeated := by decide +kernel
  have apart : (link.touched Demo.Sales.invoice).Disjoint (photo.touched Demo.Sales.product) := by
    unfold List.Disjoint
    decide
  obtain ⟨final, oneOrder, otherOrder⟩ :=
    reached.attachments_commute _ _ link photo .active .legacy apart
  rw [linked, refused] at oneOrder otherOrder
  exact ⟨composing, apart, final, oneOrder, otherOrder⟩

end Schema

end EntitySurface
