import EntitySurface.Proofs.Schema.Reachable

/-!
# Who holds which properties

Links and their companions agree in names, kinds and visibility of properties and in the entities
that store them, and in nothing else. This module lists what a schema holds in this sense. Only the
attachment of a property adds to the list; every other command keeps it, whatever comes of it.
-/

namespace EntitySurface

/-- A stored property, as far as links and companions are concerned. -/
structure Holding where
  holder : EntityKey
  name : String
  kind : PropertyKind
  visibility : Visibility

/-- What an entity of the given key holds when it stores the property. -/
def Property.holding (holder : EntityKey) (property : Property) : Holding :=
  { holder, name := property.name, kind := property.kind, visibility := property.visibility }

namespace Entity

variable {entity : Entity}

/-- What an entity holds, in attachment order. -/
def holdings (entity : Entity) : List Holding :=
  entity.properties.map fun property => property.holding entity.key

/-- What an entity holds does not depend on rules, hooks or settings. -/
theorem holdings_withRule (entity : Entity) (name : String) (rule : BusinessRule) :
    (entity.withRule name rule).holdings = entity.holdings := by
  refine map_modifyProperty ?_ entity name
  exact fun _ => rfl

theorem holdings_withHook (entity : Entity) (hook : MethodHook) :
    (entity.withHook hook).holdings = entity.holdings := by
  refine map_modifyProperty ?_ entity hook.declaring
  exact fun _ => rfl

theorem holdings_finalize (entity : Entity) : entity.finalize.1.holdings = entity.holdings := by
  obtain ⟨finalized, same⟩ := entity.exists_finalize_eq
  rw [same]
  exact Property.map_eq_map_of_unresolved (fun _ => rfl) entity.map_unresolved_settling

theorem holdings_withProperty (entity : Entity) (property : Property) :
    (entity.withProperty property).holdings = entity.holdings ++ [property.holding entity.key] := by
  simp [holdings, withProperty]

end Entity

namespace Schema

variable {schema : Schema} {key : EntityKey} {found changed : Entity}

/-- What all entities of a schema hold. -/
def holdings (schema : Schema) : List Holding :=
  schema.entities.flatMap Entity.holdings

theorem mem_holdings_iff {holding : Holding} :
    holding ∈ schema.holdings ↔
      ∃ entity ∈ schema.entities, ∃ property ∈ entity.properties,
        property.holding entity.key = holding := by
  simp [holdings, Entity.holdings]

theorem holdings_congr {other : Schema}
    (same : schema.entities.map Entity.holdings = other.entities.map Entity.holdings) :
    schema.holdings = other.holdings := by
  simp only [holdings, List.flatMap_def, same]

/-- An entity that holds the same may take the place of another one. -/
theorem holdings_replace (known : schema.entity? key = some found)
    (same : changed.holdings = found.holdings) :
    (schema.replace key changed).holdings = schema.holdings := by
  obtain ⟨position, entered, stored⟩ := entity?_eq_some_iff_getElem?.mp known
  obtain ⟨inRange, rfl⟩ := List.getElem?_eq_some_iff.mp stored
  apply holdings_congr
  rw [replace_eq entered, List.map_set, same, ← List.getElem_map Entity.holdings,
    List.set_getElem_self]
  simpa using inRange

/-- An entity that holds one property more adds this one to what the schema holds. -/
theorem mem_holdings_replace_iff (known : schema.entity? key = some found) {added holding : Holding}
    (more : changed.holdings = found.holdings ++ [added]) :
    holding ∈ (schema.replace key changed).holdings ↔
      holding ∈ schema.holdings ∨ holding = added := by
  obtain ⟨position, entered, stored⟩ := entity?_eq_some_iff_getElem?.mp known
  obtain ⟨inRange, rfl⟩ := List.getElem?_eq_some_iff.mp stored
  obtain ⟨front, back, split, -, replaced⟩ : ∃ front back,
      schema.entities = front ++ schema.entities[position] :: back ∧ front.length = position ∧
        schema.entities.set position changed = front ++ changed :: back :=
    List.exists_of_set inRange
  rw [replace_eq entered]
  simp only [holdings]
  rw [replaced]
  conv_rhs => rw [split]
  simp only [List.flatMap_append, List.flatMap_cons, more, List.mem_append, List.mem_singleton]
  tauto

end Schema

namespace Composer

open Schema

variable {α β : Type}

/-- Whatever comes of the step, the schema holds what it held. -/
def KeepsHoldings (step : Composer α) : Prop :=
  ∀ before, ∃ after, after.holdings = before.holdings ∧
    ((∃ value, step before = .ok value after) ∨ ∃ fault, step before = .error fault after)

namespace KeepsHoldings

theorem bind {step : Composer α} {next : α → Composer β} (first : KeepsHoldings step)
    (rest : ∀ value, KeepsHoldings (next value)) : KeepsHoldings (step >>= next) := by
  intro before
  obtain ⟨middle, kept, ⟨value, succeeded⟩ | ⟨fault, failed⟩⟩ := first before
  · obtain ⟨after, keptToo, outcome⟩ := rest value middle
    rw [bind_of_ok succeeded]
    exact ⟨after, keptToo.trans kept, outcome⟩
  · rw [bind_of_error failed]
    exact ⟨middle, kept, Or.inr ⟨fault, rfl⟩⟩

theorem of_reads {step : Composer α} (reads : Reads step) : KeepsHoldings step :=
  fun before => ⟨before, rfl, reads before⟩

theorem modify {change : Schema → Schema}
    (kept : ∀ schema, (change schema).holdings = schema.holdings) :
    KeepsHoldings (modify change : Composer Unit) :=
  fun before => ⟨change before, kept before, Or.inl ⟨(), rfl⟩⟩

theorem onCatalog (change : EStateM Fault Catalog Unit) : KeepsHoldings (onCatalog change) := by
  intro before
  unfold Composer.onCatalog
  cases change before.catalog with
  | ok done catalog => exact ⟨{ before with catalog }, rfl, Or.inl ⟨(), rfl⟩⟩
  | error fault catalog => exact ⟨{ before with catalog }, rfl, Or.inr ⟨fault, rfl⟩⟩

theorem modifyEntity {key : EntityKey} {change : Entity → Except Fault Entity}
    (kept : ∀ found changed, change found = .ok changed → changed.holdings = found.holdings) :
    KeepsHoldings (modifyEntity key change) := by
  intro before
  cases outcome : Composer.modifyEntity key change before with
  | ok done after =>
      obtain ⟨found, changed, known, result, rfl⟩ := modifyEntity_eq_ok_iff.mp outcome
      exact ⟨_, holdings_replace known (kept found changed result), Or.inl ⟨(), rfl⟩⟩
  | error fault after =>
      have same := allOrNothing_modifyEntity key change fault after outcome
      exact ⟨after, congrArg holdings same, Or.inr ⟨fault, rfl⟩⟩

/-! ## Commands -/

theorem describeEntity (key : EntityKey) (text : String) :
    KeepsHoldings (describeEntity key text) := by
  apply (of_reads (Reads.check _)).bind
  intro _
  apply modifyEntity
  rintro found changed ⟨⟩
  rfl

theorem addWidget (key : EntityKey) (widget : SearchWidget) :
    KeepsHoldings (Composer.modifyEntity key fun found => found.addWidget widget) := by
  apply modifyEntity
  intro found changed added
  rw [Entity.addWidget_ok_eq added]
  rfl

theorem attachField (key : EntityKey) (field : Field) : KeepsHoldings (attachField key field) := by
  apply (of_reads (Reads.check _)).bind
  intro _
  apply (of_reads (Reads.check _)).bind
  intro _
  apply (of_reads (Reads.check _)).bind
  intro _
  apply bind
  · apply modifyEntity
    intro found changed added
    rw [← (Entity.addField_eq_ok_iff.mp added).2]
    rfl
  · intro _
    split
    · exact addWidget key (fieldWidget field)
    · exact of_reads (Reads.pure ())

theorem attachRule (key : EntityKey) (property : String) (rule : BusinessRule) :
    KeepsHoldings (attachRule key property rule) := by
  apply (of_reads (Reads.check _)).bind
  intro _
  apply (of_reads (Reads.requireEntity key)).bind
  intro found
  cases found.property? property with
  | none => exact of_reads (Reads.throw _)
  | some attached =>
      apply (of_reads (Reads.check _)).bind
      intro _
      apply modifyEntity
      intro found changed added
      rcases Entity.eq_or_eq_withRule added with rfl | rfl
      · rfl
      · exact found.holdings_withRule property rule

theorem declareHook (key : EntityKey) (declaring method origin : String) (phase : HookPhase) :
    KeepsHoldings (declareHook key declaring method origin phase) := by
  apply (of_reads (Reads.check _)).bind
  intro _
  apply modifyEntity
  intro found changed added
  rw [← (Entity.addHook_eq_ok_iff.mp added).2]
  exact found.holdings_withHook _

theorem declareWidget (key : EntityKey) (element : ElementRef) (isPrimary : Bool)
    (category : Option ChoiceKey) :
    KeepsHoldings (declareWidget key element isPrimary category) := by
  apply (of_reads (Reads.check _)).bind
  intro _
  apply (of_reads (Reads.requireEntity key)).bind
  intro found
  cases found.resolveElement? element with
  | none => exact of_reads (Reads.throw _)
  | some described =>
      apply (of_reads (Reads.check _)).bind
      intro _
      apply (of_reads (Reads.check _)).bind
      intro _
      exact addWidget key _

theorem addTab (key : EntityKey) (tab : DisplayTab) : KeepsHoldings (addTab key tab) := by
  apply (of_reads (Reads.check _)).bind
  intro _
  apply (of_reads (Reads.check _)).bind
  intro _
  apply modifyEntity
  intro found changed added
  rw [← (Entity.addTab_eq_ok_iff.mp added).2.2]
  rfl

theorem addAlias (key : EntityKey) (header : LoaderAlias) :
    KeepsHoldings (addAlias key header) := by
  apply (of_reads (Reads.check _)).bind
  intro _
  apply modifyEntity
  intro found changed added
  rw [← (Entity.addAlias_eq_ok_iff.mp added).2]
  rfl

theorem registerCategory (category : ChoiceCategory) : KeepsHoldings (registerCategory category) :=
  (of_reads (Reads.check _)).bind fun _ => onCatalog _

/-- A new entity holds nothing. -/
theorem newEntity (space name label : String) : KeepsHoldings (newEntity space name label) := by
  apply (of_reads (Reads.check _)).bind
  intro _
  apply (of_reads (Reads.check _)).bind
  intro _
  apply (of_reads (Reads.check _)).bind
  intro _
  apply (of_reads (Reads.check _)).bind
  intro _
  apply (onCatalog _).bind
  intro _
  apply bind
  · apply modify
    intro schema
    simp [holdings, Schema.declare, Entity.holdings]
  · exact fun _ => of_reads (Reads.pure _)

theorem finalizeEntities : KeepsHoldings finalizeEntities := by
  intro before
  have kept : { before with entities := (finalizeEach before.entities).1 }.holdings =
      before.holdings :=
    holdings_congr (map_finalizeEach Entity.holdings_finalize before.entities)
  unfold Composer.finalizeEntities
  rcases settled : finalizeEach before.entities with ⟨entities, _ | fault⟩
  · rw [settled] at kept
    exact ⟨_, kept, Or.inl ⟨(), rfl⟩⟩
  · rw [settled] at kept
    exact ⟨_, kept, Or.inr ⟨fault, rfl⟩⟩

theorem finish : KeepsHoldings finish := by
  apply (of_reads (Reads.check _)).bind
  intro _
  apply (of_reads (Reads.check _)).bind
  intro _
  apply finalizeEntities.bind
  intro _
  exact modify fun _ => rfl

end KeepsHoldings

end Composer

/-- Attaching properties is the only command that changes what a schema holds. -/
theorem Command.attaches_or_keepsHoldings (command : Command) :
    (∃ key property visibility, command = .property key property visibility) ∨
      Composer.KeepsHoldings command.step := by
  cases command with
  | property key property visibility => exact Or.inl ⟨key, property, visibility, rfl⟩
  | category added => exact Or.inr (.registerCategory added)
  | entity space name label =>
      refine Or.inr ((Composer.KeepsHoldings.newEntity space name label).bind fun _ => ?_)
      exact .of_reads (Composer.Reads.pure ())
  | describe key text => exact Or.inr (.describeEntity key text)
  | field key added => exact Or.inr (.attachField key added)
  | rule key name added => exact Or.inr (.attachRule key name added)
  | hook key declaring method origin phase =>
      exact Or.inr (.declareHook key declaring method origin phase)
  | widget key element isPrimary choice =>
      exact Or.inr (.declareWidget key element isPrimary choice)
  | tab key added => exact Or.inr (.addTab key added)
  | loaderAlias key added => exact Or.inr (.addAlias key added)
  | finish => exact Or.inr .finish

/-- What executing a command does to what a schema holds, when it does anything at all. -/
theorem Schema.execute_holdings {schema : Schema} (command : Command)
    (keeps : Composer.KeepsHoldings command.step) :
    (schema.execute command).1.holdings = schema.holdings := by
  obtain ⟨after, kept, ⟨value, succeeded⟩ | ⟨fault, failed⟩⟩ := keeps schema
  · simpa [execute, succeeded] using kept
  · simpa [execute, failed] using kept

end EntitySurface
