import EntitySurface.Proofs.Entity.Finalization
import EntitySurface.Proofs.Schema.Atomicity
import EntitySurface.Demo

/-!
# Invariants of composition runs

A command that is executed on a schema, with success or not, makes one of a few changes. What all of
these changes keep holds for every schema that a composition run leads to.
-/

namespace EntitySurface

open Composer

/-- The command declares an entity or adds to entities. -/
def Command.addsToEntities : Command → Bool
  | .category _ | .finish => false
  | _ => true

/-- The step that is named when a command is refused. -/
def Command.compositionStep : Command → CompositionStep
  | .category _ => .registerCategory
  | .entity _ _ _ => .newEntity
  | .describe _ _ => .describeEntity
  | .field _ _ => .attachField
  | .property _ _ _ => .attachProperty
  | .rule _ _ _ => .attachRule
  | .hook _ _ _ _ _ => .declareHook
  | .widget _ _ _ _ => .declareWidget
  | .tab _ _ => .addTab
  | .loaderAlias _ _ => .addAlias
  | .finish => .finish

namespace Schema

/-! ## Executing one command -/

/-- What a command that adds to entities and succeeds does to a schema. -/
inductive Extension (schema : Schema) : Schema → Prop where
  | grown {after : Schema} (growth : Growth schema after) : Extension schema after
  | declared {space name : String} (namespaced : Name.namespaceProblem? space = none)
      (identifier : Name.identifierProblem? name = none)
      (fresh : schema.contains ⟨space, name⟩ = false) (label : String) :
      Extension schema (declare { schema with catalog := schema.catalog.withNamespace space }
        ⟨space, name⟩ label)

/-- What executing a command does to a schema. -/
inductive Change (schema : Schema) : Schema → Prop where
  | nothing : Change schema schema
  | grown {after : Schema} (composing : schema.phase = .composing) (growth : Growth schema after) :
      Change schema after
  | declared {space name : String} (composing : schema.phase = .composing)
      (namespaced : Name.namespaceProblem? space = none)
      (identifier : Name.identifierProblem? name = none)
      (fresh : schema.contains ⟨space, name⟩ = false) (label : String) :
      Change schema (declare { schema with catalog := schema.catalog.withNamespace space }
        ⟨space, name⟩ label)
  /-- A category that is refused may leave its namespace behind. -/
  | namespaced {space : String} (composing : schema.phase = .composing)
      (namespaced : Name.namespaceProblem? space = none) :
      Change schema { schema with catalog := schema.catalog.withNamespace space }
  | categorized {category : ChoiceCategory} (composing : schema.phase = .composing)
      (namespaced : Name.namespaceProblem? category.key.space = none)
      (identifier : Name.identifierProblem? category.key.name = none)
      (sound : (schema.catalog.withNamespace category.key.space).categoryFault? category = none) :
      Change schema { schema with
        catalog := (schema.catalog.withNamespace category.key.space).add category }
  /-- Finishing failed at an entity, and the entities before it are finalized. -/
  | interrupted {fault : Fault} (composing : schema.phase = .composing)
      (bound : unresolvedBinding? schema = none)
      (failed : (finalizeEach schema.entities).2 = some fault) :
      Change schema { schema with entities := (finalizeEach schema.entities).1 }
  | finished (composing : schema.phase = .composing) (bound : unresolvedBinding? schema = none)
      (succeeded : (finalizeEach schema.entities).2 = none) :
      Change schema { schema with
        entities := (finalizeEach schema.entities).1, phase := .finalized }

theorem Extension.change {schema after : Schema} (extension : schema.Extension after)
    (composing : schema.phase = .composing) : schema.Change after := by
  cases extension with
  | grown growth => exact .grown composing growth
  | declared namespaced identifier fresh label =>
      exact .declared composing namespaced identifier fresh label

end Schema

namespace Composer

variable {before after : Schema} {done : Unit}

theorem newEntity_eq_ok {space name label : String} {key : EntityKey}
    (succeeded : newEntity space name label before = .ok key after) :
    before.Extension after ∧ key = ⟨space, name⟩ := by
  simp only [newEntity, bind_eq_ok_iff, ensureComposing_eq_ok_iff, requireNamespace_eq_ok_iff,
    requireIdentifier_eq_ok_iff, check_eq_ok_iff, modify_eq_ok_iff, pure_eq_ok_iff] at succeeded
  obtain ⟨_, _, ⟨-, rfl⟩, _, _, ⟨namespaced, rfl⟩, _, _, ⟨identifier, rfl⟩, _, _,
    ⟨free, rfl⟩, _, _, registered, _, _, rfl, rfl, rfl⟩ := succeeded
  have fresh : before.contains ⟨space, name⟩ = false := by
    cases known : before.contains ⟨space, name⟩ with
    | false => rfl
    | true => simp [known] at free
  simp only [onCatalog, registerNamespace_eq_ok namespaced, EStateM.Result.ok.injEq] at registered
  obtain ⟨-, rfl⟩ := registered
  exact ⟨.declared namespaced identifier fresh label, rfl⟩

/-- A category is refused before or after its namespace is registered, or it is added. -/
theorem registerCategory_outcome (category : ChoiceCategory) (catalog : Catalog) :
    Catalog.registerCategory category catalog =
      match Name.identifierProblem? category.key.name, Name.namespaceProblem? category.key.space,
          (catalog.withNamespace category.key.space).categoryFault? category with
      | some problem, _, _ => .error (.invalidName category.key.name problem) catalog
      | none, some problem, _ => .error (.invalidName category.key.space problem) catalog
      | none, none, some fault => .error fault (catalog.withNamespace category.key.space)
      | none, none, none => .ok () ((catalog.withNamespace category.key.space).add category) := by
  unfold Catalog.registerCategory
  cases Name.identifierProblem? category.key.name with
  | some problem => rfl
  | none =>
      show EStateM.bind _ _ _ = _
      unfold EStateM.bind Catalog.registerNamespace
      cases Name.namespaceProblem? category.key.space with
      | some problem => rfl
      | none =>
          dsimp only
          cases (catalog.withNamespace category.key.space).categoryFault? category <;> rfl

theorem registerCategory_change (category : ChoiceCategory) :
    before.Change (before.execute (.category category)).1 := by
  unfold Schema.execute
  simp only [Command.step, registerCategory]
  cases phase : before.phase with
  | finalized =>
      rw [bind_of_error (ensureComposing_of_finalized _ phase)]
      exact .nothing
  | composing =>
      rw [bind_of_ok (ensureComposing_of_composing _ phase), onCatalog,
        registerCategory_outcome]
      cases identifier : Name.identifierProblem? category.key.name with
      | some problem => exact .nothing
      | none =>
          cases namespaced : Name.namespaceProblem? category.key.space with
          | some problem => exact .nothing
          | none =>
              cases sound : (before.catalog.withNamespace category.key.space).categoryFault?
                  category with
              | some fault => exact .namespaced phase namespaced
              | none => exact .categorized phase namespaced identifier sound

/-- Finishing checks the deferred bindings and then finalizes the entities. -/
theorem finish_eq (composing : before.phase = .composing) :
    finish before =
      match unresolvedBinding? before, finalizeEach before.entities with
      | some fault, _ => .error fault before
      | none, (entities, some fault) => .error fault { before with entities }
      | none, (entities, none) => .ok () { before with entities, phase := .finalized } := by
  rw [finish, bind_of_ok (ensureComposing_of_composing _ composing)]
  cases unbound : unresolvedBinding? before with
  | some fault => rw [bind_of_error (check_of_fault unbound)]
  | none =>
      rw [bind_of_ok (check_of_none unbound)]
      rcases settled : finalizeEach before.entities with ⟨entities, _ | fault⟩
      · have succeeded : finalizeEntities before = .ok () { before with entities } := by
          simp only [finalizeEntities, settled]
        rw [bind_of_ok succeeded]
        rfl
      · have failed : finalizeEntities before = .error fault { before with entities } := by
          simp only [finalizeEntities, settled]
        rw [bind_of_error failed]

theorem finish_change : before.Change (before.execute .finish).1 := by
  unfold Schema.execute
  simp only [Command.step]
  cases phase : before.phase with
  | finalized =>
      rw [finish, bind_of_error (ensureComposing_of_finalized _ phase)]
      exact .nothing
  | composing =>
      rw [finish_eq phase]
      cases unbound : unresolvedBinding? before with
      | some fault => exact .nothing
      | none =>
          rcases settled : finalizeEach before.entities with ⟨entities, _ | fault⟩
          · have succeeded := Schema.Change.finished phase unbound (by rw [settled])
            rwa [settled] at succeeded
          · have stopped : (finalizeEach before.entities).2 = some fault := by rw [settled]
            have failed := Schema.Change.interrupted phase unbound stopped
            rwa [settled] at failed

end Composer

namespace Command

variable {schema after : Schema} {command : Command}

/-- Once the schema is finalized, every command is refused. -/
theorem step_of_finalized (command : Command) (frozen : schema.phase = .finalized) :
    command.step schema = .error (.schemaFrozen command.compositionStep) schema := by
  have refused := fun name => ensureComposing_of_finalized name frozen
  cases command with
  | entity space name label => exact bind_of_error (bind_of_error (refused .newEntity))
  | _ => exact bind_of_error (refused _)

/-- A command that adds to entities changes all or nothing. -/
theorem allOrNothing (wellFormed : schema.WellFormed) (adds : command.addsToEntities = true) :
    AllOrNothing command.step schema := by
  cases command with
  | category | finish => contradiction
  | entity space name label =>
      exact (allOrNothing_newEntity space name label).bind fun _ _ _ => ⟨(), _, rfl⟩
  | describe key text => exact allOrNothing_describeEntity key text
  | field key added => exact allOrNothing_attachField key wellFormed added
  | property key added visibility => exact allOrNothing_attach key added visibility
  | rule key name added => exact allOrNothing_attachRule key name added
  | hook key declaring method origin phase =>
      exact allOrNothing_declareHook key declaring method origin phase
  | widget key element isPrimary choice =>
      exact allOrNothing_declareWidget key element isPrimary choice
  | tab key added => exact allOrNothing_addTab key added
  | loaderAlias key added => exact allOrNothing_addAlias key added

/-- A command that adds to entities and succeeds grows the schema or declares an entity. -/
theorem extension_of_ok {done : Unit} (wellFormed : schema.WellFormed)
    (adds : command.addsToEntities = true) (succeeded : command.step schema = .ok done after) :
    schema.Extension after := by
  cases command with
  | category | finish => contradiction
  | entity space name label =>
      simp only [step, bind_eq_ok_iff, pure_eq_ok_iff] at succeeded
      obtain ⟨key, _, declared, -, rfl⟩ := succeeded
      exact (newEntity_eq_ok declared).1
  | describe key text => exact .grown (describeEntity_growth succeeded)
  | field key added => exact .grown (attachField_growth succeeded)
  | property key added visibility => exact .grown (attach_growth wellFormed succeeded)
  | rule key name added => exact .grown (attachRule_growth wellFormed succeeded)
  | hook key declaring method origin phase => exact .grown (declareHook_growth succeeded)
  | widget key element isPrimary choice => exact .grown (declareWidget_growth succeeded)
  | tab key added => exact .grown (addTab_growth succeeded)
  | loaderAlias key added => exact .grown (addAlias_growth succeeded)

/-- Only a schema that is still being composed can be changed. -/
theorem change_of_ok {done : Unit} (wellFormed : schema.WellFormed)
    (adds : command.addsToEntities = true) (succeeded : command.step schema = .ok done after) :
    schema.Change after := by
  apply (command.extension_of_ok wellFormed adds succeeded).change
  cases phase : schema.phase with
  | composing => rfl
  | finalized =>
      rw [command.step_of_finalized phase] at succeeded
      contradiction

end Command

namespace Schema

variable {schema after : Schema}

/-- Executing a command, whether it succeeds or fails, makes one change. -/
theorem execute_change (wellFormed : schema.WellFormed) (command : Command) :
    schema.Change (schema.execute command).1 := by
  cases adds : command.addsToEntities with
  | false =>
      cases command with
      | category category => exact registerCategory_change category
      | finish => exact finish_change
      | _ => contradiction
  | true =>
      unfold execute
      cases outcome : command.step schema with
      | ok done changed => exact command.change_of_ok wellFormed adds outcome
      | error fault changed =>
          rw [command.allOrNothing wellFormed adds fault changed outcome]
          exact .nothing

/-! ## What all changes keep -/

/-- Finalizing reaches every entity up to the one at which it fails. -/
theorem finalizeEach_cons (entity : Entity) (rest : List Entity) :
    finalizeEach (entity :: rest) =
      match entity.finalize with
      | (changed, some fault) => (changed :: rest, some fault)
      | (changed, none) => (changed :: (finalizeEach rest).1, (finalizeEach rest).2) :=
  rfl

/-- What finalization keeps of an entity stays the same all along the list. -/
theorem map_finalizeEach {α : Type} {read : Entity → α}
    (kept : ∀ entity : Entity, read entity.finalize.1 = read entity) (entities : List Entity) :
    (finalizeEach entities).1.map read = entities.map read := by
  induction entities with
  | nil => rfl
  | cons entity rest ih =>
      have same := kept entity
      rw [finalizeEach_cons]
      rcases outcome : entity.finalize with ⟨changed, _ | fault⟩
      · simpa [outcome, ih] using same
      · simpa [outcome] using same

theorem map_key_finalizeEach (entities : List Entity) :
    (finalizeEach entities).1.map Entity.key = entities.map Entity.key :=
  map_finalizeEach Entity.finalize_key entities

/-- Every entity is afterwards as it was or finalized. -/
theorem mem_finalizeEach {entities : List Entity} {entity : Entity}
    (mem : entity ∈ (finalizeEach entities).1) :
    entity ∈ entities ∨ ∃ before ∈ entities, entity = before.finalize.1 := by
  induction entities with
  | nil => contradiction
  | cons first rest ih =>
      rw [finalizeEach_cons] at mem
      rcases outcome : first.finalize with ⟨changed, _ | fault⟩
      · rw [outcome] at mem
        rcases List.mem_cons.mp mem with rfl | inRest
        · exact Or.inr ⟨first, List.mem_cons_self, by rw [outcome]⟩
        · rcases ih inRest with old | ⟨before, old, settled⟩
          · exact Or.inl (List.mem_cons_of_mem _ old)
          · exact Or.inr ⟨before, List.mem_cons_of_mem _ old, settled⟩
      · rw [outcome] at mem
        rcases List.mem_cons.mp mem with rfl | inRest
        · exact Or.inr ⟨first, List.mem_cons_self, by rw [outcome]⟩
        · exact Or.inl (List.mem_cons_of_mem _ inRest)

/-- Every change keeps the schema well-formed. -/
theorem Change.wellFormed (change : schema.Change after) (sound : schema.WellFormed) :
    after.WellFormed := by
  have settled : ∀ phase, { schema with
      entities := (finalizeEach schema.entities).1, phase }.WellFormed := by
    intro phase
    apply sound.of_keys (map_key_finalizeEach schema.entities)
    intro entity mem
    rcases mem_finalizeEach mem with old | ⟨before, old, rfl⟩
    · exact sound.entities entity old
    · exact (sound.entities before old).finalize
  cases change with
  | nothing => exact sound
  | grown composing growth => exact growth.wellFormed sound
  | declared composing namespaced identifier fresh label =>
      exact (sound.withCatalog (schema.catalog.withNamespace _)).declare fresh label
  | namespaced => exact sound.withCatalog _
  | categorized => exact sound.withCatalog _
  | interrupted => exact settled schema.phase
  | finished => exact settled .finalized

namespace Reachable

/-- Every composition run leads to a well-formed schema. -/
theorem wellFormed (reached : schema.Reachable) : schema.WellFormed := by
  induction reached with
  | start name => exact wellFormed_start name
  | step command reached ih => exact (execute_change ih command).wellFormed ih

/-- A run from a reachable schema leads to a reachable schema. -/
theorem executeAll (reached : schema.Reachable) (commands : List Command) :
    (schema.executeAll commands).1.Reachable := by
  induction commands generalizing schema with
  | nil => exact reached
  | cons command rest ih => exact ih (reached.step command)

/-- In every schema that a composition run leads to, the index holds the positions of exactly the
stored keys, and in every entity the names are unique, the columns differ in more than case, the
properties are owned by the entity, and widgets and tabs refer to what is there. -/
theorem representation (reached : schema.Reachable) :
    (∀ key position, schema.index.position? key = some position ↔
      ∃ entity, schema.entities[position]? = some entity ∧ entity.key = key) ∧
    ∀ entity ∈ schema.entities,
      (entity.properties.map Property.name).Nodup ∧
      (entity.columns.Pairwise fun first second =>
        Text.equalIgnoringAsciiCase first second = false) ∧
      (∀ property ∈ entity.properties, property.owner = some entity.key) ∧
      (∀ widget ∈ entity.searchWidgets, (entity.resolveElement? widget.element).isSome ∧
        widget.element.column ∈ entity.columns) ∧
      (entity.searchWidgets.map SearchWidget.argumentName).Nodup ∧
      (entity.extraTabs.map DisplayTab.name).Nodup ∧
      (∀ tab ∈ entity.extraTabs, ∃ property ∈ entity.properties,
        property.name = tab.showsProperty) ∧
      (entity.loaderAliases.map LoaderAlias.header).Nodup := by
  constructor
  · exact reached.wellFormed.indexed
  · intro entity mem
    have sound := reached.wellFormed.entities entity mem
    exact ⟨sound.propertyNames, sound.columns, sound.owned, sound.widgetElements,
      sound.widgetArguments, sound.tabNames, sound.tabProperties, sound.aliasHeaders⟩

/-- The customers of the sales demonstration. -/
theorem representation_customers :
    let schema := (({ name := "sales" } : Schema).executeAll Demo.Sales.customers).1
    schema.index.position? Demo.Sales.customer = some 0 ∧
      schema.entities.map Entity.columns =
        [["EMAIL", "ID", "OBJECTNAME", "NR", "UPDATEUSERID", "UPDATETIME"]] ∧
      ∀ entity ∈ schema.entities, entity.columns.Pairwise fun first second =>
        Text.equalIgnoringAsciiCase first second = false := by
  refine ⟨by decide +kernel, by decide +kernel, fun entity mem => ?_⟩
  exact (((Reachable.start "sales").executeAll _).representation.2 entity mem).2.1

/-- On a schema that a composition run leads to, a command that adds to entities and fails leaves
everything as it was, also when a cascade fails on its way. -/
theorem execute_eq_self_of_fault (reached : schema.Reachable) {command : Command}
    (adds : command.addsToEntities = true) {fault : Fault}
    (failed : (schema.execute command).2 = some fault) : (schema.execute command).1 = schema := by
  unfold execute at failed ⊢
  cases outcome : command.step schema with
  | ok done changed => simp [outcome] at failed
  | error cause changed => exact command.allOrNothing reached.wellFormed adds cause changed outcome

/-- Customers, and a taken name under which they would have to know their invoices. -/
def takenCompanion : List Command :=
  Demo.Sales.customers ++
    [.entity "sales" "Invoice" "Invoice",
     Demo.attach Demo.Sales.customer { name := "CHILDREN_INVOICE_PARENT", kind := .fileContent }]

/-- The parent link of invoices is stored and taken back when its companion is refused. -/
theorem execute_eq_self_of_takenCompanion :
    let schema := (({ name := "sales" } : Schema).executeAll takenCompanion).1
    let link := Demo.attach Demo.Sales.invoice (.ofKind (.linkedToParent Demo.Sales.customer))
    (schema.execute link).2 =
        some (.duplicateName (.properties Demo.Sales.customer) "CHILDREN_INVOICE_PARENT") ∧
      (schema.execute link).1 = schema :=
  have failed : ((({ name := "sales" } : Schema).executeAll takenCompanion).1.execute
      (Demo.attach Demo.Sales.invoice (.ofKind (.linkedToParent Demo.Sales.customer)))).2 =
        some (.duplicateName (.properties Demo.Sales.customer) "CHILDREN_INVOICE_PARENT") := by
    decide +kernel
  ⟨failed, ((Reachable.start "sales").executeAll _).execute_eq_self_of_fault rfl failed⟩

end Reachable

end Schema

end EntitySurface
