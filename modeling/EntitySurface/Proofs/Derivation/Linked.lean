import EntitySurface.Derivation.Rule

/-!
# Operations with their pages

Rules contribute operations, some of them right after the page that shows them. Every operation
belongs to the entity that it is derived for, joins an action group, and checks access on an input
that stands for objects, if it checks access at all. Only the rule of showing adds anything else.
-/

namespace EntitySurface

/-- The argument stands for one object or for several. -/
def Argument.StandsForObjects (argument : Argument) : Prop :=
  ∃ key, argument.kind = .object key ∨ argument.kind = .objects key

/-- An operation as it is derived for an entity. -/
structure Operation.BelongsTo (operation : Operation) (key : EntityKey) : Prop where
  entity : operation.entity = key
  id : operation.id = identity key operation.name
  grouped : operation.groups ≠ []
  criterion : ∀ position, operation.criterion = some position →
    ∃ input, operation.inputs[position.toNat]? = some input ∧ input.StandsForObjects

/-- Operations of an entity; a page comes right before the operation that it shows. -/
inductive Linked (entity : EntityKey) : List Contribution → Prop where
  | nil : Linked entity []
  | operation {operation : Operation} {rest : List Contribution}
      (belongs : operation.BelongsTo entity) (linked : Linked entity rest) :
      Linked entity (.operation operation :: rest)
  | page {page : Page} {operation : Operation} {rest : List Contribution}
      (shows : page.linkedOperation = operation.name) (named : page.name = operation.name ++ "Page")
      (belongs : operation.BelongsTo entity) (linked : Linked entity rest) :
      Linked entity (.page page :: .operation operation :: rest)

namespace Linked

variable {entity : EntityKey} {contributions first second : List Contribution}

theorem append (left : Linked entity first) (right : Linked entity second) :
    Linked entity (first ++ second) := by
  induction left with
  | nil => exact right
  | operation belongs _ ih => exact .operation belongs ih
  | page shows named belongs _ ih => exact .page shows named belongs ih

theorem flatMap {α : Type} {list : List α} {derive : α → List Contribution}
    (linked : ∀ item ∈ list, Linked entity (derive item)) :
    Linked entity (list.flatMap derive) := by
  induction list with
  | nil => exact .nil
  | cons item rest ih =>
      obtain ⟨here, later⟩ := List.forall_mem_cons.mp linked
      exact here.append (ih later)

theorem map {α : Type} {list : List α} {derive : α → Operation}
    (belongs : ∀ item ∈ list, (derive item).BelongsTo entity) :
    Linked entity (list.map fun item => .operation (derive item)) := by
  rw [List.map_eq_flatMap]
  exact flatMap fun item mem => .operation (belongs item mem) .nil

/-- An operation with a page that shows it. -/
theorem withPage {operation : Operation} {page : Page}
    (shows : page.linkedOperation = operation.name) (named : page.name = operation.name ++ "Page")
    (belongs : operation.BelongsTo entity) : Linked entity (Derivation.withPage operation page) :=
  .page shows named belongs .nil

/-- Everything among linked contributions is an operation of the entity or a page of one. -/
theorem forall_mem (linked : Linked entity contributions) :
    ∀ contribution ∈ contributions,
      (∃ operation, contribution = .operation operation ∧ operation.BelongsTo entity) ∨
      ∃ page operation, contribution = .page page ∧ .operation operation ∈ contributions ∧
        page.linkedOperation = operation.name ∧ page.name = operation.name ++ "Page" := by
  induction linked with
  | nil => nofun
  | operation belongs _ ih =>
      refine List.forall_mem_cons.mpr ⟨Or.inl ⟨_, rfl, belongs⟩, fun contribution mem => ?_⟩
      refine (ih contribution mem).imp_right ?_
      rintro ⟨page, shown, rfl, among, linked⟩
      exact ⟨page, shown, rfl, List.mem_cons_of_mem _ among, linked⟩
  | page shows named belongs _ ih =>
      refine List.forall_mem_cons.mpr
        ⟨Or.inr ⟨_, _, rfl, List.mem_cons_of_mem _ List.mem_cons_self, shows, named⟩, ?_⟩
      refine List.forall_mem_cons.mpr ⟨Or.inl ⟨_, rfl, belongs⟩, fun contribution mem => ?_⟩
      refine (ih contribution mem).imp_right ?_
      rintro ⟨page, shown, rfl, among, linked⟩
      exact ⟨page, shown, rfl, List.mem_cons_of_mem _ (List.mem_cons_of_mem _ among), linked⟩

theorem menuEntry_not_mem (linked : Linked entity contributions) (entry : MenuEntry) :
    .menuEntry entry ∉ contributions := by
  intro mem
  rcases linked.forall_mem _ mem with ⟨_, same, -⟩ | ⟨_, _, same, -⟩ <;> contradiction

theorem searchPlan_not_mem (linked : Linked entity contributions) (plan : SearchPlan) :
    .searchPlan plan ∉ contributions := by
  intro mem
  rcases linked.forall_mem _ mem with ⟨_, same, -⟩ | ⟨_, _, same, -⟩ <;> contradiction

end Linked

/-! ## The operations of an entity -/

namespace Entity

variable (entity : Entity)

theorem standsForObjects_objectArgument : entity.objectArgument.StandsForObjects :=
  ⟨entity.key, Or.inl rfl⟩

theorem standsForObjects_objectsArgument : entity.objectsArgument.StandsForObjects :=
  ⟨entity.key, Or.inr rfl⟩

variable {entity} {name : String} {inputs outputs : List Argument} {groups : List GroupKind}

/-- An operation that checks no access. -/
theorem operation_belongsTo (grouped : groups ≠ []) :
    (entity.operation name inputs outputs groups).BelongsTo entity.key where
  entity := rfl
  id := rfl
  grouped := grouped
  criterion := nofun

/-- An operation that checks access on its first input. -/
theorem guardedOperation_belongsTo {input : Argument} (objects : input.StandsForObjects)
    (grouped : groups ≠ []) :
    (entity.guardedOperation name (input :: inputs) outputs groups).BelongsTo entity.key where
  entity := rfl
  id := rfl
  grouped := grouped
  criterion position same := by
    obtain rfl : 0 = position := Option.some.inj same
    exact ⟨input, rfl, objects⟩

/-- An operation on one object. -/
theorem objectOperation_belongsTo (grouped : groups ≠ []) :
    (entity.guardedOperation name (entity.objectArgument :: inputs) outputs groups).BelongsTo
      entity.key :=
  guardedOperation_belongsTo entity.standsForObjects_objectArgument grouped

end Entity

/-! ## Rule by rule -/

namespace Derivation

open Entity

variable {entity : Entity} {contributed : List Contribution}

theorem linked_creation : Linked entity.key (creation entity) :=
  .operation (operation_belongsTo nofun) (.withPage rfl rfl (objectOperation_belongsTo nofun))

/-- Showing contributes its operations with their pages, then the search plan, then a menu entry for
the page of the search. -/
theorem exists_showing_eq (entity : Entity) : ∃ shown, Linked entity.key shown ∧
    showing entity = shown ++ [.searchPlan (.forEntity entity)] ++
      if entity.isSubObject then []
      else [.menuEntry { entity := entity.key, page := "Search" ++ entity.pascalName ++ "Page"
                         label := entity.label }] := by
  refine ⟨_, ?_, rfl⟩
  have belongs {name : String} {outputs : List Argument} {groups : List GroupKind} :
      groups ≠ [] → (entity.guardedOperation name [entity.objectArgument] outputs groups).BelongsTo
        entity.key := objectOperation_belongsTo
  refine .append (.append (.append (.append (.withPage rfl rfl (belongs nofun))
    (.operation (belongs nofun) .nil)) (.withPage rfl rfl (belongs nofun))) ?_)
    (.withPage rfl rfl (operation_belongsTo nofun))
  exact .operation (guardedOperation_belongsTo entity.standsForObjects_objectsArgument nofun)
    (.operation (operation_belongsTo nofun) (.operation (operation_belongsTo nofun) .nil))

theorem linked_history : Linked entity.key (history entity) := by
  unfold history
  refine .append (.withPage rfl rfl (objectOperation_belongsTo nofun)) ?_
  split
  · exact .operation (objectOperation_belongsTo nofun)
      (.operation (objectOperation_belongsTo nofun) .nil)
  · exact .nil

theorem linked_deletion (outcome : deletion entity = .ok contributed) :
    Linked entity.key contributed := by
  have belongs {start : String} {outputs : List Argument} :
      (entity.guardedOperation (start ++ entity.pascalName) [entity.objectArgument] outputs
        [.full]).BelongsTo entity.key := objectOperation_belongsTo nofun
  unfold deletion at outcome
  repeat' split at outcome
  all_goals first | contradiction | cases outcome
  all_goals first
    | exact .nil
    | exact .operation belongs .nil
    | exact .operation belongs (.operation belongs .nil)

theorem linked_stateChange : Linked entity.key (stateChange entity) := by
  unfold stateChange
  split
  · exact .operation (objectOperation_belongsTo nofun) .nil
  · exact .nil

theorem linked_rescheduling : Linked entity.key (rescheduling entity) :=
  .operation (objectOperation_belongsTo nofun) .nil

theorem linked_planning : Linked entity.key (planning entity) :=
  .operation (objectOperation_belongsTo nofun) <|
    .operation (objectOperation_belongsTo nofun) <|
      .operation (guardedOperation_belongsTo ⟨entity.key, Or.inl rfl⟩ nofun) .nil

theorem linked_targetDate (outcome : targetDate entity = .ok contributed) :
    Linked entity.key contributed := by
  unfold targetDate at outcome
  split at outcome
  · cases outcome
    exact .operation (objectOperation_belongsTo nofun) .nil
  · contradiction

theorem linked_renumbering : Linked entity.key (renumbering entity) := by
  unfold renumbering
  split
  · exact .operation (objectOperation_belongsTo nofun) .nil
  · exact .nil

theorem linked_tasks : Linked entity.key (tasks entity) :=
  .page rfl rfl (operation_belongsTo nofun) (.operation (objectOperation_belongsTo nofun) .nil)

theorem linked_parentChange (link : Property) : Linked entity.key (parentChange entity link) := by
  unfold parentChange
  split
  · exact .operation (objectOperation_belongsTo nofun)
      (.operation (guardedOperation_belongsTo entity.standsForObjects_objectsArgument nofun) .nil)
  · exact .nil

theorem linked_parentChanges (outcome : parentChanges entity = .ok contributed) :
    Linked entity.key contributed := by
  unfold parentChanges at outcome
  split at outcome
  · contradiction
  · cases outcome
    exact .flatMap fun link _ => linked_parentChange link

theorem linked_constraintLookups (left right : EntityKey) (rule : BusinessRule) :
    Linked entity.key (constraintLookups entity left right rule) := by
  have belongsLeft {name : String} {outputs : List Argument} {groups : List GroupKind} :
      groups ≠ [] → (entity.guardedOperation name [leftArgument left] outputs groups).BelongsTo
        entity.key := guardedOperation_belongsTo ⟨left, Or.inl rfl⟩
  unfold constraintLookups
  refine .append (.append (.operation (belongsLeft nofun) .nil) ?_) ?_
  · split
    · exact .operation (guardedOperation_belongsTo ⟨right, Or.inl rfl⟩ nofun) .nil
    · exact .nil
  · split
    · exact .operation (belongsLeft nofun) .nil
    · exact .nil

theorem linked_linking : Linked entity.key (linking entity) := by
  unfold linking
  split
  · split
    · next left right _ =>
      have belongs {name : String} {inputs outputs : List Argument} {groups : List GroupKind} :
          groups ≠ [] → (entity.guardedOperation name (leftArgument left :: inputs) outputs
            groups).BelongsTo entity.key := guardedOperation_belongsTo ⟨left, Or.inl rfl⟩
      refine .append ?_ (.flatMap fun rule _ => linked_constraintLookups left right rule)
      exact .operation (belongs nofun)
        (.operation (belongs nofun) (.operation (belongs nofun) .nil))
    · exact .nil
  · exact .nil

theorem linked_autolinking : Linked entity.key (autolinking entity) := by
  unfold autolinking
  split
  · split
    · next target _ =>
      refine .operation (guardedOperation_belongsTo ⟨target, Or.inl rfl⟩ nofun) ?_
      split
      · exact .nil
      · exact .operation (guardedOperation_belongsTo ⟨target, Or.inl rfl⟩ nofun) .nil
    · exact .nil
  · exact .nil

theorem linked_childCollections : Linked entity.key (childCollections entity) := by
  refine .flatMap fun collection _ => ?_
  split
  · exact .operation (objectOperation_belongsTo nofun)
      (.operation (objectOperation_belongsTo nofun) .nil)
  · exact .nil

theorem linked_images : Linked entity.key (images entity) :=
  .flatMap fun _ _ => .operation (objectOperation_belongsTo nofun)
    (.operation (objectOperation_belongsTo nofun) .nil)

theorem linked_attachments : Linked entity.key (attachments entity) := by
  unfold attachments
  split
  · exact .operation (objectOperation_belongsTo nofun) <|
      .operation (objectOperation_belongsTo nofun) <|
        .operation (objectOperation_belongsTo nofun) .nil
  · exact .nil

theorem linked_printOuts : Linked entity.key (printOuts entity) :=
  .map fun _ _ => objectOperation_belongsTo nofun

end Derivation

namespace DerivationRule

open EntitySurface.Derivation

variable {rule : DerivationRule} {entity : Entity} {contributed : List Contribution}

/-- Every rule but that of showing contributes operations and their pages, and nothing else. -/
theorem linked (other : rule ≠ .showing)
    (outcome : rule.contributions entity = .ok contributed) : Linked entity.key contributed := by
  cases rule
  case showing => contradiction
  case targetDate => exact linked_targetDate outcome
  case parentLinks => exact linked_parentChanges outcome
  case deletion => exact linked_deletion outcome
  all_goals cases outcome
  case create => exact linked_creation
  case lifecycle => exact linked_stateChange
  case timeSlot => exact linked_rescheduling
  case schedule => exact linked_planning
  case history => exact linked_history
  case workflow => exact linked_tasks
  case numbering => exact linked_renumbering
  case link => exact linked_linking
  case autolink => exact linked_autolinking
  case children => exact linked_childCollections
  case content => exact linked_images.append linked_attachments
  case printOut => exact linked_printOuts

/-- Whatever the rule, its operations belong to the entity, and its pages to its operations. -/
theorem belongsTo_or_shows (outcome : rule.contributions entity = .ok contributed) :
    (∀ operation, .operation operation ∈ contributed → operation.BelongsTo entity.key) ∧
    ∀ page, .page page ∈ contributed → ∃ operation, .operation operation ∈ contributed ∧
      page.linkedOperation = operation.name ∧ page.name = operation.name ++ "Page" := by
  obtain ⟨shown, linked, subset, kept⟩ : ∃ shown, Linked entity.key shown ∧
      shown ⊆ contributed ∧ ∀ contribution ∈ contributed, contribution ∈ shown ∨
        (∃ plan, contribution = .searchPlan plan) ∨ ∃ entry, contribution = .menuEntry entry := by
    by_cases showing : rule = .showing
    · subst showing
      cases outcome
      obtain ⟨shown, linked, split⟩ := exists_showing_eq entity
      rw [split]
      refine ⟨shown, linked, ?_, fun contribution mem => ?_⟩
      · rw [List.append_assoc]
        exact List.subset_append_left _ _
      · rcases List.mem_append.mp mem with former | last
        · exact (List.mem_append.mp former).imp_right fun plan =>
            Or.inl ⟨_, List.mem_singleton.mp plan⟩
        · split at last
          · contradiction
          · exact Or.inr (Or.inr ⟨_, List.mem_singleton.mp last⟩)
    · exact ⟨contributed, rule.linked showing outcome, List.Subset.refl _, fun _ => Or.inl⟩
  constructor
  · intro operation mem
    obtain inShown | ⟨_, same⟩ | ⟨_, same⟩ := kept _ mem
    · rcases linked.forall_mem _ inShown with ⟨_, same, belongs⟩ | ⟨_, _, same, -⟩
      · cases same
        exact belongs
      · contradiction
    all_goals contradiction
  · intro page mem
    obtain inShown | ⟨_, same⟩ | ⟨_, same⟩ := kept _ mem
    · rcases linked.forall_mem _ inShown with ⟨_, same, -⟩ | ⟨_, operation, same, among, shows⟩
      · contradiction
      · cases same
        exact ⟨operation, subset among, shows⟩
    all_goals contradiction

/-- Only showing contributes a search plan. -/
theorem eq_showing_of_searchPlan (outcome : rule.contributions entity = .ok contributed)
    {plan : SearchPlan} (mem : .searchPlan plan ∈ contributed) : rule = .showing :=
  Decidable.byContradiction fun other => (linked other outcome).searchPlan_not_mem plan mem

/-- Only showing contributes a menu entry. -/
theorem eq_showing_of_menuEntry (outcome : rule.contributions entity = .ok contributed)
    {entry : MenuEntry} (mem : .menuEntry entry ∈ contributed) : rule = .showing :=
  Decidable.byContradiction fun other => (linked other outcome).menuEntry_not_mem entry mem

end DerivationRule

/-! ## What only showing contributes

Showing an entity contributes its search plan, and a menu entry unless the entity is a sub-object.
No other rule contributes a search plan, so a surface never replaces the plan that it has by another
one.
-/

namespace Derivation

variable {entity : Entity} {plan : SearchPlan}

/-- Showing contributes the search operation with its page. -/
theorem search_mem_showing :
    .operation (entity.operation ("Search" ++ entity.pascalName) entity.searchArguments
      [entity.objectsArgument] [.lookup, .executiveRead]) ∈ showing entity := by
  simp [showing, withPage]

theorem searchPage_mem_showing :
    .page { Page.forOperation (entity.operation ("Search" ++ entity.pascalName)
        entity.searchArguments [entity.objectsArgument] [.lookup, .executiveRead]) with
      inputs := entity.searchPageArguments } ∈ showing entity := by
  simp [showing, withPage]

/-- Showing contributes one search plan. -/
theorem searchPlan_mem_showing_iff :
    .searchPlan plan ∈ showing entity ↔ plan = .forEntity entity := by
  unfold showing
  rw [List.mem_append]
  split <;> simp [withPage]

/-- Showing contributes one menu entry, and none where the entity is reached through its parent. -/
theorem menuEntry_mem_showing_iff {entry : MenuEntry} :
    .menuEntry entry ∈ showing entity ↔ entity.isSubObject = false ∧
      entry = { entity := entity.key, page := "Search" ++ entity.pascalName ++ "Page"
                label := entity.label } := by
  obtain ⟨shown, linked, split⟩ := exists_showing_eq entity
  rw [split, List.mem_append]
  have among : .menuEntry entry ∉ shown ++ [.searchPlan (.forEntity entity)] := by
    simp [linked.menuEntry_not_mem entry]
  cases entity.isSubObject <;> simp [among]

end Derivation

/-- The one search plan that is ever contributed is the plan of the entity. -/
theorem DerivationRule.plan_eq {rule : DerivationRule} {entity : Entity}
    {contributed : List Contribution} (outcome : rule.contributions entity = .ok contributed)
    {plan : SearchPlan} (mem : .searchPlan plan ∈ contributed) : plan = .forEntity entity := by
  obtain rfl := rule.eq_showing_of_searchPlan outcome mem
  cases outcome
  exact Derivation.searchPlan_mem_showing_iff.mp mem

end EntitySurface
