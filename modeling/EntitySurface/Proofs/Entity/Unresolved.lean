import EntitySurface.Proofs.Entity.Finalization

/-!
# Entities without their settings

Finalization gives the properties of an entity settings and marks the entity, also when it fails
half-way through. Nothing that is added to the entity afterwards depends on this: look-ups and
additions come to the same with or without the settings, and a later finalization settles everything
anew.
-/

namespace EntitySurface

namespace Property

/-- Settling starts afresh: settings from before it are not read, and if nothing fails then none of
them is left. -/
theorem settleFrom_unresolved (entity : EntityKey) (all settled rest : List Property) :
    (settleFrom entity (all.map unresolved) settled (rest.map unresolved)).2 =
        (settleFrom entity all settled rest).2 ∧
      ((settleFrom entity all settled rest).2 = none →
        settleFrom entity (all.map unresolved) settled (rest.map unresolved) =
          settleFrom entity all settled rest) := by
  induction rest generalizing settled with
  | nil => exact ⟨rfl, fun _ => rfl⟩
  | cons property rest ih =>
      have again : (all.map unresolved).map unresolved = all.map unresolved := by
        rw [List.map_map]
        rfl
      have same : property.unresolved.settle ⟨entity, all.map unresolved, settled⟩ =
          property.settle ⟨entity, all, settled⟩ := settle_congr rfl again
      rw [List.map_cons, settleFrom, settleFrom, same]
      cases property.settle { entity, all, earlier := settled } with
      | error fault =>
          refine ⟨rfl, fun succeeded => ?_⟩
          contradiction
      | ok settings => exact ih (settled ++ [{ property with resolved := some settings }])

end Property

namespace Entity

/-- An entity without what finalization has given to it. -/
def unresolved (entity : Entity) : Entity :=
  { entity with properties := entity.properties.map Property.unresolved, finalized := false }

variable (entity : Entity)

/-! ## Look-ups -/

/-- A search that does not look at the settings finds the same property. -/
theorem find?_unresolved (test : Property → Bool)
    (indifferent : ∀ property, test property.unresolved = test property) :
    entity.unresolved.properties.find? test =
      (entity.properties.find? test).map Property.unresolved := by
  have same : test ∘ Property.unresolved = test := funext indifferent
  rw [unresolved, List.find?_map, same]

theorem property?_unresolved (name : String) :
    entity.unresolved.property? name = (entity.property? name).map Property.unresolved :=
  entity.find?_unresolved _ fun _ => rfl

theorem map_identity_unresolved :
    entity.unresolved.properties.map Property.identity =
      entity.properties.map Property.identity := by
  simp only [unresolved, List.map_map]
  rfl

theorem columnClashes_unresolved (column : String) :
    entity.unresolved.columnClashes column = entity.columnClashes column := by
  have columns : entity.unresolved.columns = entity.columns :=
    columns_eq_of_identities entity.map_identity_unresolved
  simp only [columnClashes, columns]

theorem resolveElement?_unresolved (element : ElementRef) :
    entity.unresolved.resolveElement? element = entity.resolveElement? element :=
  resolveElement?_eq_of_identities entity.map_identity_unresolved element

theorem checkParentLink_unresolved (incoming : Property) :
    entity.unresolved.checkParentLink incoming.unresolved = entity.checkParentLink incoming := by
  have links : (entity.unresolved.properties.filter fun link => link.tag == .linkedToParent) =
      (entity.properties.filter fun link => link.tag == .linkedToParent).map
        Property.unresolved := by
    simp only [unresolved, List.filter_map]
    rfl
  have tag : incoming.unresolved.tag = incoming.tag := rfl
  have subObject : incoming.unresolved.isSubObject = incoming.isSubObject := rfl
  have isSubObject : Property.isSubObject ∘ Property.unresolved = Property.isSubObject := rfl
  unfold checkParentLink
  simp only [links, tag, subObject, List.find?_map, List.head?_map, isSubObject]
  split
  · rfl
  · cases List.find? Property.isSubObject _ with
    | some existing => rfl
    | none => cases incoming.isSubObject <;> cases List.head? _ <;> rfl

theorem modifyProperty_unresolved {change : Property → Property}
    (changes : ∀ property, (change property).unresolved = change property.unresolved)
    (name : String) :
    entity.unresolved.modifyProperty name change =
      (entity.modifyProperty name change).unresolved := by
  have along : ∀ properties : List Property,
      modifyProperty.go name change (properties.map Property.unresolved) =
        (modifyProperty.go name change properties).map Property.unresolved := by
    intro properties
    induction properties with
    | nil => rfl
    | cons property rest ih =>
        rw [List.map_cons, modifyProperty_go_cons, modifyProperty_go_cons, ih]
        show (if property.name == name then _ else _) = _
        split
        · rw [List.map_cons, changes]
        · rw [List.map_cons]
  simp only [modifyProperty, unresolved, along]

theorem withRule_unresolved (name : String) (rule : BusinessRule) :
    entity.unresolved.withRule name rule = (entity.withRule name rule).unresolved := by
  refine entity.modifyProperty_unresolved ?_ name
  exact fun _ => rfl

theorem withHook_unresolved (hook : MethodHook) :
    entity.unresolved.withHook hook = (entity.withHook hook).unresolved := by
  refine entity.modifyProperty_unresolved ?_ hook.declaring
  exact fun _ => rfl

/-! ## Additions -/

theorem addField_unresolved (field : Field) :
    entity.unresolved.addField field = (entity.addField field).map unresolved := by
  unfold addField
  rw [columnClashes_unresolved]
  split <;> rfl

theorem addProperty_unresolved (property : Property) :
    entity.unresolved.addProperty property.unresolved =
      (entity.addProperty property).map unresolved := by
  have name : property.unresolved.name = property.name := rfl
  have elements : property.unresolved.elements = property.elements := rfl
  unfold addProperty
  simp only [columnClashes_unresolved, checkParentLink_unresolved, property?_unresolved,
    Option.isSome_map, name, elements]
  split
  · rfl
  · cases List.find? _ _ with
    | some element => rfl
    | none =>
        cases entity.checkParentLink property with
        | error fault => rfl
        | ok free => simp [unresolved, Except.map]

theorem addRule_unresolved (name : String) (rule : BusinessRule) :
    entity.unresolved.addRule name rule = (entity.addRule name rule).map unresolved := by
  have added := entity.withRule_unresolved name rule
  have linked := entity.find?_unresolved
    (fun other => other.tag == .linkedToParent && other.name != name) fun _ => rfl
  unfold addRule
  rw [property?_unresolved]
  cases entity.property? name with
  | none => rfl
  | some property =>
      have tag : property.unresolved.tag = property.tag := rfl
      have isSubObject : property.unresolved.isSubObject = property.isSubObject := rfl
      unfold withRule at added
      simp only [Option.map_some, tag, isSubObject, linked, added]
      cases rule.accepts property.tag with
      | false => rfl
      | true =>
          cases rule == .subObject with
          | false => rfl
          | true =>
              cases property.isSubObject with
              | true => rfl
              | false => cases List.find? _ _ <;> rfl

theorem addHook_unresolved (hook : MethodHook) :
    entity.unresolved.addHook hook = (entity.addHook hook).map unresolved := by
  unfold addHook
  rw [property?_unresolved]
  cases entity.property? hook.declaring with
  | none => rfl
  | some declaring => exact congrArg Except.ok (entity.withHook_unresolved hook)

theorem addWidget_unresolved (widget : SearchWidget) :
    entity.unresolved.addWidget widget = (entity.addWidget widget).map unresolved := by
  unfold addWidget
  show (if entity.searchWidgets.any _ then _ else _) = _
  split <;> rfl

theorem addTab_unresolved (tab : DisplayTab) :
    entity.unresolved.addTab tab = (entity.addTab tab).map unresolved := by
  unfold addTab
  rw [property?_unresolved, Option.isNone_map]
  show (if _ then _ else if entity.extraTabs.any _ then _ else _) = _
  split
  · rfl
  · split <;> rfl

theorem addAlias_unresolved (added : LoaderAlias) :
    entity.unresolved.addAlias added = (entity.addAlias added).map unresolved := by
  unfold addAlias
  show (if entity.loaderAliases.any _ then _ else _) = _
  split <;> rfl

/-! ## Finalization -/

theorem unresolved_finalize : entity.finalize.1.unresolved = entity.unresolved := by
  obtain ⟨finalized, same⟩ := entity.exists_finalize_eq
  rw [same]
  simp only [unresolved, entity.map_unresolved_settling]

theorem settling_unresolved :
    entity.unresolved.settling.2 = entity.settling.2 ∧
      (entity.settling.2 = none → entity.unresolved.settling = entity.settling) :=
  Property.settleFrom_unresolved entity.key entity.properties [] entity.properties

theorem finalize_unresolved_fault : entity.unresolved.finalize.2 = entity.finalize.2 := by
  obtain ⟨fault, settings⟩ := entity.settling_unresolved
  rw [finalize_fault, finalize_fault, fault]
  cases settled : entity.settling.2 with
  | some fault => rfl
  | none =>
      rw [settings settled]
      rfl

/-- A finalization without a fault leaves nothing of the settings from before it. -/
theorem finalize_unresolved (succeeded : entity.finalize.2 = none) :
    entity.unresolved.finalize = entity.finalize := by
  have settled := (finalize_eq_none_iff.mp succeeded).1
  rw [finalize_eq_of_none succeeded,
    finalize_eq_of_none (entity.finalize_unresolved_fault.trans succeeded),
    entity.settling_unresolved.2 settled]
  rfl

end Entity

end EntitySurface
