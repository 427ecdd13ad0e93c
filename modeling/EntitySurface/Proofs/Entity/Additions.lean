import EntitySurface.Proofs.Entity.Columns

/-!
# What a successful addition has checked and done

For every checked addition to an entity: the conditions under which it succeeds, and the entity that
it then leads to.
-/

namespace EntitySurface.Entity

variable {entity grown : Entity}

theorem addField_eq_ok_iff {field : Field} :
    entity.addField field = .ok grown ↔
      entity.columnClashes field.name = false ∧
        { entity with fields := entity.fields ++ [field] } = grown := by
  unfold addField
  cases entity.columnClashes field.name <;> simp

theorem addProperty_eq_ok_iff {property : Property} :
    entity.addProperty property = .ok grown ↔
      entity.property? property.name = none ∧
        (∀ element ∈ property.elements, entity.columnClashes element.name = false) ∧
        entity.checkParentLink property = .ok () ∧
        { entity with properties := entity.properties ++ [property] } = grown := by
  unfold addProperty
  cases entity.property? property.name with
  | some stored => simp
  | none =>
      cases clash : property.elements.find? fun element => entity.columnClashes element.name with
      | some element =>
          have mem := List.mem_of_find?_eq_some clash
          have clashes := List.find?_some clash
          simp only [Option.isSome_none, Bool.false_eq_true, if_false, reduceCtorEq, true_and,
            false_iff, not_and]
          intro free
          exact absurd clashes (by simp [free element mem])
      | none =>
          have free := List.find?_eq_none.mp clash
          simp only [Bool.not_eq_true] at free
          cases entity.checkParentLink property with
          | error fault => simp
          | ok => simpa using fun _ => free

theorem addWidget_eq_ok_iff {widget : SearchWidget} :
    entity.addWidget widget = .ok grown ↔
      (∀ other ∈ entity.searchWidgets,
        other.element ≠ widget.element ∧ other.argumentName ≠ widget.argumentName) ∧
        { entity with searchWidgets := entity.searchWidgets ++ [widget] } = grown := by
  unfold addWidget
  by_cases taken : ∃ other ∈ entity.searchWidgets,
      other.element = widget.element ∨ other.argumentName = widget.argumentName
  · have found : (entity.searchWidgets.any fun other =>
        other.element == widget.element || other.argumentName == widget.argumentName) = true := by
      simpa using taken
    obtain ⟨other, mem, same⟩ := taken
    simp only [found, if_true, reduceCtorEq, false_iff, not_and]
    intro free
    exact absurd same (by simp [free other mem])
  · have free : (entity.searchWidgets.any fun other =>
        other.element == widget.element || other.argumentName == widget.argumentName) = false := by
      simpa using taken
    simp only [not_exists, not_and, not_or] at taken
    simpa [free] using fun _ => taken

theorem addTab_eq_ok_iff {tab : DisplayTab} :
    entity.addTab tab = .ok grown ↔
      (entity.property? tab.showsProperty).isSome ∧
        (∀ other ∈ entity.extraTabs, other.name ≠ tab.name) ∧
        { entity with extraTabs := entity.extraTabs ++ [tab] } = grown := by
  unfold addTab
  cases entity.property? tab.showsProperty with
  | none => simp
  | some shown =>
      by_cases taken : ∃ other ∈ entity.extraTabs, other.name = tab.name
      · have found : (entity.extraTabs.any fun other => other.name == tab.name) = true := by
          simpa using taken
        obtain ⟨other, mem, same⟩ := taken
        simp only [found, Option.isNone_some, Bool.false_eq_true, if_false, if_true, reduceCtorEq,
          Option.isSome_some, true_and, false_iff, not_and]
        intro free
        exact absurd same (free other mem)
      · have free : (entity.extraTabs.any fun other => other.name == tab.name) = false := by
          simpa using taken
        simp only [not_exists, not_and] at taken
        simpa [free] using fun _ => taken

theorem addAlias_eq_ok_iff {added : LoaderAlias} :
    entity.addAlias added = .ok grown ↔
      (∀ other ∈ entity.loaderAliases, other.header ≠ added.header) ∧
        { entity with loaderAliases := entity.loaderAliases ++ [added] } = grown := by
  unfold addAlias
  by_cases taken : ∃ other ∈ entity.loaderAliases, other.header = added.header
  · have found : (entity.loaderAliases.any fun other => other.header == added.header) = true := by
      simpa using taken
    obtain ⟨other, mem, same⟩ := taken
    simp only [found, if_true, reduceCtorEq, false_iff, not_and]
    intro free
    exact absurd same (free other mem)
  · have free : (entity.loaderAliases.any fun other => other.header == added.header) = false := by
      simpa using taken
    simp only [not_exists, not_and] at taken
    simpa [free] using fun _ => taken

/-- The entity with a rule added to a property. -/
def withRule (entity : Entity) (name : String) (rule : BusinessRule) : Entity :=
  entity.modifyProperty name fun found => { found with rules := found.rules ++ [rule] }

/-- The entity with a hook added to the property that declares it. -/
def withHook (entity : Entity) (hook : MethodHook) : Entity :=
  entity.modifyProperty hook.declaring fun found =>
    { found with declaredHooks := found.declaredHooks ++ [hook] }

/-- A sub-object rule comes to the only parent link of the entity, and only once. -/
theorem addRule_eq_ok_iff {name : String} {rule : BusinessRule} :
    entity.addRule name rule = .ok grown ↔
      ∃ property, entity.property? name = some property ∧ rule.accepts property.tag = true ∧
        if rule = .subObject then
          if property.isSubObject then entity = grown
          else (∀ other ∈ entity.properties, other.tag = .linkedToParent → other.name = name) ∧
            entity.withRule name rule = grown
        else entity.withRule name rule = grown := by
  unfold addRule withRule
  cases entity.property? name with
  | none => simp
  | some property =>
      simp only [Option.some.injEq, exists_eq_left']
      cases rule.accepts property.tag with
      | false => simp
      | true =>
          by_cases sub : rule = .subObject
          · subst sub
            cases property.isSubObject with
            | true => simp
            | false =>
                cases other : entity.properties.find? fun other =>
                    other.tag == .linkedToParent && other.name != name with
                | some found =>
                    have mem := List.mem_of_find?_eq_some other
                    have linked := List.find?_some other
                    simp only [Bool.and_eq_true, beq_iff_eq, bne_iff_ne] at linked
                    simp only [Bool.not_true, Bool.false_eq_true, if_false, beq_self_eq_true,
                      if_true, reduceCtorEq, true_and, false_iff, not_and]
                    intro alone
                    exact absurd (alone found mem linked.1) linked.2
                | none =>
                    have alone := List.find?_eq_none.mp other
                    simp only [Bool.and_eq_true, beq_iff_eq, bne_iff_ne, not_and,
                      Decidable.not_not] at alone
                    simpa using fun _ => alone
          · simp [sub]

/-- Adding a rule adds it, unless it is a sub-object rule that is already there. -/
theorem eq_or_eq_withRule {name : String} {rule : BusinessRule}
    (added : entity.addRule name rule = .ok grown) :
    grown = entity ∨ grown = entity.withRule name rule := by
  obtain ⟨property, -, -, outcome⟩ := addRule_eq_ok_iff.mp added
  split at outcome
  · split at outcome
    · exact Or.inl outcome.symm
    · exact Or.inr outcome.2.symm
  · exact Or.inr outcome.symm

theorem addHook_eq_ok_iff {hook : MethodHook} :
    entity.addHook hook = .ok grown ↔
      (entity.property? hook.declaring).isSome ∧ entity.withHook hook = grown := by
  unfold addHook withHook
  cases entity.property? hook.declaring <;> simp

/-! ## Changing one property -/

theorem modifyProperty_go_cons (name : String) (change : Property → Property)
    (property : Property) (rest : List Property) :
    modifyProperty.go name change (property :: rest) =
      if property.name == name then change property :: rest
      else property :: modifyProperty.go name change rest :=
  rfl

/-- What the change keeps of a property stays the same all along the list. -/
theorem map_modifyProperty {α : Type} {read : Property → α} {change : Property → Property}
    (kept : ∀ property, read (change property) = read property) (entity : Entity)
    (name : String) :
    (entity.modifyProperty name change).properties.map read = entity.properties.map read := by
  show (modifyProperty.go name change entity.properties).map read = _
  induction entity.properties with
  | nil => rfl
  | cons property rest ih =>
      rw [modifyProperty_go_cons]
      split
      · simp [kept]
      · simp [ih]

/-- Adding a rule changes nothing but rules of properties. -/
theorem exists_properties_of_addRule {α : Type} (read : Property → α)
    (kept : ∀ property rules, read { property with rules } = read property) {name : String}
    {rule : BusinessRule} (added : entity.addRule name rule = .ok grown) :
    ∃ properties : List Property, grown = { entity with properties } ∧
      properties.map read = entity.properties.map read := by
  rcases eq_or_eq_withRule added with rfl | rfl
  · exact ⟨grown.properties, rfl, rfl⟩
  · exact ⟨_, rfl, map_modifyProperty (fun property => kept property _) entity name⟩

/-- Adding a hook changes nothing but hooks of properties. -/
theorem exists_properties_of_addHook {α : Type} (read : Property → α)
    (kept : ∀ property declaredHooks, read { property with declaredHooks } = read property)
    {hook : MethodHook} (added : entity.addHook hook = .ok grown) :
    ∃ properties : List Property, grown = { entity with properties } ∧
      properties.map read = entity.properties.map read := by
  obtain ⟨-, rfl⟩ := addHook_eq_ok_iff.mp added
  exact ⟨_, rfl, map_modifyProperty (fun property => kept property _) entity hook.declaring⟩

/-- Only the property that is found under the name is changed. -/
theorem mem_modifyProperty {change : Property → Property} {name : String} {property : Property}
    (mem : property ∈ (entity.modifyProperty name change).properties) :
    property ∈ entity.properties ∨
      ∃ found, entity.property? name = some found ∧ property = change found := by
  have along : ∀ {properties : List Property}, property ∈ modifyProperty.go name change properties →
      property ∈ properties ∨
        ∃ found, properties.find? (fun found => found.name == name) = some found ∧
          property = change found := by
    intro properties mem
    induction properties with
    | nil => contradiction
    | cons first rest ih =>
        rw [modifyProperty_go_cons] at mem
        cases named : first.name == name with
        | true =>
            rw [if_pos named] at mem
            rcases List.mem_cons.mp mem with rfl | inRest
            · exact Or.inr ⟨first, by simp [named], rfl⟩
            · exact Or.inl (List.mem_cons_of_mem _ inRest)
        | false =>
            rw [if_neg (by simp [named])] at mem
            rcases List.mem_cons.mp mem with rfl | inRest
            · exact Or.inl List.mem_cons_self
            · rcases ih inRest with old | ⟨found, first?, changed⟩
              · exact Or.inl (List.mem_cons_of_mem _ old)
              · exact Or.inr ⟨found, by simpa [named] using first?, changed⟩
  exact along mem

end EntitySurface.Entity
