import EntitySurface.Demo
import EntitySurface.Proofs.Derivation.Linked
import EntitySurface.Proofs.Surface.Derived

/-!
# How a derived surface hangs together

Nothing in a derived surface points into the void: pages show operations, menu entries point at
pages, and access is checked on inputs that stand for objects. A page may come from one rule and the
operation of its name from no other, so each fact is traced back to what a single rule contributes.
-/

namespace EntitySurface.Surface

variable {entity : Entity} {surface : Surface} {rules : List DerivationRule}

section

variable (derived : derive rules entity = .ok surface)
include derived

/-- Every operation of a derived surface is as it is derived for the entity. -/
theorem belongsTo_of_derive {operation : Operation} (mem : operation ∈ surface.operations) :
    operation.BelongsTo entity.key := by
  obtain ⟨rule, -, -, contributed, outcome, among⟩ := (mem_operations_iff derived).mp mem
  exact (rule.belongsTo_or_shows outcome).1 operation among

/-- Every page of a derived surface shows one of its operations. -/
theorem exists_operation_of_derive {page : Page} (mem : page ∈ surface.pages) :
    ∃ operation ∈ surface.operations,
      operation.name = page.linkedOperation ∧ page.name = page.linkedOperation ++ "Page" := by
  obtain ⟨rule, inRules, applies, contributed, outcome, among⟩ := (mem_pages_iff derived).mp mem
  obtain ⟨operation, inContributed, shows, named⟩ := (rule.belongsTo_or_shows outcome).2 page among
  have inSurface : operation ∈ surface.operations :=
    (mem_operations_iff derived).mpr ⟨rule, inRules, applies, contributed, outcome, inContributed⟩
  exact ⟨operation, inSurface, shows.symm, shows ▸ named⟩

/-- Every operation of a derived surface is in an action group of it. -/
theorem exists_group_of_derive {operation : Operation} (mem : operation ∈ surface.operations) :
    ∃ kind, operation.name ∈ surface.groups.operations kind := by
  obtain ⟨kind, joined⟩ := List.exists_mem_of_ne_nil _ (belongsTo_of_derive derived mem).grouped
  refine ⟨kind, ?_⟩
  rw [operations_group_of_derive derived]
  exact List.mem_map_of_mem (List.mem_filter.mpr ⟨mem, List.contains_iff_mem.mpr joined⟩)

end

/-! ## The search plan and menu entries -/

variable {plan : SearchPlan} {entry : MenuEntry}

theorem contributed_searchPlan_iff :
    Contributed rules entity (.searchPlan plan) ↔
      .showing ∈ rules ∧ entity.hasShowSurface = true ∧ plan = .forEntity entity := by
  constructor
  · rintro ⟨rule, mem, applies, contributed, outcome, among⟩
    obtain rfl := rule.eq_showing_of_searchPlan outcome among
    exact ⟨mem, applies, DerivationRule.plan_eq outcome among⟩
  · rintro ⟨mem, shown, rfl⟩
    exact ⟨.showing, mem, shown, _, rfl, Derivation.searchPlan_mem_showing_iff.mpr rfl⟩

theorem contributed_menuEntry_iff :
    Contributed rules entity (.menuEntry entry) ↔
      .showing ∈ rules ∧ entity.hasShowSurface = true ∧ entity.isSubObject = false ∧
        entry = { entity := entity.key, page := "Search" ++ entity.pascalName ++ "Page"
                  label := entity.label } := by
  constructor
  · rintro ⟨rule, mem, applies, contributed, outcome, among⟩
    obtain rfl := rule.eq_showing_of_menuEntry outcome among
    cases outcome
    exact ⟨mem, applies, Derivation.menuEntry_mem_showing_iff.mp among⟩
  · rintro ⟨mem, shown, entered⟩
    exact ⟨.showing, mem, shown, _, rfl, Derivation.menuEntry_mem_showing_iff.mpr entered⟩

section

variable (derived : derive rules entity = .ok surface)
include derived

/-- A derived surface has the search plan of the entity where the entity is shown. -/
theorem searchPlan_eq_some_iff_of_derive :
    surface.searchPlan = some plan ↔
      .showing ∈ rules ∧ entity.hasShowSurface = true ∧ plan = .forEntity entity := by
  constructor
  · intro found
    exact contributed_searchPlan_iff.mp (contributed_of_holds derived found)
  · rintro ⟨mem, shown, rfl⟩
    refine holds_of_derive derived mem shown rfl
      (Derivation.searchPlan_mem_showing_iff.mpr rfl) ?_
    rintro rule - contributions outcome other inOthers plan another ⟨⟩ rfl
    exact (DerivationRule.plan_eq outcome inOthers).symm

/-- The menu entry of a shown entity points at a page of the surface. -/
theorem exists_page_of_derive (mem : entry ∈ surface.menuEntries) :
    ∃ page ∈ surface.pages, page.name = entry.page := by
  obtain ⟨inRules, shown, -, rfl⟩ :=
    contributed_menuEntry_iff.mp ((mem_menuEntries_iff derived).mp mem)
  have contributed : Contributed rules entity (.page _) :=
    ⟨.showing, inRules, shown, _, rfl, Derivation.searchPage_mem_showing⟩
  exact ⟨_, (mem_pages_iff derived).mpr contributed, rfl⟩

end

/-- In a surface that the standard rules derive, every page shows an operation of the surface and is
named after it, and every menu entry points at a page of the surface. Every operation belongs to the
entity, has the identifier computed from the entity and its name, is in an action group, and checks
access on none of its inputs or on one that stands for objects. There is a search plan exactly where
the entity is shown, and a menu entry exactly where it is shown and no sub-object. -/
theorem integrity_of_derive (derived : derive DerivationRule.standard entity = .ok surface) :
    (∀ page ∈ surface.pages, page.name = page.linkedOperation ++ "Page" ∧
      ∃ operation ∈ surface.operations, operation.name = page.linkedOperation) ∧
    (∀ entry ∈ surface.menuEntries, ∃ page ∈ surface.pages, page.name = entry.page) ∧
    (∀ operation ∈ surface.operations,
      operation.entity = entity.key ∧
      operation.id = Operation.identity entity.key operation.name ∧
      (∃ kind, operation.name ∈ surface.groups.operations kind) ∧
      ∀ position, operation.criterion = some position →
        ∃ input, operation.inputs[position.toNat]? = some input ∧
          ∃ key, input.kind = .object key ∨ input.kind = .objects key) ∧
    (surface.searchPlan.isSome = true ↔ entity.hasShowSurface = true) ∧
    (surface.menuEntries ≠ [] ↔
      entity.hasShowSurface = true ∧ entity.isSubObject = false) := by
  have inRules : DerivationRule.showing ∈ DerivationRule.standard := by decide
  refine ⟨fun page mem => ?_, fun entry => exists_page_of_derive derived,
    fun operation mem => ?_, ?_, ?_⟩
  · obtain ⟨operation, inSurface, shown, named⟩ := exists_operation_of_derive derived mem
    exact ⟨named, operation, inSurface, shown⟩
  · have belongs := belongsTo_of_derive derived mem
    exact ⟨belongs.entity, belongs.id, exists_group_of_derive derived mem, belongs.criterion⟩
  · simp [Option.isSome_iff_exists, searchPlan_eq_some_iff_of_derive derived, inRules]
  · simp [List.eq_nil_iff_forall_not_mem, mem_menuEntries_iff derived, contributed_menuEntry_iff,
      inRules]

/-- Orders of customers with their lines. -/
def linedOrders : List Command :=
  Demo.Sales.categories ++ Demo.Sales.customers ++ Demo.Sales.orders ++ Demo.Sales.orderLines ++
    [.finish]

/-- Orders have a search plan and a menu entry; their lines have the plan only. -/
theorem integrity_of_derive_orders :
    let schema := (({ name := "sales" } : Schema).executeAll linedOrders).1
    ∃ order ∈ schema.entities, order.key = Demo.Sales.order ∧
      ∃ line ∈ schema.entities, line.key = Demo.Sales.orderLine ∧
        ∃ surface, derive DerivationRule.standard order = .ok surface ∧
          ∃ inner, derive DerivationRule.standard line = .ok inner ∧
            surface.searchPlan.isSome = true ∧ surface.menuEntries ≠ [] ∧
            inner.searchPlan.isSome = true ∧ inner.menuEntries = [] := by
  intro schema
  have derivable : ∃ order ∈ schema.entities, order.key = Demo.Sales.order ∧
      order.hasShowSurface = true ∧ order.isSubObject = false ∧
      (derive DerivationRule.standard order).toOption.isSome = true ∧
      ∃ line ∈ schema.entities, line.key = Demo.Sales.orderLine ∧
        line.hasShowSurface = true ∧ line.isSubObject = true ∧
        (derive DerivationRule.standard line).toOption.isSome = true := by
    decide +kernel
  obtain ⟨order, orderMem, orderKey, orderShown, orderAlone, orderDerives,
    line, lineMem, lineKey, lineShown, lineBound, lineDerives⟩ := derivable
  obtain ⟨surface, derived⟩ := exists_eq_ok_of_isSome orderDerives
  obtain ⟨inner, innerDerived⟩ := exists_eq_ok_of_isSome lineDerives
  obtain ⟨-, -, -, planned, entered⟩ := integrity_of_derive derived
  obtain ⟨-, -, -, innerPlanned, innerEntered⟩ := integrity_of_derive innerDerived
  refine ⟨order, orderMem, orderKey, line, lineMem, lineKey, surface, derived, inner,
    innerDerived, planned.mpr orderShown, entered.mpr ⟨orderShown, orderAlone⟩,
    innerPlanned.mpr lineShown, ?_⟩
  simpa [lineBound] using innerEntered

end EntitySurface.Surface
