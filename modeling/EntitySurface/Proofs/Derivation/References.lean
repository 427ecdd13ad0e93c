import EntitySurface.Proofs.Derivation.ArgumentSources
import EntitySurface.Proofs.Derivation.Linked
import EntitySurface.Proofs.Schema.Bindings

/-!
# What a surface refers to

Arguments of operations and pages stand for objects of an entity or for values of a type, and
widgets of a search plan offer the values of a category. Every rule takes what its arguments refer
to from one of three places: the entity itself, the parameters of its properties, and the types of
the columns that are searched. Nothing else reaches a surface.
-/

namespace EntitySurface

/-! ## References -/

/-- The entity or category that an argument refers to. -/
def ArgumentKind.target? : ArgumentKind → Option BindingTarget
  | object key | objects key => some (.entity key)
  | value type | values type => type.target?
  | dateRange | file => none

/-- The category whose values a widget offers. -/
def WidgetKind.target? : WidgetKind → Option BindingTarget
  | choice category => some (.choice category)
  | text | dateRange | exact => none

/-- The entities and categories that a surface refers to: in the inputs and outputs of operations,
in the inputs of pages and in the search plan. -/
def Surface.targets (surface : Surface) : List BindingTarget :=
  ((surface.operations.flatMap fun operation => operation.inputs ++ operation.outputs) ++
      surface.pages.flatMap Page.inputs).filterMap (fun argument => argument.kind.target?) ++
    (surface.searchPlan.toList.flatMap SearchPlan.widgets).filterMap fun widget =>
      widget.kind.target?

/-- Where the references of a surface come from. -/
inductive Entity.Mentions (rules : List DerivationRule) (entity : Entity) :
    BindingTarget → Prop where
  | self : Mentions rules entity (.entity entity.key)
  | bound {property : Property} {binding : Binding} (stored : property ∈ entity.properties)
      (bound : binding ∈ property.kind.bindings) : Mentions rules entity binding.target
  /-- Only the showing rule searches, and only entities that are shown. -/
  | searched {widget : SearchWidget} {target : BindingTarget} (inRules : .showing ∈ rules)
      (shown : entity.hasShowSurface = true) (mem : widget ∈ entity.searchWidgets)
      (refers : (entity.widgetArgument widget).kind.target? = some target) :
      Mentions rules entity target

namespace Entity

variable {rules : List DerivationRule} {entity : Entity}

/-- A widget refers to the category that it offers in the plan and as an argument. -/
theorem target?_widgetArgument {widget : SearchWidget} {target : BindingTarget}
    (refers : widget.kind.target? = some target) :
    (entity.widgetArgument widget).kind.target? = some target := by
  unfold widgetArgument
  cases kind : widget.kind <;> rw [kind] at refers <;> first | contradiction | exact refers

/-- What an argument refers to is mentioned where the argument comes from. -/
theorem Supplies.mentions {argument : Argument} (supplies : entity.Supplies rules argument)
    {target : BindingTarget} (refers : argument.kind.target? = some target) :
    entity.Mentions rules target := by
  cases supplies with
  | common listed =>
      have plain : ∀ argument ∈ Derivation.commonArguments, argument.kind.target? = none := by
        decide
      rw [plain argument listed] at refers
      contradiction
  | own listed =>
      have self : ∀ argument ∈ entity.ownArguments,
          argument.kind.target? = some (.entity entity.key) := by
        simp [Entity.ownArguments, Entity.objectArgument, Entity.objectsArgument,
          EntityKey.objectArgument, EntityKey.objectsArgument, ArgumentKind.target?]
      rw [self argument listed, Option.some.injEq] at refers
      exact refers ▸ .self
  | @related property key _ stored bound listed =>
      have other : ∀ argument ∈ key.relatedArguments,
          argument.kind.target? = some (.entity key) := by
        simp [EntityKey.relatedArguments, EntityKey.objectArgument, EntityKey.objectsArgument,
          leftArgument, rightArgument, ArgumentKind.target?]
      rw [other argument listed, Option.some.injEq] at refers
      obtain ⟨binding, among, same⟩ := List.mem_map.mp bound
      exact (same.trans refers) ▸ .bound stored among
  | @state lifecycle _ stored brought =>
      obtain ⟨category, kind, rfl⟩ := Property.stateArgument?_eq_some_iff.mp brought
      obtain rfl : .choice category = target := Option.some.inj refers
      have bound : ⟨"lifecycle", .choice category⟩ ∈ lifecycle.kind.bindings := by
        simp [kind, PropertyKind.bindings]
      exact .bound stored bound
  | @parent link _ stored brought =>
      obtain ⟨parent, kind, rfl⟩ := Property.parentObject?_eq_some_iff.mp brought
      obtain rfl : .entity parent = target := Option.some.inj refers
      have bound : ⟨"parent", .entity parent⟩ ∈ link.kind.bindings := by
        simp [kind, PropertyKind.bindings]
      exact .bound stored bound
  | searched inRules shown mem => exact .searched inRules shown mem refers

end Entity

/-! ## Whole surfaces -/

namespace Surface

variable {surface : Surface} {entity : Entity} {rules : List DerivationRule}
  {target : BindingTarget}

theorem mem_targets_iff :
    target ∈ surface.targets ↔
      (∃ operation ∈ surface.operations, ∃ argument ∈ operation.inputs ++ operation.outputs,
        argument.kind.target? = some target) ∨
      (∃ page ∈ surface.pages, ∃ argument ∈ page.inputs, argument.kind.target? = some target) ∨
      ∃ plan, surface.searchPlan = some plan ∧ ∃ widget ∈ plan.widgets,
        widget.kind.target? = some target := by
  simp only [targets, List.mem_append, List.mem_filterMap, List.mem_flatMap, Option.mem_toList]
  constructor
  · rintro (⟨argument, ⟨operation, inSurface, among⟩ | ⟨page, inSurface, among⟩, refers⟩ |
      ⟨widget, ⟨plan, planned, among⟩, refers⟩)
    · exact .inl ⟨operation, inSurface, argument, among, refers⟩
    · exact .inr (.inl ⟨page, inSurface, argument, among, refers⟩)
    · exact .inr (.inr ⟨plan, planned, widget, among, refers⟩)
  · rintro (⟨operation, inSurface, argument, among, refers⟩ |
      ⟨page, inSurface, argument, among, refers⟩ | ⟨plan, planned, widget, among, refers⟩)
    · exact .inl ⟨argument, .inl ⟨operation, inSurface, among⟩, refers⟩
    · exact .inl ⟨argument, .inr ⟨page, inSurface, among⟩, refers⟩
    · exact .inr ⟨widget, ⟨plan, planned, among⟩, refers⟩

/-- A derived surface refers to nothing but what comes from its entity. -/
theorem mentions_of_mem_targets (derived : derive rules entity = .ok surface)
    (settled : entity.Settled) (wellFormed : entity.WellFormed) (mem : target ∈ surface.targets) :
    entity.Mentions rules target := by
  rcases mem_targets_iff.mp mem with ⟨operation, inSurface, argument, among, refers⟩ |
    ⟨page, inSurface, argument, among, refers⟩ | ⟨plan, planned, widget, inPlan, refers⟩
  · exact (supplies_of_mem_operations derived settled wellFormed inSurface argument among).mentions
      refers
  · exact (supplies_of_mem_pages derived settled wellFormed inSurface argument among).mentions
      refers
  · have holds : surface.Holds (.searchPlan plan) := planned
    obtain ⟨rule, inRules, applies, contributed, outcome, inContributed⟩ :=
      contributed_of_holds derived holds
    obtain rfl := rule.eq_showing_of_searchPlan outcome inContributed
    obtain rfl := DerivationRule.plan_eq outcome inContributed
    obtain ⟨searched, inWidgets, rfl⟩ := List.mem_map.mp inPlan
    exact .searched inRules applies inWidgets (Entity.target?_widgetArgument refers)

/-- A derived surface refers to whatever the search of a shown entity takes. -/
theorem mem_targets_of_searched (derived : derive rules entity = .ok surface)
    (inRules : .showing ∈ rules) (shown : entity.hasShowSurface = true) {widget : SearchWidget}
    (mem : widget ∈ entity.searchWidgets)
    (refers : (entity.widgetArgument widget).kind.target? = some target) :
    target ∈ surface.targets := by
  have searched : Contributed rules entity (.operation _) :=
    ⟨.showing, inRules, shown, _, rfl, Derivation.search_mem_showing⟩
  refine mem_targets_iff.mpr (Or.inl ⟨_, (mem_operations_iff derived).mpr searched,
    entity.widgetArgument widget, List.mem_append_left _ ?_, refers⟩)
  exact List.mem_map_of_mem mem

end Surface

end EntitySurface
