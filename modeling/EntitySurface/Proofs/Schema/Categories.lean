import EntitySurface.Proofs.Schema.Reachable

/-!
# Categories in the catalog

In the catalog of a composition run, a key leads to the category that has it, and every category has
values with different codes. A category is refused for its names, for its key or for its values. Its
namespace is registered before the key and the values are looked at, so that a new namespace stays
when the values are at fault; this is all that a refused category leaves behind.
-/

namespace EntitySurface

namespace ChoiceCategory

variable {category : ChoiceCategory}

theorem repeatedCode?_go_eq_none_iff {seen : List String} {values : List ChoiceValue} :
    repeatedCode?.go seen values = none ↔
      (values.map ChoiceValue.code).Nodup ∧ ∀ value ∈ values, value.code ∉ seen := by
  induction values generalizing seen with
  | nil => simp [repeatedCode?.go]
  | cons value rest ih =>
      simp only [repeatedCode?.go, List.contains_eq_mem, decide_eq_true_eq, List.map_cons,
        List.nodup_cons, List.forall_mem_cons]
      by_cases known : value.code ∈ seen
      · simp [known]
      · rw [if_neg known, ih]
        grind

/-- No code is reported exactly when all codes are different. -/
theorem repeatedCode?_eq_none_iff :
    category.repeatedCode? = none ↔ (category.values.map ChoiceValue.code).Nodup := by
  simp [repeatedCode?, repeatedCode?_go_eq_none_iff]

end ChoiceCategory

namespace Catalog

variable {catalog : Catalog} {category : ChoiceCategory}

theorem categoryFault?_eq_none_iff :
    catalog.categoryFault? category = none ↔
      catalog.index.contains category.key = false ∧ category.values ≠ [] ∧
        (category.values.map ChoiceValue.code).Nodup := by
  rw [← ChoiceCategory.repeatedCode?_eq_none_iff]
  unfold categoryFault?
  cases taken : catalog.index.contains category.key <;>
    by_cases empty : category.values = [] <;> simp [empty]

/-- What is wrong with a category does not depend on its namespace. -/
theorem categoryFault?_withNamespace (space : String) :
    (catalog.withNamespace space).categoryFault? category = catalog.categoryFault? category := by
  unfold withNamespace
  split <;> rfl

theorem categories_withNamespace (space : String) :
    (catalog.withNamespace space).categories = catalog.categories := by
  unfold withNamespace
  split <;> rfl

theorem index_withNamespace (space : String) :
    (catalog.withNamespace space).index = catalog.index := by
  unfold withNamespace
  split <;> rfl

theorem ownsNamespace_withNamespace {space other : String} :
    (catalog.withNamespace space).ownsNamespace other =
      (other == space || catalog.ownsNamespace other) := by
  unfold withNamespace
  split <;> grind [ownsNamespace]

/-- What every catalog of a composition run satisfies. -/
structure WellFormed (catalog : Catalog) : Prop where
  indexed : catalog.index.Leads (catalog.categories.map ChoiceCategory.key)
  /-- A category is registered after its namespace. -/
  owned : ∀ category ∈ catalog.categories, catalog.ownsNamespace category.key.space = true
  filled : ∀ category ∈ catalog.categories, category.values ≠ []
  codes : ∀ category ∈ catalog.categories, (category.values.map ChoiceValue.code).Nodup

theorem wellFormed_empty : ({} : Catalog).WellFormed where
  indexed := KeyIndex.leads_empty
  owned := nofun
  filled := nofun
  codes := nofun

namespace WellFormed

variable (wellFormed : catalog.WellFormed)
include wellFormed

theorem nodup_keys : (catalog.categories.map ChoiceCategory.key).Nodup :=
  wellFormed.indexed.nodup

/-- Looking a key up finds the registered category with this key. -/
theorem category?_eq_some_iff {key : ChoiceKey} :
    catalog.category? key = some category ↔
      category ∈ catalog.categories ∧ category.key = key :=
  wellFormed.indexed.bind_getElem?_eq_some_iff

/-- The key of a category whose namespace is new is free. -/
theorem contains_eq_false (fresh : catalog.ownsNamespace category.key.space = false) :
    catalog.index.contains category.key = false := by
  rw [Bool.eq_false_iff]
  intro taken
  obtain ⟨other, mem, same⟩ := List.mem_map.mp (wellFormed.indexed.contains_iff.mp taken)
  rw [← same, wellFormed.owned other mem] at fresh
  contradiction

theorem withNamespace (space : String) : (catalog.withNamespace space).WellFormed where
  indexed := by
    rw [index_withNamespace, categories_withNamespace]
    exact wellFormed.indexed
  owned category mem := by
    rw [categories_withNamespace] at mem
    simp [ownsNamespace_withNamespace, wellFormed.owned category mem]
  filled := by
    rw [categories_withNamespace]
    exact wellFormed.filled
  codes := by
    rw [categories_withNamespace]
    exact wellFormed.codes

/-- A category in which nothing is wrong is added after its namespace. -/
theorem add (owned : catalog.ownsNamespace category.key.space = true)
    (sound : catalog.categoryFault? category = none) : (catalog.add category).WellFormed := by
  obtain ⟨free, filled, codes⟩ := categoryFault?_eq_none_iff.mp sound
  have fresh : category.key ∉ catalog.categories.map ChoiceCategory.key := by
    rw [← wellFormed.indexed.contains_iff, free]
    exact Bool.false_ne_true
  constructor
  · simpa [Catalog.add] using wellFormed.indexed.enter fresh
  · exact List.forall_mem_append.mpr ⟨wellFormed.owned, List.forall_mem_singleton.mpr owned⟩
  · exact List.forall_mem_append.mpr ⟨wellFormed.filled, List.forall_mem_singleton.mpr filled⟩
  · exact List.forall_mem_append.mpr ⟨wellFormed.codes, List.forall_mem_singleton.mpr codes⟩

end WellFormed

end Catalog

namespace Schema

variable {schema after : Schema}

/-- Every change keeps the catalog well-formed. -/
theorem Change.catalog_wellFormed (change : schema.Change after)
    (wellFormed : schema.catalog.WellFormed) : after.catalog.WellFormed := by
  cases change with
  | nothing | interrupted | finished => exact wellFormed
  | grown composing growth =>
      obtain ⟨entities, rfl⟩ := growth.eq_with_entities
      exact wellFormed
  | declared | namespaced => exact wellFormed.withNamespace _
  | @categorized category composing namespaced identifier sound =>
      apply (wellFormed.withNamespace category.key.space).add _ sound
      simp [Catalog.ownsNamespace_withNamespace]

/-- The catalog of every schema that a composition run leads to is well-formed. -/
theorem Reachable.catalog_wellFormed (reached : schema.Reachable) :
    schema.catalog.WellFormed := by
  induction reached with
  | start name => exact Catalog.wellFormed_empty
  | step command reached ih =>
      exact (execute_change reached.wellFormed command).catalog_wellFormed ih

/-! ## Categories that are refused -/

/-- Registering the category brings its namespace into the schema: both of its names are accepted
and the namespace is new. -/
def AddsNamespace (schema : Schema) (category : ChoiceCategory) : Prop :=
  schema.phase = .composing ∧ Name.identifierProblem? category.key.name = none ∧
    Name.namespaceProblem? category.key.space = none ∧
    schema.catalog.ownsNamespace category.key.space = false

instance (schema : Schema) (category : ChoiceCategory) :
    Decidable (schema.AddsNamespace category) :=
  inferInstanceAs (Decidable (_ ∧ _))

/-- The schema with a namespace after the ones that it knows. -/
def withNewNamespace (schema : Schema) (space : String) : Schema :=
  { schema with
    catalog := { schema.catalog with namespaces := schema.catalog.namespaces ++ [space] } }

theorem withNewNamespace_ne (schema : Schema) (space : String) :
    schema.withNewNamespace space ≠ schema := by
  intro same
  simpa [withNewNamespace] using congrArg (fun schema => schema.catalog.namespaces.length) same

open Composer in
/-- A category that is refused leaves its namespace, if that is new and accepted, and nothing else.
The namespace stays when something is wrong with the category itself. -/
theorem execute_category_of_fault {category : ChoiceCategory} {fault : Fault}
    (refused : (schema.execute (.category category)).2 = some fault) :
    (schema.AddsNamespace category ∧ schema.catalog.categoryFault? category = some fault ∧
      (schema.execute (.category category)).1 = schema.withNewNamespace category.key.space) ∨
    (¬ schema.AddsNamespace category ∧ (schema.execute (.category category)).1 = schema) := by
  unfold execute at refused ⊢
  simp only [Command.step, registerCategory] at refused ⊢
  cases phase : schema.phase with
  | finalized =>
      rw [bind_of_error (ensureComposing_of_finalized _ phase)]
      exact Or.inr ⟨by simp [AddsNamespace, phase], rfl⟩
  | composing =>
      rw [bind_of_ok (ensureComposing_of_composing _ phase), onCatalog,
        registerCategory_outcome] at refused ⊢
      cases identifier : Name.identifierProblem? category.key.name with
      | some problem => exact Or.inr ⟨by simp [AddsNamespace, identifier], rfl⟩
      | none =>
          cases namespaced : Name.namespaceProblem? category.key.space with
          | some problem => exact Or.inr ⟨by simp [AddsNamespace, namespaced], rfl⟩
          | none =>
              simp only [identifier, namespaced, Catalog.categoryFault?_withNamespace]
                at refused ⊢
              cases unsound : schema.catalog.categoryFault? category with
              | none => simp [unsound] at refused
              | some cause =>
                  obtain rfl : cause = fault := by simpa [unsound] using refused
                  cases owned : schema.catalog.ownsNamespace category.key.space with
                  | true =>
                      refine Or.inr ⟨by simp [AddsNamespace, owned], ?_⟩
                      simp [Catalog.withNamespace, owned]
                  | false =>
                      refine Or.inl ⟨⟨phase, identifier, namespaced, owned⟩, rfl, ?_⟩
                      simp [Catalog.withNamespace, owned, withNewNamespace]

namespace Reachable

/-- In every schema that a composition run leads to, a category that is refused changes nothing,
unless its namespace is new, both of its names are accepted and its values are at fault: then the
namespace stays and everything else is as it was. In the catalog, keys are distinct, a key leads to
the category that has it, and every category has values with different codes. -/
theorem refused_category (reached : schema.Reachable) :
    (∀ category fault, (schema.execute (.category category)).2 = some fault →
      ((schema.execute (.category category)).1 = schema ↔ ¬ schema.AddsNamespace category) ∧
      (schema.AddsNamespace category →
        (schema.execute (.category category)).1 = schema.withNewNamespace category.key.space ∧
        (category.values = [] ∨ ¬ (category.values.map ChoiceValue.code).Nodup))) ∧
    (schema.catalog.categories.map ChoiceCategory.key).Nodup ∧
    (∀ key category, schema.catalog.category? key = some category ↔
      category ∈ schema.catalog.categories ∧ category.key = key) ∧
    ∀ category ∈ schema.catalog.categories,
      category.values ≠ [] ∧ (category.values.map ChoiceValue.code).Nodup := by
  have wellFormed := reached.catalog_wellFormed
  refine ⟨fun category fault refused => ?_, wellFormed.nodup_keys,
    fun key category => wellFormed.category?_eq_some_iff,
    fun category mem => ⟨wellFormed.filled category mem, wellFormed.codes category mem⟩⟩
  rcases execute_category_of_fault refused with ⟨adds, unsound, left⟩ | ⟨keeps, same⟩
  · have free := wellFormed.contains_eq_false adds.2.2.2
    have faulty : category.values = [] ∨ ¬ (category.values.map ChoiceValue.code).Nodup := by
      by_contra sound
      push Not at sound
      rw [Catalog.categoryFault?_eq_none_iff.mpr ⟨free, sound⟩] at unsound
      contradiction
    rw [left]
    exact ⟨by simp [adds, withNewNamespace_ne], fun _ => ⟨rfl, faulty⟩⟩
  · exact ⟨by simp [same, keeps], fun adds => absurd adds keeps⟩

/-- Levels of dunning letters, in a namespace of their own and without values yet. -/
def dunningLevels : ChoiceCategory := { key := ⟨"dunning", "Level"⟩, values := [] }

/-- In the sales demonstration, the levels leave their namespace behind, and states of invoices that
are registered once more leave nothing. -/
theorem refused_category_dunningLevels :
    let schema := (({ name := "sales" } : Schema).executeAll Demo.Sales.categories).1
    schema.catalog.namespaces = ["sales"] ∧
      (schema.execute (.category dunningLevels)).1 = schema.withNewNamespace "dunning" ∧
      (schema.execute (.category ⟨Demo.Sales.invoiceState, []⟩)).1 = schema := by
  intro schema
  have refused := ((Reachable.start "sales").executeAll Demo.Sales.categories).refused_category.1
  have levels := refused dunningLevels (.invalidName "dunning.Level" .noValues) (by decide +kernel)
  have states := refused ⟨Demo.Sales.invoiceState, []⟩
    (.duplicateName .categories "sales.InvoiceState") (by decide +kernel)
  exact ⟨by decide +kernel, (levels.2 (by decide +kernel)).1, states.1.mpr (by decide +kernel)⟩

/-- Even the empty schema is not the same after a category without values was refused. -/
theorem refused_category_trace :
    let schema : Schema := { name := "sales" }
    schema.Reachable ∧
      (schema.execute (.category dunningLevels)).2 =
        some (.invalidName "dunning.Level" .noValues) ∧
      schema.catalog.namespaces = [] ∧
      (schema.execute (.category dunningLevels)).1.catalog.namespaces = ["dunning"] :=
  ⟨.start "sales", by decide +kernel, rfl, by decide +kernel⟩

end Reachable

end Schema

end EntitySurface
