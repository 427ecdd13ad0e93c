import EntitySurface.Demo
import EntitySurface.Proofs.Emission.Groups
import EntitySurface.Proofs.Schema.Files

/-!
# The manifest as an image of the derivation

A manifest is put together call by call, from data that the generator passes on. In the end it holds
what was derived, entity by entity and in the order of the schema.
-/

namespace EntitySurface

/-- An operation of a derived surface is listed under the name of a group exactly if it asks for the
group. -/
theorem Surface.listed_iff_of_derive {rules : List DerivationRule} {entity : Entity}
    {surface : Surface} (derived : derive rules entity = .ok surface) {operation : Operation}
    (mem : operation ∈ surface.operations) (kind : GroupKind) :
    (∃ members, surface.groups.members.find? (kind.groupName entity.key) = some members ∧
        operation.name ∈ members) ↔ kind ∈ operation.groups := by
  have distinct := (records_of_derive derived).operations.distinct
  have listed : operation.name ∈ surface.groups.operations kind ↔ kind ∈ operation.groups := by
    rw [operations_group_of_derive derived]
    constructor
    · intro among
      obtain ⟨other, found, same⟩ := List.mem_map.mp among
      obtain ⟨stored, asks⟩ := List.mem_filter.mp found
      rw [← List.inj_on_of_nodup_map distinct stored mem same]
      exact List.contains_iff_mem.mp asks
    · intro asks
      exact List.mem_map_of_mem (List.mem_filter.mpr ⟨mem, List.contains_iff_mem.mpr asks⟩)
  rw [← listed]
  constructor
  · rintro ⟨members, found, among⟩
    obtain ⟨-, other, named, rfl⟩ := (find?_members_of_derive derived).mp found
    rwa [GroupKind.groupName_inj.mp named]
  · intro among
    exact ⟨_, (find?_members_of_derive derived).mpr
      ⟨List.ne_nil_of_mem among, kind, rfl, rfl⟩, among⟩

namespace Schema

variable {schema : Schema} {settings : GenerationSettings} {rules : List DerivationRule}
  {project : Project}

/-- A project with a manifest has one, with one entry for each entity of the schema, in order. The
entry holds the operations, the pages and the search plan of the derived surface, and the statements
of the chains that have hooks. Its groups are those that have members, under their names: a group
lists the operations that ask for it in the order of registration, and no others. -/
theorem manifest_of_generate (generated : schema.generate settings rules = .ok project)
    (asked : settings.emitManifest = true) :
    ∃ manifest : Manifest,
      project.filesOfKind .json =
        [{ path := "manifest.json", content := manifest.text, kind := .json }] ∧
      manifest.schema = schema.name ∧
      List.Forall₂ (fun entity entry => ∃ surface chains,
          Surface.derive rules entity = .ok surface ∧
          entity.hookChains = .ok chains ∧
          entry.entity = entity.key ∧
          entry.label = entity.label ∧
          entry.operations = surface.operations ∧
          entry.pages = surface.pages ∧
          (∀ name members, entry.groups.find? name = some members ↔
            members ≠ [] ∧ ∃ kind, name = kind.groupName entity.key ∧
              surface.groups.operations kind = members) ∧
          (∀ kind, surface.groups.operations kind =
            (surface.operations.filter fun operation => operation.groups.contains kind).map
              Operation.name) ∧
          (∀ operation ∈ surface.operations, ∀ kind,
            (∃ members, entry.groups.find? (kind.groupName entity.key) = some members ∧
              operation.name ∈ members) ↔ kind ∈ operation.groups) ∧
          entry.wovenMethods = ((chains.filter fun chain => !chain.isEmpty).map fun chain =>
            { method := chain.method, origin := chain.origin, bulk := chain.bulk
              statements := chain.statements }) ∧
          entry.search = surface.searchPlan)
        schema.entities manifest.entities := by
  obtain ⟨derived, derives, files⟩ := exists_derived_of_generate generated
  refine ⟨schema.manifestOf derived, ?_, rfl, ?_⟩
  · have noStub (docs : Bool) : (StubEmitter.filesOf docs derived).filter
        (fun file => file.kind == .json) = [] := by
      rw [List.filter_eq_nil_iff]
      intro file mem
      simp [StubEmitter.kind_of_mem_filesOf mem]
    rw [Project.filesOfKind, files, if_pos asked, List.filter_append, List.filter_append]
    cases settings.emitStubs <;> cases settings.generateDocs <;>
      simp only [noStub, if_true, Bool.false_eq_true, if_false] <;> rfl
  · refine List.forall₂_map_right_iff.mpr (derives.imp fun entity item found => ?_)
    obtain ⟨rfl, surfaced, chains, woven, kept⟩ := found
    exact ⟨item.surface, chains, surfaced, woven, rfl, rfl, rfl, rfl,
      fun _ _ => Surface.find?_members_of_derive surfaced,
      Surface.operations_group_of_derive surfaced,
      fun _ => Surface.listed_iff_of_derive surfaced, congrArg (List.map HookChain.woven) kept, rfl⟩

/-- Customers and their invoices. -/
def manifestedInvoices : List Command :=
  Demo.Sales.categories ++ Demo.Sales.customers ++ Demo.Sales.invoices ++ [.finish]

/-- The manifest lists customers, then invoices. -/
theorem manifest_of_generate_invoices :
    let schema := (({ name := "sales" } : Schema).executeAll manifestedInvoices).1
    ∃ project, schema.generate {} = .ok project ∧
      ∃ manifest : Manifest, project.filesOfKind .json =
          [{ path := "manifest.json", content := manifest.text, kind := .json }] ∧
        manifest.entities.map ManifestEntity.entity =
          [Demo.Sales.customer, Demo.Sales.invoice] := by
  intro schema
  have derivable : (schema.deriveAll DerivationRule.standard).toOption.isSome = true := by
    decide +kernel
  have keys : schema.entities.map Entity.key = [Demo.Sales.customer, Demo.Sales.invoice] := by
    decide +kernel
  obtain ⟨project, generated⟩ := exists_generate_of_deriveAll {} derivable
  obtain ⟨manifest, written, -, entries⟩ := manifest_of_generate generated rfl
  have same : List.Forall₂ (· = ·) (manifest.entities.map ManifestEntity.entity)
      (schema.entities.map Entity.key) := by
    rw [List.forall₂_map_left_iff, List.forall₂_map_right_iff]
    refine (entries.imp ?_).flip
    rintro entity entry ⟨surface, chains, -, -, named, -⟩
    exact named
  rw [List.forall₂_eq_eq_eq] at same
  exact ⟨project, generated, manifest, written, same.trans keys⟩

end Schema

end EntitySurface
