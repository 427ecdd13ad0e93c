import EntitySurface.Demo
import EntitySurface.Proofs.Emission.Directories
import EntitySurface.Proofs.FileTree.Room
import EntitySurface.Proofs.Schema.Invariant

/-!
# Files that keep their places

Names are kept apart up to case, but files stand at paths in snake case. So the files of a project
can share a path, and then the one that is written later is all that is left. This happens to stubs
only, and only where the names of entities make it happen.
-/

namespace EntitySurface.Schema

variable {schema : Schema} {settings : GenerationSettings} {rules : List DerivationRule}
  {project : Project}

/-- The paths of the files that the settings ask for. -/
def pathsOf (schema : Schema) (settings : GenerationSettings) : List String :=
  (if settings.emitStubs then StubEmitter.pathsOf schema.entities else []) ++
  ((if settings.emitManifest then ["manifest.json"] else []) ++
    if settings.generateDocs then ["OPERATIONS.md"] else [])

theorem map_entity_of_derives {entities : List Entity} {derived : List DerivedEntity}
    (derives : List.Forall₂ (fun entity item => item.Derives rules entity) entities derived) :
    derived.map DerivedEntity.entity = entities := by
  induction derives with
  | nil => rfl
  | cons found _ ih => rw [List.map_cons, found.source, ih]

/-- The paths of a project depend on the entities only, and the stubs are among its files. -/
theorem exists_filesOf_of_generate (generated : schema.generate settings rules = .ok project) :
    project.files.map GeneratedFile.path = schema.pathsOf settings ∧
      ∃ derived : List DerivedEntity, derived.map DerivedEntity.entity = schema.entities ∧
        (settings.emitStubs = true →
          StubEmitter.filesOf settings.generateDocs derived ⊆ project.files) := by
  obtain ⟨derived, derives, files⟩ := exists_derived_of_generate generated
  have sources := map_entity_of_derives derives
  refine ⟨?_, derived, sources, fun asked => ?_⟩
  · rw [files, pathsOf, List.map_append, List.map_append, List.append_assoc, ← sources,
      ← StubEmitter.map_path_filesOf settings.generateDocs]
    cases settings.emitStubs <;> cases settings.emitManifest <;> cases settings.generateDocs <;> rfl
  · rw [files, if_pos asked, List.append_assoc]
    exact List.subset_append_left _ _

section Named

variable (named : ∀ entity ∈ schema.entities, entity.key.IsNamed)
include named

theorem isPlainPath_of_mem_pathsOf {path : String} (mem : path ∈ schema.pathsOf settings) :
    IsPlainPath path ∧ HasExtension path := by
  have manifest : IsPlainPath "manifest.json" ∧ HasExtension "manifest.json" :=
    ⟨.of_long (by decide) (by decide), [], _, rfl, by decide, nofun⟩
  have index : IsPlainPath "OPERATIONS.md" ∧ HasExtension "OPERATIONS.md" :=
    ⟨.of_long (by decide) (by decide), [], _, rfl, by decide, nofun⟩
  simp only [pathsOf, List.mem_append, List.mem_ite_nil_right, List.mem_singleton] at mem
  rcases mem with ⟨-, stub⟩ | ⟨-, rfl⟩ | ⟨-, rfl⟩
  · exact StubEmitter.isPlainPath_of_mem_pathsOf named stub
  · exact manifest
  · exact index

/-- Only stubs can share a path. -/
theorem nodup_pathsOf_iff :
    (schema.pathsOf settings).Nodup ↔
      (settings.emitStubs = true → Entity.ModulesApart schema.entities) := by
  have others : ((if settings.emitManifest then ["manifest.json"] else []) ++
      if settings.generateDocs then ["OPERATIONS.md"] else []).Nodup := by
    cases settings.emitManifest <;> cases settings.generateDocs <;> decide
  have elsewhere {fixed : String} (apart : Text.areApart "src/" fixed = true) :
      ∀ path ∈ StubEmitter.pathsOf schema.entities, path ≠ fixed := by
    intro path mem
    obtain ⟨rest, rfl⟩ := StubEmitter.exists_src_append mem
    simpa using Text.append_ne_append apart rest ""
  rw [pathsOf, List.nodup_append, ← StubEmitter.nodup_pathsOf_iff named]
  cases settings.emitStubs with
  | false => simp [others]
  | true =>
      simp only [if_true, others, true_and, forall_const, and_iff_left_iff_imp]
      intro _ path stub other fixed
      simp only [List.mem_append, List.mem_ite_nil_right, List.mem_singleton] at fixed
      rcases fixed with ⟨-, rfl⟩ | ⟨-, rfl⟩
      · exact elsewhere (by decide) path stub
      · exact elsewhere (by decide) path stub

end Named

/-! ## What is left on the disk -/

section Written

variable {directory : String} {tree written : FileTree}

theorem isPlainPath_of_generate (named : ∀ entity ∈ schema.entities, entity.key.IsNamed)
    (generated : schema.generate settings rules = .ok project) {file : GeneratedFile}
    (mem : file ∈ project.files) : IsPlainPath file.path ∧ HasExtension file.path := by
  have paths := (exists_filesOf_of_generate generated).1
  have among : file.path ∈ schema.pathsOf settings := paths ▸ List.mem_map_of_mem mem
  exact isPlainPath_of_mem_pathsOf named among

/-- Where nothing is in the way of any file, all files are written. -/
theorem exists_written_of_generate (named : ∀ entity ∈ schema.entities, entity.key.IsNamed)
    (generated : schema.generate settings rules = .ok project)
    (admits : ∀ file ∈ project.files, tree.Admits (pathBelow directory file.path)) :
    ∃ written, Project.writeFiles directory project.files tree = (written, none) := by
  apply Project.exists_writeFiles (fun _ mem => (isPlainPath_of_generate named generated mem).1) _
    admits
  intro file mem other otherMem onWay
  obtain ⟨plain, extended⟩ := isPlainPath_of_generate named generated mem
  obtain ⟨otherPlain, otherExtended⟩ := isPlainPath_of_generate named generated otherMem
  rw [HasExtension.eq_of_prefix directory plain otherPlain extended otherExtended onWay]

/-- All files are there in the end if and only if no two of them share a path. -/
theorem written_eq_iff_of_generate (named : ∀ entity ∈ schema.entities, entity.key.IsNamed)
    (keys : (schema.entities.map Entity.key).Nodup)
    (generated : schema.generate settings rules = .ok project)
    (done : Project.writeFiles directory project.files tree = (written, none)) :
    (∀ file ∈ project.files,
        written.read? (pathBelow directory file.path) = some file.content) ↔
      (settings.emitStubs = true → Entity.ModulesApart schema.entities) := by
  obtain ⟨paths, derived, sources, stubs⟩ := exists_filesOf_of_generate generated
  constructor
  · intro kept asked
    apply StubEmitter.modulesApart_of_contents named sources keys
    intro file mem other otherMem same
    have read := kept file (stubs asked mem)
    rw [same, kept other (stubs asked otherMem)] at read
    exact (Option.some.inj read).symm
  · intro apart file mem
    have distinct : (project.files.map GeneratedFile.path).Nodup := by
      rw [paths]
      exact (nodup_pathsOf_iff named).mpr apart
    rw [Project.read?_of_writeFiles (fun _ mem => (isPlainPath_of_generate named generated mem).1)
      done mem, Project.lastAt_eq_some distinct mem]
    rfl

end Written

namespace Reachable

/-- The files of a project have different paths, unless stubs are emitted and the names of entities
stand in the way: two entities give the same directories and the same name in snake case, or the
name is that of the file which declares the modules of a directory. Writing succeeds where nothing
is in the way of a file, and in the end every file has its content under the same condition. -/
theorem files_kept_iff (reached : schema.Reachable)
    (generated : schema.generate settings rules = .ok project) :
    ((project.files.map GeneratedFile.path).Nodup ↔
      (settings.emitStubs = true → Entity.ModulesApart schema.entities)) ∧
    ∀ (directory : String) (tree : FileTree),
      ((∀ file ∈ project.files, tree.Admits (pathBelow directory file.path)) →
        ∃ written, Project.writeFiles directory project.files tree = (written, none)) ∧
      ∀ written, Project.writeFiles directory project.files tree = (written, none) →
        ((∀ file ∈ project.files,
            written.read? (pathBelow directory file.path) = some file.content) ↔
          (settings.emitStubs = true → Entity.ModulesApart schema.entities)) := by
  have named : ∀ entity ∈ schema.entities, entity.key.IsNamed := fun _ => reached.isNamed
  constructor
  · rw [(exists_filesOf_of_generate generated).1]
    exact nodup_pathsOf_iff named
  · exact fun directory tree => ⟨exists_written_of_generate named generated,
      fun written => written_eq_iff_of_generate named reached.wellFormed.nodup_keys generated⟩

/-- Invoices of customers, to be written. -/
def writtenInvoices : List Command :=
  Demo.Sales.categories ++ Demo.Sales.customers ++ Demo.Sales.invoices ++ [.finish]

/-- All files of customers and invoices are there after writing. -/
theorem files_kept_invoices :
    let schema := (({ name := "sales" } : Schema).executeAll writtenInvoices).1
    ∃ project, schema.generate {} = .ok project ∧
      ∃ written, Project.writeFiles "generated" project.files {} = (written, none) ∧
        ∀ file ∈ project.files,
          written.read? (pathBelow "generated" file.path) = some file.content := by
  intro schema
  have derivable : (schema.deriveAll DerivationRule.standard).toOption.isSome = true := by
    decide +kernel
  have apart : Entity.ModulesApart schema.entities := by decide +kernel
  have fits : ∀ path ∈ schema.pathsOf {}, isPathTaken (pathBelow "generated" path) = true ∧
      PathStep.up ∉ pathSteps (pathBelow "generated" path) ∧
      (∀ name ∈ placeOf (pathBelow "generated" path),
        name.utf8ByteSize ≤ FileTree.maxNameBytes) ∧
      placeOf (pathBelow "generated" path) ≠ [] := by
    decide +kernel
  obtain ⟨project, generated⟩ := exists_generate_of_deriveAll {} derivable
  have reached : schema.Reachable := (Reachable.start "sales").executeAll writtenInvoices
  obtain ⟨-, writing⟩ := reached.files_kept_iff generated
  have admits : ∀ file ∈ project.files,
      ({} : FileTree).Admits (pathBelow "generated" file.path) := by
    intro file mem
    have paths := (exists_filesOf_of_generate generated).1
    obtain ⟨taken, down, short, below⟩ := fits file.path (paths ▸ List.mem_map_of_mem mem)
    exact FileTree.admits_empty taken down short below
  obtain ⟨written, done⟩ := (writing "generated" {}).1 admits
  exact ⟨project, generated, written, done, ((writing "generated" {}).2 written done).mpr
    fun _ => apart⟩

/-- An entity with the name of the file that declares modules. -/
def storedMods : List Command :=
  [.entity "sales" "Mod" "Mod",
   Demo.attach ⟨"sales", "Mod"⟩ (.ofKind .storedObject),
   Demo.attach ⟨"sales", "Mod"⟩ (.ofKind .uniqueIdentified),
   .finish]

/-- The module of the entity is not left after writing. -/
theorem files_lost_mods :
    let schema := (({ name := "sales" } : Schema).executeAll storedMods).1
    schema.Reachable ∧ schema.phase = .finalized ∧
      (schema.validate ValidationRule.standard).isValid = true ∧
      ∃ project, schema.generate {} = .ok project ∧
        ¬(project.files.map GeneratedFile.path).Nodup ∧
        ∀ (directory : String) (tree written : FileTree),
          Project.writeFiles directory project.files tree = (written, none) →
            ∃ file ∈ project.files,
              written.read? (pathBelow directory file.path) ≠ some file.content := by
  intro schema
  have derivable : (schema.deriveAll DerivationRule.standard).toOption.isSome = true := by
    decide +kernel
  have mixed : ¬(true = true → Entity.ModulesApart schema.entities) := by decide +kernel
  obtain ⟨project, generated⟩ := exists_generate_of_deriveAll {} derivable
  have reached : schema.Reachable := (Reachable.start "sales").executeAll storedMods
  have named : ∀ entity ∈ schema.entities, entity.key.IsNamed := fun _ => reached.isNamed
  refine ⟨reached, by decide +kernel, by decide +kernel, project, generated, ?_, ?_⟩
  · rw [(exists_filesOf_of_generate generated).1, nodup_pathsOf_iff named]
    exact mixed
  · intro directory tree written done
    by_contra kept
    simp only [not_exists, not_and, not_not] at kept
    exact mixed ((written_eq_iff_of_generate named reached.wellFormed.nodup_keys generated
      done).mp kept)

end Reachable

end EntitySurface.Schema
