import EntitySurface.Proofs.Derivation.Names
import EntitySurface.Proofs.Entity.Modules
import EntitySurface.Proofs.Schema.Files
import Mathlib.Data.List.Nodup

/-!
# Paths of stubs

Each entity has a module, and each directory that modules stand in has a file that declares them.
These files share a path only where two entities have the same directory and the same name in snake
case, or where a module bears the name of the declaring file.
-/

namespace EntitySurface

namespace Dictionary

variable {α : Type}

theorem nodup_keys (dictionary : Dictionary α) : dictionary.keys.Nodup :=
  List.pairwise_map.mpr (dictionary.ordered.imp String.ne_of_lt)

theorem mem_keys_iff {dictionary : Dictionary α} {key : String} :
    key ∈ dictionary.keys ↔ (dictionary.find? key).isSome = true := by
  rw [keys, find?]
  induction dictionary.entries with
  | nil => simp
  | cons entry rest ih =>
      obtain ⟨first, value⟩ := entry
      rw [List.map_cons, List.mem_cons, ih, lookup_cons_entry]
      split <;> simp_all

theorem mem_keys_insert {dictionary : Dictionary α} {key other : String} {value : α} :
    other ∈ (dictionary.insert key value).keys ↔ other = key ∨ other ∈ dictionary.keys := by
  rw [mem_keys_iff, mem_keys_iff, find?_insert]
  split <;> simp_all

end Dictionary

/-- No two entities give the same directories and the same file, and none gives the file that
declares the modules of its directory. -/
def Entity.ModulesApart (entities : List Entity) : Prop :=
  (entities.Pairwise fun first second =>
    namespacePath first.key.space = namespacePath second.key.space →
      first.moduleName ≠ second.moduleName) ∧
  ∀ entity ∈ entities, entity.moduleName ≠ "mod"

instance (entities : List Entity) : Decidable (Entity.ModulesApart entities) :=
  inferInstanceAs (Decidable (_ ∧ _))

/-! ## First lines -/

namespace Stub

/-- A module names its entity in the first line. -/
theorem Module.text_eq_of_content_eq {first second : Module}
    (firstLine : '\n' ∉ first.entity.text.toList) (secondLine : '\n' ∉ second.entity.text.toList)
    (same : first.file.content = second.file.content) : first.entity.text = second.entity.text := by
  simp only [Module.file, String.append_assoc, String.append_right_inj] at same
  have lists := congrArg String.toList same
  simp only [String.toList_append] at lists
  exact String.toList_inj.mp ((append_cons_inj_of_first firstLine secondLine).mp lists).1

theorem Module.content_ne_directoryFile (module' : Module) (directory : String)
    (modules : List String) :
    module'.file.content ≠ (directoryFile directory modules).content := by
  simp only [Module.file, directoryFile, String.append_assoc]
  exact Text.append_ne_append (by decide) _ _

end Stub

/-! ## Paths -/

namespace StubEmitter

variable {entities : List Entity}

/-- The directories that modules of the entities stand in. -/
def directoriesOf (entities : List Entity) : List String :=
  (entities.foldl declare .empty).keys

theorem mem_directoriesOf_iff {directory : String} :
    directory ∈ directoriesOf entities ↔
      ∃ entity ∈ entities, entity.moduleDirectory = directory := by
  have declared (modules : Dictionary (List String)) :
      directory ∈ (entities.foldl declare modules).keys ↔
        directory ∈ modules.keys ∨ ∃ entity ∈ entities, entity.moduleDirectory = directory := by
    induction entities generalizing modules with
    | nil => simp
    | cons entity rest ih =>
        rw [List.foldl_cons, ih, declare, Dictionary.mem_keys_insert, List.exists_mem_cons_iff,
          eq_comm (a := directory), or_assoc, or_left_comm]
  rw [directoriesOf, declared]
  simp [Dictionary.keys, Dictionary.empty]

/-- The paths of the modules, and of the files that declare them. -/
def pathsOf (entities : List Entity) : List String :=
  entities.map Entity.modulePath ++
    (directoriesOf entities).map fun directory => directory ++ "/" ++ "mod.rs"

theorem path_directoryFile (directory : String) (modules : List String) :
    (Stub.directoryFile directory modules).path = directory ++ "/" ++ "mod.rs" := by
  rw [String.append_assoc]
  rfl

theorem map_path_filesOf (docs : Bool) (derived : List DerivedEntity) :
    (filesOf docs derived).map GeneratedFile.path =
      pathsOf (derived.map DerivedEntity.entity) := by
  rw [filesOf, pathsOf, directoriesOf, Dictionary.keys, List.map_append]
  congr 1
  · rw [List.map_map, List.map_map]
    exact List.map_congr_left fun item _ => item.stubModule_path docs
  · rw [List.map_map, List.map_map]
    exact List.map_congr_left fun entry _ => path_directoryFile entry.1 entry.2

/-- Everything that stubs are written to stands below one directory. -/
theorem exists_src_append {path : String} (mem : path ∈ pathsOf entities) :
    ∃ rest, path = "src/" ++ rest := by
  rcases List.mem_append.mp mem with module' | declaring
  · obtain ⟨entity, -, rfl⟩ := List.mem_map.mp module'
    simp only [Entity.modulePath, Entity.moduleDirectory, String.append_assoc]
    exact ⟨_, rfl⟩
  · obtain ⟨directory, declared, rfl⟩ := List.mem_map.mp declaring
    obtain ⟨entity, -, rfl⟩ := mem_directoriesOf_iff.mp declared
    simp only [Entity.moduleDirectory, String.append_assoc]
    exact ⟨_, rfl⟩

variable (named : ∀ entity ∈ entities, entity.key.IsNamed)
include named

theorem isPlainPath_of_mem_pathsOf {path : String} (mem : path ∈ pathsOf entities) :
    IsPlainPath path ∧ HasExtension path := by
  rcases List.mem_append.mp mem with module' | declaring
  · obtain ⟨entity, among, rfl⟩ := List.mem_map.mp module'
    exact Entity.isPlainPath_modulePath (named entity among)
  · obtain ⟨directory, declared, rfl⟩ := List.mem_map.mp declaring
    obtain ⟨entity, among, rfl⟩ := mem_directoriesOf_iff.mp declared
    exact Entity.isPlainPath_beside (named entity among) (by decide) (by decide) (by decide)

/-- The modules stand at different paths when entities in the same directory have different names in
snake case. -/
theorem nodup_modulePaths_iff :
    (entities.map Entity.modulePath).Nodup ↔
      entities.Pairwise fun first second =>
        namespacePath first.key.space = namespacePath second.key.space →
          first.moduleName ≠ second.moduleName := by
  rw [List.Nodup, List.pairwise_map]
  apply List.Pairwise.iff_of_mem
  intro first second firstMem secondMem
  rw [Ne, Entity.modulePath_inj (named first firstMem) (named second secondMem), not_and]

/-- All stubs are written to different paths when no module stands where another stub stands. -/
theorem nodup_pathsOf_iff : (pathsOf entities).Nodup ↔ Entity.ModulesApart entities := by
  have declaring :
      ((directoriesOf entities).map fun directory => directory ++ "/" ++ "mod.rs").Nodup :=
    (Dictionary.nodup_keys _).map fun _ _ same =>
      (String.append_left_inj _).mp ((String.append_left_inj _).mp same)
  rw [pathsOf, List.nodup_append, nodup_modulePaths_iff named, Entity.ModulesApart]
  simp only [declaring, true_and, and_congr_right_iff]
  intro _
  constructor
  · intro apart entity mem isMod
    have declared := mem_directoriesOf_iff.mpr ⟨entity, mem, rfl⟩
    exact apart _ (List.mem_map_of_mem mem) _ (List.mem_map_of_mem declared)
      ((Entity.modulePath_eq_below_iff (named entity mem)).mpr ⟨rfl, isMod⟩)
  · intro free path module' other isDeclaring same
    obtain ⟨entity, mem, rfl⟩ := List.mem_map.mp module'
    obtain ⟨directory, -, rfl⟩ := List.mem_map.mp isDeclaring
    exact free entity mem ((Entity.modulePath_eq_below_iff (named entity mem)).mp same).2

/-! ## Contents -/

variable {docs : Bool} {derived : List DerivedEntity}
  (sources : derived.map DerivedEntity.entity = entities)
include sources

omit named in
theorem exists_module_of_mem {entity : Entity} (mem : entity ∈ entities) :
    ∃ module' : Stub.Module, module'.file ∈ filesOf docs derived ∧
      module'.path = entity.modulePath ∧ module'.entity = entity.key := by
  rw [← sources] at mem
  obtain ⟨item, among, rfl⟩ := List.mem_map.mp mem
  exact ⟨item.stubModule docs, List.mem_append_left _ (List.mem_map_of_mem among),
    item.stubModule_path docs, item.stubModule_entity docs⟩

omit named in
theorem exists_directoryFile_of_mem {entity : Entity} (mem : entity ∈ entities) :
    ∃ modules, Stub.directoryFile entity.moduleDirectory modules ∈ filesOf docs derived := by
  obtain ⟨⟨directory, modules⟩, entered, same⟩ :=
    List.mem_map.mp (mem_directoriesOf_iff.mpr ⟨entity, mem, rfl⟩)
  rw [← sources] at entered
  exact ⟨modules, List.mem_append_right _ (List.mem_map.mpr ⟨_, entered, by rw [← same]⟩)⟩

/-- Stubs that share a path differ in their contents. So they are all there in the end only if they
share none. -/
theorem modulesApart_of_contents (keys : (entities.map Entity.key).Nodup)
    (same : ∀ file ∈ filesOf docs derived, ∀ other ∈ filesOf docs derived,
      file.path = other.path → file.content = other.content) : Entity.ModulesApart entities := by
  constructor
  · refine (List.pairwise_map.mp keys).imp_of_mem ?_
    intro first second firstMem secondMem differ sameSpace sameName
    obtain ⟨module', written, path, key⟩ := exists_module_of_mem sources firstMem
    obtain ⟨other, otherWritten, otherPath, otherKey⟩ := exists_module_of_mem sources secondMem
    have firstNamed := named first firstMem
    have secondNamed := named second secondMem
    have paths : module'.path = other.path := by
      rw [path, otherPath, Entity.modulePath_inj firstNamed secondNamed]
      exact ⟨sameSpace, sameName⟩
    rw [← key] at differ firstNamed
    rw [← otherKey] at differ secondNamed
    have oneLine {key : EntityKey} (keyNamed : key.IsNamed) : '\n' ∉ key.text.toList :=
      keyNamed.not_mem_text (by decide) (by decide)
    have texts := Stub.Module.text_eq_of_content_eq (oneLine firstNamed) (oneLine secondNamed)
      (same _ written _ otherWritten paths)
    exact differ ((firstNamed.text_inj secondNamed).mp texts)
  · intro entity mem isMod
    obtain ⟨module', written, path, -⟩ := exists_module_of_mem sources mem
    obtain ⟨modules, declaring⟩ := exists_directoryFile_of_mem sources mem
    have paths : module'.path = (Stub.directoryFile entity.moduleDirectory modules).path := by
      rw [path, path_directoryFile, Entity.modulePath_eq_below_iff (named entity mem)]
      exact ⟨rfl, isMod⟩
    exact module'.content_ne_directoryFile _ _ (same _ written _ declaring paths)

end StubEmitter

end EntitySurface
