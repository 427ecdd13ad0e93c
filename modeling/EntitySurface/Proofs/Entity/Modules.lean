import EntitySurface.Derivation.Arguments
import EntitySurface.Proofs.FileTree.Paths
import EntitySurface.Proofs.Text.Spelling

/-!
# Where the module of an entity stands

A namespace gives a directory for each of its segments, and an entity gives the file in them, all
named in snake case. The names that composition accepts are made of name characters, so each gives
one piece of a path. The path then tells the directory and the file, but not the names, since snake
case forgets capital letters and some underscores.
-/

namespace EntitySurface

namespace Name

/-- The characters of one segment of a namespace. -/
structure IsSegment (segment : List Char) : Prop where
  letter : ∃ c ∈ segment, c.isLower = true
  named : ∀ c ∈ segment, isNameChar c = true

theorem isNameChar_of_isSegmentChar {c : Char} (segment : isSegmentChar c = true) :
    isNameChar c = true := by
  simp only [isSegmentChar, Bool.or_eq_true] at segment
  rcases segment with (lower | digit) | underscore
  · exact isNameChar_of_isLower lower
  · simp [isNameChar, Char.isAlphanum, digit]
  · simp [isNameChar, underscore]

theorem ne_of_isNameChar {c other : Char} (named : isNameChar c = true)
    (separates : isNameChar other = false) : c ≠ other := by
  rintro rfl
  rw [named] at separates
  contradiction

theorem isSegment_of_isSmallName {segment : List Char}
    (small : Text.isSmallName (String.ofList segment) = true) : IsSegment segment := by
  obtain ⟨c, rest, chars, letter, named⟩ := Text.isSmallName_iff.mp small
  rw [String.toList_ofList] at chars named
  exact ⟨⟨c, chars ▸ List.mem_cons_self, letter⟩,
    fun d mem => isNameChar_of_isSegmentChar (named d mem)⟩

theorem segments_eq_splitOn (space : List Char) :
    namespacePath.segments space = space.splitOn '.' := by
  induction space with
  | nil => rfl
  | cons c rest ih =>
      rw [namespacePath.segments, ih]
      by_cases dot : c = '.'
      · rw [if_pos dot, dot, splitOn_cons_dot]
      · obtain ⟨first, others, split⟩ := List.exists_cons_of_ne_nil (List.splitOn_ne_nil '.' rest)
        rw [if_neg dot, split, splitOn_cons_of_ne dot split]

/-- A namespace is made of name characters and dots. -/
theorem eq_or_isNameChar_of_isSegmentTail {rest : List Char} (tail : isSegmentTail rest = true) :
    ∀ c ∈ rest, c = '.' ∨ isNameChar c = true := by
  fun_induction isSegmentTail rest with
  | case1 => exact List.forall_mem_nil _
  | case2 c rest ih =>
      simp only [Bool.and_eq_true] at tail
      exact List.forall_mem_cons.mpr ⟨Or.inl rfl,
        List.forall_mem_cons.mpr ⟨Or.inr (isNameChar_of_isLower tail.1), ih tail.2⟩⟩
  | case3 c rest noDot ih =>
      simp only [Bool.and_eq_true] at tail
      exact List.forall_mem_cons.mpr ⟨Or.inr (isNameChar_of_isSegmentChar tail.1), ih tail.2⟩

theorem eq_or_isNameChar_of_namespaceProblem?_eq_none {space : String}
    (valid : namespaceProblem? space = none) :
    ∀ c ∈ space.toList, c = '.' ∨ isNameChar c = true := by
  have shape := namespaceProblem?_eq_none_iff.mp valid
  cases chars : space.toList with
  | nil => nofun
  | cons c rest =>
      simp only [isNamespace, chars, isNamespaceShape, Bool.and_eq_true] at shape
      exact List.forall_mem_cons.mpr
        ⟨Or.inr (isNameChar_of_isLower shape.1), eq_or_isNameChar_of_isSegmentTail shape.2⟩

theorem isSegment_of_namespaceProblem?_eq_none {space : String}
    (valid : namespaceProblem? space = none) :
    namespacePath.segments space.toList ≠ [] ∧
      ∀ segment ∈ namespacePath.segments space.toList, IsSegment segment := by
  have shape := namespaceProblem?_eq_none_iff.mp valid
  rw [isNamespace, isNamespaceShape_eq_all, List.all_eq_true] at shape
  rw [segments_eq_splitOn]
  exact ⟨List.splitOn_ne_nil '.' _, fun segment mem => isSegment_of_isSmallName (shape segment mem)⟩

end Name

open Name pathParts

/-! ## Directories -/

/-- Some name characters, and nothing else. -/
structure IsNamePiece (piece : List Char) : Prop where
  ne_nil : piece ≠ []
  named : ∀ c ∈ piece, isNameChar c = true

namespace IsNamePiece

variable {piece : List Char} (isNamePiece : IsNamePiece piece)
include isNamePiece

theorem not_mem {c : Char} (separates : isNameChar c = false) : c ∉ piece :=
  fun mem => ne_of_isNameChar (isNamePiece.named c mem) separates rfl

/-- Name characters lead down. -/
theorem leadsDown : isIdlePiece piece = false ∧ piece ≠ ['.', '.'] := by
  obtain ⟨c, rest, rfl⟩ := List.exists_cons_of_ne_nil isNamePiece.ne_nil
  have first : c ≠ '.' := by
    rintro rfl
    exact isNamePiece.not_mem (by decide) List.mem_cons_self
  simp [isIdlePiece, first]

end IsNamePiece

theorem Name.IsSegment.isNamePiece {segment : List Char} (isSegment : IsSegment segment) :
    IsNamePiece (Text.snakeCase (String.ofList segment)).toList := by
  obtain ⟨⟨letter, mem, lower⟩, named⟩ := isSegment
  have named : ∀ c ∈ (String.ofList segment).toList, isNameChar c = true := by simpa using named
  have mem : letter ∈ (String.ofList segment).toList := by simpa using mem
  have ascii : Text.IsAscii (String.ofList segment) := fun c mem => isNameChar_ascii (named c mem)
  have kept : Text.isAlphanumeric letter = true := by
    rw [Text.isAlphanumeric_of_ascii (ascii letter mem)]
    show (letter.isUpper || letter.isLower || letter.isDigit) = true
    simp [lower]
  exact ⟨List.ne_nil_of_mem (Text.toLower_mem_snakeCase ascii mem kept),
    fun c => Text.isNameChar_of_mem_snakeCase named⟩

/-- A namespace gives a piece for each of its segments. -/
theorem isNamePiece_of_mem_namespacePath {space : String} (valid : namespaceProblem? space = none)
    {piece : List Char} (mem : piece ∈ pieces (namespacePath space).toList) :
    IsNamePiece piece := by
  obtain ⟨nonempty, segments⟩ := isSegment_of_namespaceProblem?_eq_none valid
  let names := (namespacePath.segments space.toList).map fun segment =>
    (Text.snakeCase (String.ofList segment)).toList
  have snake : ∀ name ∈ names, IsNamePiece name := by
    intro name among
    obtain ⟨segment, inSpace, rfl⟩ := List.mem_map.mp among
    exact (segments segment inSpace).isNamePiece
  have whole : ∀ name ∈ names, '/' ∉ name :=
    fun name among => (snake name among).not_mem (by decide)
  have split : pieces (namespacePath space).toList = names := by
    rw [namespacePath, String.toList_intercalate, List.map_map]
    exact pieces_intercalate whole (by simpa [names] using nonempty)
  rw [split] at mem
  exact snake piece mem

/-! ## Modules -/

/-- The name and the namespace are accepted by composition. -/
structure EntityKey.IsNamed (key : EntityKey) : Prop where
  identifier : identifierProblem? key.name = none
  namespaced : namespaceProblem? key.space = none

namespace EntityKey.IsNamed

variable {key : EntityKey} (named : key.IsNamed)
include named

theorem not_mem_name {c : Char} (separates : isNameChar c = false) : c ∉ key.name.toList :=
  fun mem => ne_of_isNameChar
    (isNameChar_of_identifierProblem?_eq_none named.identifier c mem) separates rfl

/-- The written form is made of name characters and dots. -/
theorem not_mem_text {c : Char} (separates : isNameChar c = false) (noDot : c ≠ '.') :
    c ∉ key.text.toList := by
  have inSpace : c ∉ key.space.toList := by
    intro mem
    rcases eq_or_isNameChar_of_namespaceProblem?_eq_none named.namespaced _ mem with dot | inside
    · exact noDot dot
    · simp [separates] at inside
  simp [text, inSpace, noDot, named.not_mem_name separates]

/-- The written form tells the key. -/
theorem text_inj {other : EntityKey} (otherNamed : other.IsNamed) :
    key.text = other.text ↔ key = other := by
  have dot : isNameChar '.' = false := by decide
  have around : key.text.toList = other.text.toList ↔
      key.space.toList = other.space.toList ∧ key.name.toList = other.name.toList := by
    rw [← append_cons_inj_of_last (named.not_mem_name dot) (otherNamed.not_mem_name dot)]
    simp [text]
  rw [← String.toList_inj, around, String.toList_inj, String.toList_inj, EntityKey.mk.injEq]

end EntityKey.IsNamed

namespace Entity

theorem moduleDirectory_inj {first second : Entity} :
    first.moduleDirectory = second.moduleDirectory ↔
      namespacePath first.key.space = namespacePath second.key.space := by
  rw [moduleDirectory, moduleDirectory, String.append_right_inj]

theorem modulePath_eq (entity : Entity) :
    entity.modulePath = entity.moduleDirectory ++ "/" ++ (entity.moduleName ++ ".rs") := by
  rw [modulePath, String.append_assoc]

variable {entity : Entity} (named : entity.key.IsNamed)
include named

theorem isNamePiece_of_mem_moduleDirectory {piece : List Char}
    (mem : piece ∈ pieces entity.moduleDirectory.toList) : IsNamePiece piece := by
  have split : pieces entity.moduleDirectory.toList =
      pieces "src".toList ++ pieces (namespacePath entity.key.space).toList :=
    pieces_below "src" _
  rw [split, pieces_eq_singleton (by decide), List.singleton_append, List.mem_cons] at mem
  rcases mem with rfl | inNamespace
  · have named : "src".toList.all isNameChar = true := by decide
    exact ⟨by decide, List.all_eq_true.mp named⟩
  · exact isNamePiece_of_mem_namespacePath named.namespaced inNamespace

/-- A file with an extension beside the module of the entity has a plain path, and the directories
on it have no dots. -/
theorem isPlainPath_beside {file : String} (whole : '/' ∉ file.toList)
    (long : 2 < file.toList.length) (dotted : '.' ∈ file.toList) :
    IsPlainPath (entity.moduleDirectory ++ "/" ++ file) ∧
      HasExtension (entity.moduleDirectory ++ "/" ++ file) := by
  constructor
  · apply IsPlainPath.below _ (.of_long whole long)
    exact fun piece mem => (isNamePiece_of_mem_moduleDirectory named mem).leadsDown
  · refine ⟨_, _, ?_, dotted, fun piece mem =>
      (isNamePiece_of_mem_moduleDirectory named mem).not_mem (by decide)⟩
    rw [pieces_below, pieces_eq_singleton whole]

theorem slash_not_mem_moduleFile : '/' ∉ (entity.moduleName ++ ".rs").toList := by
  have inName : '/' ∉ entity.moduleName.toList := fun mem => ne_of_isNameChar
    (Text.isNameChar_of_mem_snakeCase
      (isNameChar_of_identifierProblem?_eq_none named.identifier) mem) (by decide) rfl
  simpa using inName

theorem isPlainPath_modulePath :
    IsPlainPath entity.modulePath ∧ HasExtension entity.modulePath := by
  rw [modulePath_eq]
  exact isPlainPath_beside named (slash_not_mem_moduleFile named) (by simp) (by simp)

/-- Modules stand at different paths unless directories and file names both agree. -/
theorem modulePath_inj {other : Entity} (otherNamed : other.key.IsNamed) :
    entity.modulePath = other.modulePath ↔
      namespacePath entity.key.space = namespacePath other.key.space ∧
        entity.moduleName = other.moduleName := by
  rw [modulePath_eq, modulePath_eq, append_slash_inj (slash_not_mem_moduleFile named)
    (slash_not_mem_moduleFile otherNamed), moduleDirectory_inj, String.append_left_inj]

/-- A module takes the place of the file that declares the modules of a directory exactly if it has
the name of that file. -/
theorem modulePath_eq_below_iff {directory : String} :
    entity.modulePath = directory ++ "/" ++ "mod.rs" ↔
      entity.moduleDirectory = directory ∧ entity.moduleName = "mod" := by
  have file : "mod.rs" = "mod" ++ ".rs" := rfl
  rw [modulePath_eq, file, append_slash_inj (slash_not_mem_moduleFile named) (by decide),
    String.append_left_inj]

end Entity

end EntitySurface
