import EntitySurface.FileTree
import Mathlib.Data.List.TakeWhile

/-!
# Where a path leads

The place that a path leads to is found by going through its steps, whatever stands there. A plain
path goes down at every step, so below one directory different plain paths lead to different places.
-/

namespace EntitySurface

/-! ## Around a separator -/

section Separator

variable {α : Type} {separator : α} {before otherBefore after otherAfter : List α}

/-- A list tells what stands before and after the first separator in it. -/
theorem append_cons_inj_of_first (first : separator ∉ before)
    (otherFirst : separator ∉ otherBefore) :
    before ++ separator :: after = otherBefore ++ separator :: otherAfter ↔
      before = otherBefore ∧ after = otherAfter := by
  induction before generalizing otherBefore with
  | nil =>
      cases otherBefore with
      | nil => simp
      | cons c rest => simp [List.ne_of_not_mem_cons otherFirst]
  | cons c rest ih =>
      cases otherBefore with
      | nil => simp [(List.ne_of_not_mem_cons first).symm]
      | cons d otherRest =>
          have inner := ih (List.not_mem_of_not_mem_cons first)
            (List.not_mem_of_not_mem_cons otherFirst)
          simp [inner, and_assoc]

/-- A list tells what stands before and after the last separator in it. -/
theorem append_cons_inj_of_last (last : separator ∉ after) (otherLast : separator ∉ otherAfter) :
    before ++ separator :: after = otherBefore ++ separator :: otherAfter ↔
      before = otherBefore ∧ after = otherAfter := by
  have backwards : after.reverse ++ separator :: before.reverse =
      otherAfter.reverse ++ separator :: otherBefore.reverse ↔
        after.reverse = otherAfter.reverse ∧ before.reverse = otherBefore.reverse :=
    append_cons_inj_of_first (mt List.mem_reverse.mp last) (mt List.mem_reverse.mp otherLast)
  rw [List.reverse_inj, List.reverse_inj] at backwards
  rw [and_comm, ← backwards, ← List.reverse_inj]
  simp

end Separator

/-! ## Pieces of a path -/

namespace pathParts

theorem pieces_eq_splitOn (path : List Char) : pieces path = path.splitOn '/' := by
  induction path with
  | nil => rfl
  | cons c rest ih =>
      rw [pieces, List.splitOn_cons_eq_if_modifyHead, ih]
      by_cases slash : c = '/'
      · simp [slash]
      · obtain ⟨first, others, split⟩ :=
          List.exists_cons_of_ne_nil (List.splitOn_ne_nil '/' rest)
        simp [slash, split]

theorem pieces_append_slash (first second : List Char) :
    pieces (first ++ '/' :: second) = pieces first ++ pieces second := by
  simp only [pieces_eq_splitOn, List.splitOn_append_cons_self]

theorem pieces_inj {first second : List Char} : pieces first = pieces second ↔ first = second := by
  constructor
  · intro same
    have joined := congrArg (['/'].intercalate ·) same
    simpa only [pieces_eq_splitOn, List.intercalate_splitOn] using joined
  · rintro rfl
    rfl

theorem pieces_eq_singleton {piece : List Char} (whole : '/' ∉ piece) : pieces piece = [piece] := by
  rw [pieces_eq_splitOn, List.splitOn_eq_singleton whole]

theorem pieces_intercalate {pieces' : List (List Char)} (whole : ∀ piece ∈ pieces', '/' ∉ piece)
    (nonempty : pieces' ≠ []) : pieces (['/'].intercalate pieces') = pieces' := by
  rw [pieces_eq_splitOn, List.splitOn_intercalate _ whole nonempty]

theorem pieces_ne_nil (path : List Char) : pieces path ≠ [] := by
  rw [pieces_eq_splitOn]
  exact List.splitOn_ne_nil _ _

theorem not_mem_of_mem_pieces {path piece : List Char} (mem : piece ∈ pieces path) :
    '/' ∉ piece := by
  induction path generalizing piece with
  | nil => simp [List.mem_singleton.mp mem]
  | cons c rest ih =>
      rw [pieces] at mem
      split at mem
      · rcases List.mem_cons.mp mem with rfl | later
        · exact List.not_mem_nil
        · exact ih later
      · next other =>
        obtain ⟨first, others, split⟩ := List.exists_cons_of_ne_nil (pieces_ne_nil rest)
        rw [split] at mem ih
        rcases List.mem_cons.mp mem with rfl | later
        · simp [Ne.symm other, ih List.mem_cons_self]
        · exact ih (List.mem_cons_of_mem _ later)

end pathParts

open pathParts

theorem pieces_below (directory file : String) :
    pieces (directory ++ "/" ++ file).toList = pieces directory.toList ++ pieces file.toList := by
  rw [← pieces_append_slash]
  simp

/-- A path tells the directory and the file that it was put together from. -/
theorem append_slash_inj {directory otherDirectory file otherFile : String}
    (whole : '/' ∉ file.toList) (otherWhole : '/' ∉ otherFile.toList) :
    directory ++ "/" ++ file = otherDirectory ++ "/" ++ otherFile ↔
      directory = otherDirectory ∧ file = otherFile := by
  rw [← String.toList_inj, ← String.toList_inj, ← String.toList_inj,
    ← append_cons_inj_of_last whole otherWhole]
  simp

/-! ## Plain paths -/

/-- Every piece of the path is the name of a node. -/
def IsPlainPath (path : String) : Prop :=
  ∀ piece ∈ pieces path.toList, isIdlePiece piece = false ∧ piece ≠ ['.', '.']

namespace IsPlainPath

/-- The name of a file that is longer than the pieces with a meaning of their own. -/
theorem of_long {piece : String} (whole : '/' ∉ piece.toList) (long : 2 < piece.toList.length) :
    IsPlainPath piece := by
  intro other mem
  rw [pieces_eq_singleton whole, List.mem_singleton] at mem
  rw [mem]
  constructor
  · rw [isIdlePiece, Bool.or_eq_false_iff, List.isEmpty_eq_false_iff, beq_eq_false_iff_ne]
    constructor <;> intro short <;> simp [short] at long
  · intro short
    simp [short] at long

/-- A plain path below a plain path is plain. -/
theorem below {first second : String} (outer : IsPlainPath first) (inner : IsPlainPath second) :
    IsPlainPath (first ++ "/" ++ second) := by
  intro piece mem
  rw [pieces_below, List.mem_append] at mem
  exact mem.elim (outer piece) (inner piece)

end IsPlainPath

/-! ## Places -/

/-- The step of one piece. -/
def stepOfPiece (piece : List Char) : PathStep :=
  if isIdlePiece piece then .stay
  else if piece == ['.', '.'] then .up
  else .into (String.ofList piece)

theorem pathSteps_eq (path : String) :
    pathSteps path = (pieces path.toList).map stepOfPiece :=
  rfl

/-- The place that steps lead to from another one. -/
def PathStep.afterAll (steps : List PathStep) (place : TreePlace) : TreePlace :=
  steps.foldl (fun place step => step.after place) place

@[simp]
theorem PathStep.afterAll_append (first second : List PathStep) (place : TreePlace) :
    afterAll (first ++ second) place = afterAll second (afterAll first place) :=
  List.foldl_append

/-- The names on a path. -/
def pathNames (path : String) : List String :=
  (pieces path.toList).map String.ofList

theorem pathNames_inj {first second : String} :
    pathNames first = pathNames second ↔ first = second := by
  have injective : Function.Injective String.ofList := fun _ _ same => String.ofList_inj.mp same
  rw [pathNames, pathNames, List.map_inj_right fun _ _ same => injective same, pieces_inj,
    String.toList_inj]

namespace IsPlainPath

variable {path : String} (plain : IsPlainPath path)
include plain

theorem stepOfPiece_eq {piece : List Char} (mem : piece ∈ pieces path.toList) :
    stepOfPiece piece = .into (String.ofList piece) := by
  obtain ⟨named, down⟩ := plain piece mem
  simp [stepOfPiece, named, down]

theorem pathSteps_eq : pathSteps path = (pathNames path).map PathStep.into := by
  rw [EntitySurface.pathSteps_eq, pathNames, List.map_map]
  exact List.map_congr_left fun piece mem => plain.stepOfPiece_eq mem

end IsPlainPath

theorem PathStep.afterAll_into (names : List String) (place : TreePlace) :
    afterAll (names.map into) place = place ++ names := by
  induction names generalizing place with
  | nil => simp [afterAll]
  | cons name rest ih =>
      show afterAll (rest.map into) (place ++ [name]) = _
      rw [ih]
      simp

/-- The place that a path leads to. -/
@[irreducible]
def placeOf (path : String) : TreePlace :=
  PathStep.afterAll (pathSteps path) []

/-- A path below a directory first follows the directory, and then the path. -/
theorem exists_pieces_pathBelow (directory : String) :
    ∃ start, ∀ path, pieces (pathBelow directory path).toList = start ++ pieces path.toList := by
  unfold pathBelow
  by_cases absent : directory.isEmpty = true
  · exact ⟨[], fun path => by simp [String.isEmpty_iff.mp absent]⟩
  · by_cases closed : directory.endsWith "/" = true
    · have slash := String.Slice.endsWith_string_iff.mp closed
      rw [String.copy_toSlice] at slash
      obtain ⟨inner, split⟩ : ['/'] <:+ directory.toList := slash
      refine ⟨pieces inner, fun path => ?_⟩
      rw [if_pos (by simp [closed]), String.toList_append, ← split, List.append_assoc,
        List.singleton_append, pieces_append_slash]
    · refine ⟨pieces directory.toList, fun path => ?_⟩
      rw [if_neg (by simp [absent, closed]), pieces_below]

/-- A plain path below a directory leads down from where the directory leads. -/
theorem exists_placeOf_pathBelow (directory : String) :
    ∃ start, ∀ path, IsPlainPath path →
      placeOf (pathBelow directory path) = start ++ pathNames path := by
  obtain ⟨start, split⟩ := exists_pieces_pathBelow directory
  refine ⟨PathStep.afterAll (start.map stepOfPiece) [], fun path plain => ?_⟩
  rw [placeOf, pathSteps_eq, split, List.map_append, ← pathSteps_eq, PathStep.afterAll_append,
    plain.pathSteps_eq, PathStep.afterAll_into]

/-- Below one directory, different plain paths lead to different places. -/
theorem placeOf_pathBelow_inj (directory : String) {first second : String}
    (firstPlain : IsPlainPath first) (secondPlain : IsPlainPath second) :
    placeOf (pathBelow directory first) = placeOf (pathBelow directory second) ↔
      first = second := by
  obtain ⟨start, place⟩ := exists_placeOf_pathBelow directory
  rw [place first firstPlain, place second secondPlain, List.append_right_inj, pathNames_inj]

/-- The last piece of the path has a dot, and no other piece has one. -/
def HasExtension (path : String) : Prop :=
  ∃ before last, pieces path.toList = before ++ [last] ∧ '.' ∈ last ∧
    ∀ piece ∈ before, '.' ∉ piece

/-- A file with an extension does not stand on the way to another one. -/
theorem HasExtension.eq_of_prefix (directory : String) {first second : String}
    (firstPlain : IsPlainPath first) (secondPlain : IsPlainPath second)
    (firstNamed : HasExtension first) (secondNamed : HasExtension second)
    (onWay : placeOf (pathBelow directory first) <+: placeOf (pathBelow directory second)) :
    first = second := by
  obtain ⟨start, place⟩ := exists_placeOf_pathBelow directory
  rw [place first firstPlain, place second secondPlain, List.prefix_append_right_inj] at onWay
  have pieces_prefix : pieces first.toList <+: pieces second.toList := by
    simpa [pathNames] using onWay.map String.toList
  obtain ⟨before, last, split, dotted, -⟩ := firstNamed
  obtain ⟨otherBefore, otherLast, otherSplit, -, undotted⟩ := secondNamed
  rw [otherSplit, List.prefix_concat_iff, ← otherSplit] at pieces_prefix
  rcases pieces_prefix with same | shorter
  · exact String.toList_inj.mp (pieces_inj.mp same)
  · have among : last ∈ otherBefore := shorter.subset (by simp [split])
    exact absurd dotted (undotted last among)

/-! ## The parent of a path -/

/-- The last piece of a plain path below a directory is the name of a node. -/
theorem IsPlainPath.exists_pieces_eq {path : String} (plain : IsPlainPath path)
    (directory : String) :
    ∃ before last, pieces (pathBelow directory path).toList = before ++ [last] ∧
      isIdlePiece last = false ∧ last ≠ ['.', '.'] := by
  obtain ⟨start, split⟩ := exists_pieces_pathBelow directory
  have nonempty := pieces_ne_nil path.toList
  obtain ⟨named, down⟩ := plain _ (List.getLast_mem nonempty)
  refine ⟨start ++ (pieces path.toList).dropLast, _, ?_, named, down⟩
  rw [split, List.append_assoc, List.dropLast_concat_getLast]

/-- The last step of a path leads into its last piece. -/
theorem pathSteps_eq_append_into {path : String} {before : List (List Char)} {last : List Char}
    (split : pieces path.toList = before ++ [last]) (named : isIdlePiece last = false)
    (down : last ≠ ['.', '.']) :
    pathSteps path = before.map stepOfPiece ++ [.into (String.ofList last)] := by
  have into : stepOfPiece last = .into (String.ofList last) := by simp [stepOfPiece, named, down]
  rw [pathSteps_eq, split, List.map_append, List.map_singleton, into]

/-- The path of the parent is the path up to its last piece, without the slashes and dots in front
of it that lead nowhere. -/
theorem exists_parentPath_eq {path : String} {before : List (List Char)} {last : List Char}
    (split : pieces path.toList = before ++ [last]) (named : isIdlePiece last = false) :
    ∃ led idle, before = led ++ idle ∧ (∀ piece ∈ idle, isIdlePiece piece = true) ∧
      parentPath path = String.ofList (['/'].intercalate led) := by
  refine ⟨(before.reverse.dropWhile isIdlePiece).reverse,
    (before.reverse.takeWhile isIdlePiece).reverse, ?_, ?_, ?_⟩
  · rw [← List.reverse_append, List.takeWhile_append_dropWhile, List.reverse_reverse]
  · exact fun piece mem => List.mem_takeWhile_imp (List.mem_reverse.mp mem)
  · unfold parentPath
    rw [split]
    simp [named]

/-- The path of the parent follows the path up to its last piece, and leaves out at most steps that
lead nowhere. -/
theorem exists_steps_parentPath {path : String} {before : List (List Char)} {last : List Char}
    (split : pieces path.toList = before ++ [last]) (named : isIdlePiece last = false) :
    ∃ kept stays, before.map stepOfPiece = kept ++ stays ∧ (∀ step ∈ stays, step = .stay) ∧
      (pathSteps (parentPath path) = kept ∨
        kept = [] ∧ pathSteps (parentPath path) = [.stay]) := by
  obtain ⟨led, idle, rfl, nowhere, parent⟩ := exists_parentPath_eq split named
  have whole : ∀ piece ∈ led, '/' ∉ piece := by
    intro piece mem
    have inPath : piece ∈ pieces path.toList := by simp [split, mem]
    exact not_mem_of_mem_pieces inPath
  refine ⟨led.map stepOfPiece, idle.map stepOfPiece, List.map_append, ?_, ?_⟩
  · intro step mem
    obtain ⟨piece, inIdle, rfl⟩ := List.mem_map.mp mem
    simp [stepOfPiece, nowhere piece inIdle]
  · rw [pathSteps_eq, parent, String.toList_ofList]
    by_cases empty : led = []
    · exact Or.inr ⟨by simp [empty], by rw [empty]; rfl⟩
    · exact Or.inl (by rw [pieces_intercalate whole empty])

theorem intercalate_prefix {α : Type} (separator : List α) (first second : List (List α)) :
    separator.intercalate first <+: separator.intercalate (first ++ second) := by
  induction first with
  | nil => exact List.nil_prefix
  | cons piece rest ih =>
      cases rest with
      | nil =>
          cases second with
          | nil => exact List.prefix_refl _
          | cons next others => simp [List.intercalate_cons_cons]
      | cons next others =>
          rw [List.cons_append, List.cons_append, List.intercalate_cons_cons,
            List.intercalate_cons_cons]
          exact (List.prefix_append_right_inj _).mpr ih

/-- A file system that takes a path takes the path of the parent. -/
theorem isPathTaken_parentPath {path : String} {before : List (List Char)} {last : List Char}
    (split : pieces path.toList = before ++ [last]) (named : isIdlePiece last = false)
    (taken : isPathTaken path = true) : isPathTaken (parentPath path) = true := by
  obtain ⟨led, idle, rfl, -, parent⟩ := exists_parentPath_eq split named
  obtain ⟨rest, whole⟩ : (parentPath path).toList <+: path.toList := by
    have joined : ['/'].intercalate (pieces path.toList) = path.toList := by
      rw [pieces_eq_splitOn, List.intercalate_splitOn]
    rw [parent, String.toList_ofList, ← joined, split, List.append_assoc]
    exact intercalate_prefix _ _ _
  have longer : path = parentPath path ++ String.ofList rest := by
    rw [← String.toList_inj, String.toList_append, String.toList_ofList, whole]
  rw [isPathTaken, longer] at taken
  simp only [isPathTaken, String.utf8ByteSize_append, String.toList_append, Bool.and_eq_true,
    decide_eq_true_eq, Bool.not_eq_true', List.contains_eq_mem, List.mem_append,
    decide_eq_false_iff_not, not_or] at taken ⊢
  exact ⟨by omega, taken.2.1⟩

end EntitySurface
