import EntitySurface.Proofs.FileTree.Writing

/-!
# Room for files

A file can be written when nothing is in its way: the file system takes the path and the names on
it, no file stands where a directory is needed, and no directory stands where the file is to stand.
Writing puts directories on the way of the file only. So files that do not stand on the way of each
other leave each other room, and can all be written.
-/

namespace EntitySurface

namespace PathStep

/-- Without a step up, steps only lead further down. -/
theorem prefix_afterAll {steps : List PathStep} (down : up ∉ steps) (place : TreePlace) :
    place <+: afterAll steps place := by
  induction steps generalizing place with
  | nil => exact List.prefix_refl place
  | cons step rest ih =>
      rw [List.mem_cons, not_or] at down
      have further : step.after place <+: afterAll (step :: rest) place := ih down.2 _
      cases step with
      | stay => exact further
      | up => exact absurd rfl down.1
      | into name => exact (List.prefix_append place [name]).trans further

theorem afterAll_stays {steps : List PathStep} (stays : ∀ step ∈ steps, step = stay)
    (place : TreePlace) : afterAll steps place = place := by
  induction steps with
  | nil => rfl
  | cons step rest ih =>
      obtain ⟨rfl, others⟩ := List.forall_mem_cons.mp stays
      exact ih others

end PathStep

open PathStep

/-- The path of the parent leads to the place above the end of the path, and not up if the path does
not lead up. -/
theorem placeOf_parentPath {path : String} {before : List (List Char)} {last : List Char}
    (split : pathParts.pieces path.toList = before ++ [last]) (named : isIdlePiece last = false)
    (down : last ≠ ['.', '.']) :
    placeOf path = placeOf (parentPath path) ++ [String.ofList last] ∧
      (up ∉ pathSteps path → up ∉ pathSteps (parentPath path)) := by
  have steps := pathSteps_eq_append_into split named down
  obtain ⟨kept, stays, way, idle, same | ⟨rfl, same⟩⟩ := exists_steps_parentPath split named
  · rw [placeOf, placeOf, same, steps, way, afterAll_append, afterAll_append, afterAll_stays idle]
    exact ⟨rfl, fun down mem => down (by simp [mem])⟩
  · rw [placeOf, placeOf, same, steps, way, List.nil_append, afterAll_append, afterAll_stays idle]
    exact ⟨rfl, fun _ => by decide⟩

namespace FileTree

variable {tree changed : FileTree} {place target : TreePlace} {steps : List PathStep}
  {path : String}

/-- Nothing is in the way of a file. -/
structure Admits (tree : FileTree) (path : String) : Prop where
  taken : isPathTaken path = true
  down : PathStep.up ∉ pathSteps path
  room : ∀ place, place <+: placeOf path → hasRoom place = true
  clear : ∀ place, place <+: placeOf path → place ≠ placeOf path →
    ∀ content, tree.node? place ≠ some (.file content)
  free : tree.node? (placeOf path) ≠ some .directory

/-- An empty tree has room for every file with a path and names that are short enough. -/
theorem admits_empty (taken : isPathTaken path = true) (down : PathStep.up ∉ pathSteps path)
    (short : ∀ name ∈ placeOf path, name.utf8ByteSize ≤ maxNameBytes) (below : placeOf path ≠ []) :
    ({} : FileTree).Admits path where
  taken := taken
  down := down
  room place among := by
    rw [hasRoom, Option.all_eq_true]
    intro name last
    have inPlace := List.mem_of_getLast? last
    exact decide_eq_true (short name (among.subset inPlace))
  clear place _ _ content := by
    by_cases atRoot : place = [] <;> simp [node?, atRoot]
  free := by
    simp [node?, below]

/-- The second tree differs from the first one by directories on the way to a place. -/
def GrowsTowards (tree changed : FileTree) (place : TreePlace) : Prop :=
  ∀ other, changed.node? other = tree.node? other ∨
    other <+: place ∧ changed.node? other = some .directory

/-- Directories can be created along a path if they have room and no file stands on the way. -/
theorem exists_createAlong (tree : FileTree) (down : PathStep.up ∉ steps)
    (leads : afterAll steps place = target)
    (room : ∀ other, other <+: target → hasRoom other = true)
    (clear : ∀ other, other <+: target → ∀ content, tree.node? other ≠ some (.file content)) :
    ∃ changed, tree.createAlong place steps = some (changed, target) ∧
      tree.GrowsTowards changed target := by
  induction steps generalizing tree place with
  | nil =>
      obtain rfl : place = target := leads
      exact ⟨tree, rfl, fun _ => Or.inl rfl⟩
  | cons step rest ih =>
      have downRest : PathStep.up ∉ rest := fun mem => down (List.mem_cons_of_mem _ mem)
      have leadsRest : afterAll rest (step.after place) = target := leads
      have onWay : step.after place <+: target := leadsRest ▸ prefix_afterAll downRest _
      rw [createAlong]
      split
      · next content there => exact absurd there (clear _ onWay content)
      · exact ih tree downRest leadsRest clear
      · next absent =>
        have below : step.after place ≠ [] := by
          intro atRoot
          rw [atRoot] at absent
          contradiction
        have put := tree.node?_put below .directory
        have stillClear : ∀ other, other <+: target → ∀ content,
            (tree.put (step.after place) .directory).node? other ≠ some (.file content) := by
          intro other among content
          rw [put]
          split
          · simp
          · exact clear other among content
        obtain ⟨changed, created, grown⟩ := ih _ downRest leadsRest stillClear
        rw [if_pos (room _ onWay)]
        refine ⟨changed, created, fun other => ?_⟩
        rcases grown other with same | toward
        · rw [put] at same
          split at same
          · next here => exact Or.inr ⟨here ▸ onWay, same⟩
          · exact Or.inl same
        · exact Or.inr toward

theorem write_eq_put (content : String) (below : tree.node? place.dropLast = some .directory)
    (free : tree.node? place ≠ some .directory) (room : hasRoom place = true) :
    tree.write place content = some (tree.put place (.file content)) := by
  rw [write, below]
  split
  · next here => exact absurd here free
  · exact if_pos room
  · next other _ => exact absurd rfl other

/-- A file that nothing is in the way of can be written. -/
theorem Admits.exists_write (admits : tree.Admits path) (content : String)
    {before : List (List Char)} {last : List Char}
    (split : pathParts.pieces path.toList = before ++ [last]) (named : isIdlePiece last = false)
    (down : last ≠ ['.', '.']) :
    ∃ between,
      tree.createDirectory (parentPath path) = some (between, placeOf (parentPath path)) ∧
      between.writeAt (placeOf (parentPath path)) path content =
        some (between.put (placeOf path) (.file content)) ∧
      tree.GrowsTowards between (placeOf (parentPath path)) := by
  obtain ⟨ends, staysDown⟩ := placeOf_parentPath split named down
  have above {other : TreePlace} (among : other <+: placeOf (parentPath path)) :
      other <+: placeOf path ∧ other ≠ placeOf path := by
    rw [ends]
    refine ⟨among.trans (List.prefix_append _ _), fun same => ?_⟩
    have short := among.length_le
    rw [same, List.length_append, List.length_singleton] at short
    omega
  have leads : afterAll (pathSteps (parentPath path)) [] = placeOf (parentPath path) := by
    rw [placeOf]
  obtain ⟨between, created, grown⟩ := exists_createAlong tree (staysDown admits.down) leads
    (fun other among => admits.room other (above among).1)
    fun other among => admits.clear other (above among).1 (above among).2
  have stands := (createAlong_eq_some tree.node?_root created).2.2
  have free : between.node? (placeOf path) ≠ some .directory := by
    rcases grown (placeOf path) with same | ⟨toward, -⟩
    · rw [same]
      exact admits.free
    · exact absurd rfl (above toward).2
  have step : ((pathSteps path).getLastD .stay).after (placeOf (parentPath path)) =
      placeOf path := by
    rw [pathSteps_eq_append_into split named down, List.getLastD_concat, ends]
    rfl
  have wrote : between.writeAt (placeOf (parentPath path)) path content =
      some (between.put (placeOf path) (.file content)) := by
    have parent : (placeOf path).dropLast = placeOf (parentPath path) := by
      rw [ends, List.dropLast_concat]
    have below : between.node? (placeOf path).dropLast = some .directory := by
      rw [parent]
      exact stands
    rw [writeAt, if_pos admits.taken, step]
    exact write_eq_put content below free (admits.room _ (List.prefix_refl _))
  refine ⟨between, ?_, wrote, grown⟩
  rw [createDirectory, if_pos (isPathTaken_parentPath split named admits.taken), created]

/-- Writing a file leaves room for another one when neither stands on the way of the other one. -/
theorem Admits.after_write (admits : tree.Admits path) (content : String)
    (grown : tree.GrowsTowards changed (target.dropLast)) (below : target ≠ [])
    (onlyThere : target <+: placeOf path → target = placeOf path)
    (onlyHere : placeOf path <+: target → target = placeOf path) :
    (changed.put target (.file content)).Admits path where
  taken := admits.taken
  down := admits.down
  room := admits.room
  clear other among apart former found := by
    rw [node?_put _ below] at found
    split at found
    · next here => exact apart (here.trans (onlyThere (here ▸ among)))
    · rcases grown other with same | ⟨-, directory⟩
      · rw [same] at found
        exact admits.clear other among apart former found
      · simp [directory] at found
  free := by
    rw [node?_put _ below]
    split
    · simp
    · next elsewhere =>
      rcases grown (placeOf path) with same | ⟨toward, -⟩
      · rw [same]
        exact admits.free
      · exact absurd (onlyHere (toward.trans (List.dropLast_prefix target))).symm elsewhere

end FileTree

namespace Project

open FileTree

variable {directory : String} {files : List GeneratedFile} {tree : FileTree}

/-- Files that have room and do not stand on the way of each other can all be written. -/
theorem exists_writeFiles (plain : ∀ file ∈ files, IsPlainPath file.path)
    (apart : ∀ file ∈ files, ∀ other ∈ files,
      placeOf (pathBelow directory file.path) <+: placeOf (pathBelow directory other.path) →
        placeOf (pathBelow directory file.path) = placeOf (pathBelow directory other.path))
    (admits : ∀ file ∈ files, tree.Admits (pathBelow directory file.path)) :
    ∃ written, writeFiles directory files tree = (written, none) := by
  induction files generalizing tree with
  | nil => exact ⟨tree, rfl⟩
  | cons file rest ih =>
      obtain ⟨plainHere, plainRest⟩ := List.forall_mem_cons.mp plain
      obtain ⟨admitsHere, admitsRest⟩ := List.forall_mem_cons.mp admits
      obtain ⟨before, last, split, named, down⟩ := plainHere.exists_pieces_eq directory
      obtain ⟨between, created, wrote, grown⟩ :=
        admitsHere.exists_write file.content split named down
      have ends := (placeOf_parentPath split named down).1
      rw [writeFiles]
      simp only [created, wrote]
      apply ih plainRest
      · exact fun first firstMem second secondMem =>
          apart first (List.mem_cons_of_mem _ firstMem) second (List.mem_cons_of_mem _ secondMem)
      · intro other mem
        have fileMem : file ∈ file :: rest := List.mem_cons_self
        have otherMem : other ∈ file :: rest := List.mem_cons_of_mem _ mem
        apply (admitsRest other mem).after_write
        · rwa [ends, List.dropLast_concat]
        · simp [ends]
        · exact apart file fileMem other otherMem
        · exact fun among => (apart other otherMem file fileMem among).symm

end Project

end EntitySurface
