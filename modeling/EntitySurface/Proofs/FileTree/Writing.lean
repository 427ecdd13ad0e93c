import EntitySurface.Proofs.FileTree.Paths

/-!
# Files that are written and read back

Writing files below a directory creates the directories that they need and never takes a directory
away. So a file that was written can be reached in the end, and it still has its content unless
another file was written to the same place.
-/

namespace EntitySurface

namespace FileTree

variable {tree changed : FileTree} {place target : TreePlace} {steps : List PathStep}

/-- The content of the file at a path. -/
def read? (tree : FileTree) (path : String) : Option String :=
  match (tree.place? path).bind tree.node? with
  | some (.file content) => some content
  | _ => none

/-- Every directory of the first tree is one of the second tree. -/
def KeepsDirectories (tree changed : FileTree) : Prop :=
  ∀ place, tree.node? place = some .directory → changed.node? place = some .directory

theorem KeepsDirectories.trans {last : FileTree} (first : tree.KeepsDirectories changed)
    (second : changed.KeepsDirectories last) : tree.KeepsDirectories last :=
  fun place stands => second place (first place stands)

@[simp]
theorem node?_root (tree : FileTree) : tree.node? [] = some .directory :=
  rfl

/-! ## Walking -/

theorem walk?_append (tree : FileTree) (place : TreePlace) (first second : List PathStep) :
    tree.walk? place (first ++ second) =
      (tree.walk? place first).bind fun next => tree.walk? next second := by
  induction first generalizing place with
  | nil => rfl
  | cons step rest ih =>
      rw [List.cons_append, walk?, walk?]
      split
      · exact ih _
      · rfl

/-- A walk ends where its steps lead. -/
theorem eq_afterAll_of_walk? (walked : tree.walk? place steps = some target) :
    target = PathStep.afterAll steps place := by
  induction steps generalizing place with
  | nil => exact (Option.some.inj walked).symm
  | cons step rest ih =>
      rw [walk?] at walked
      split at walked
      · exact ih walked
      · contradiction

/-- What can be walked can still be walked where no directory was taken away. -/
theorem KeepsDirectories.walk? (keeps : tree.KeepsDirectories changed)
    (walked : tree.walk? place steps = some target) : changed.walk? place steps = some target := by
  induction steps generalizing place with
  | nil => exact walked
  | cons step rest ih =>
      rw [FileTree.walk?] at walked ⊢
      split at walked
      · next stands =>
        rw [keeps place stands]
        exact ih walked
      · contradiction

theorem KeepsDirectories.place? (keeps : tree.KeepsDirectories changed) {path : String}
    (found : tree.place? path = some place) : changed.place? path = some place := by
  simp only [FileTree.place?, Option.ite_none_right_eq_some] at found ⊢
  exact found.imp_right keeps.walk?

/-- Staying in a directory leads nowhere else. -/
theorem walk?_stays (stands : tree.node? place = some .directory)
    (stays : ∀ step ∈ steps, step = .stay) : tree.walk? place steps = some place := by
  induction steps with
  | nil => rfl
  | cons step rest ih =>
      obtain ⟨rfl, others⟩ := List.forall_mem_cons.mp stays
      rw [FileTree.walk?, stands]
      exact ih others

/-! ## Creating directories -/

/-- Creating directories along a path changes nothing that was there, and then the path can be
walked to a directory. -/
theorem createAlong_eq_some (stands : tree.node? place = some .directory)
    (created : tree.createAlong place steps = some (changed, target)) :
    (∀ other node, tree.node? other = some node → changed.node? other = some node) ∧
      changed.walk? place steps = some target ∧ changed.node? target = some .directory := by
  induction steps generalizing tree place with
  | nil =>
      cases created
      exact ⟨fun _ _ => id, rfl, stands⟩
  | cons step rest ih =>
      rw [createAlong] at created
      split at created
      · contradiction
      · next there =>
        obtain ⟨kept, walked, ends⟩ := ih there created
        exact ⟨kept, by rw [walk?, kept place _ stands]; exact walked, ends⟩
      · next absent =>
        split at created
        · have below : step.after place ≠ [] := by
            intro atRoot
            rw [atRoot] at absent
            contradiction
          have put := tree.node?_put below .directory
          have unchanged : ∀ other node, tree.node? other = some node →
              (tree.put (step.after place) .directory).node? other = some node := by
            intro other node found
            rw [put, if_neg, found]
            rintro rfl
            rw [absent] at found
            contradiction
          obtain ⟨kept, walked, ends⟩ := ih (by rw [put, if_pos rfl]) created
          have still := kept place _ (unchanged place _ stands)
          exact ⟨fun other node found => kept other node (unchanged other node found),
            by rw [walk?, still]; exact walked, ends⟩
        · contradiction

/-! ## Writing one file -/

/-- A written file stands at its place, and everything else stands as before. -/
theorem write_eq_some {content : String} (wrote : tree.write place content = some changed) :
    tree.node? place ≠ some .directory ∧
      ∀ other, changed.node? other =
        if other = place then some (.file content) else tree.node? other := by
  unfold write at wrote
  split at wrote
  · contradiction
  · next parent other =>
    split at wrote
    · cases wrote
      have below : place ≠ [] := by
        rintro rfl
        exact other rfl
      exact ⟨other, tree.node?_put below _⟩
    · contradiction
  · contradiction

/-- The parent of a path lies on the way of the path, one step before its end. -/
theorem walk?_of_parentPath {path : String} {before : List (List Char)} {last : List Char}
    (split : pathParts.pieces path.toList = before ++ [last]) (named : isIdlePiece last = false)
    {parent : TreePlace} (walked : tree.walk? [] (pathSteps (parentPath path)) = some parent)
    (stands : tree.node? parent = some .directory) :
    tree.walk? [] (before.map stepOfPiece) = some parent := by
  obtain ⟨kept, stays, steps, idle, same | ⟨rfl, same⟩⟩ := exists_steps_parentPath split named
  · rw [same] at walked
    rw [steps, walk?_append, walked, Option.bind_some]
    exact walk?_stays stands idle
  · have atRoot : parent = [] := by
      rw [same] at walked
      exact eq_afterAll_of_walk? walked
    rw [steps, atRoot, List.nil_append]
    exact walk?_stays tree.node?_root idle

/-- A file is written together with the directories that it needs: then its path leads to it, no
directory is gone, and no other file has changed. -/
theorem placeOf_of_writeAt {between : FileTree} {parent : TreePlace} {path content : String}
    {before : List (List Char)} {last : List Char}
    (split : pathParts.pieces path.toList = before ++ [last]) (named : isIdlePiece last = false)
    (down : last ≠ ['.', '.'])
    (created : tree.createDirectory (parentPath path) = some (between, parent))
    (wrote : between.writeAt parent path content = some changed) :
    changed.place? path = some (placeOf path) ∧ tree.KeepsDirectories changed ∧
      changed.node? (placeOf path) = some (.file content) ∧
      ∀ other former, other ≠ placeOf path → tree.node? other = some (.file former) →
        changed.node? other = some (.file former) := by
  have steps := pathSteps_eq_append_into split named down
  simp only [createDirectory, Option.ite_none_right_eq_some] at created
  obtain ⟨-, created⟩ := created
  obtain ⟨kept, walked, ends⟩ := createAlong_eq_some tree.node?_root created
  have way := walk?_of_parentPath split named walked ends
  have place : (PathStep.into (String.ofList last)).after parent = placeOf path := by
    rw [placeOf, steps, PathStep.afterAll_append, ← eq_afterAll_of_walk? way]
    rfl
  simp only [writeAt, Option.ite_none_right_eq_some, steps, List.getLastD_concat, place] at wrote
  obtain ⟨taken, wrote⟩ := wrote
  obtain ⟨noDirectory, nodes⟩ := write_eq_some wrote
  have keeps : between.KeepsDirectories changed := by
    intro other stands
    have apart : other ≠ placeOf path := fun here => noDirectory (here ▸ stands)
    rw [nodes, if_neg apart, stands]
  refine ⟨?_, fun other stands => keeps other (kept other _ stands), ?_, ?_⟩
  · simp only [place?, taken, if_true, steps, walk?_append, keeps.walk? way, Option.bind_some,
      walk?, keeps parent ends, place]
  · exact (nodes (placeOf path)).trans (if_pos rfl)
  · intro other former apart stands
    rw [nodes, if_neg apart]
    exact kept other _ stands

end FileTree

namespace Project

open FileTree

variable {directory : String} {files : List GeneratedFile} {tree written : FileTree}

/-- The files written last at their paths. -/
def lastAt (files : List GeneratedFile) (path : String) : Option GeneratedFile :=
  files.reverse.find? fun file => file.path == path

theorem lastAt_cons_of_later (file : GeneratedFile) {path : String}
    (later : ∃ other ∈ files, other.path = path) :
    lastAt (file :: files) path = lastAt files path := by
  have found : (lastAt files path).isSome = true := by
    obtain ⟨other, mem, same⟩ := later
    exact List.find?_isSome.mpr ⟨other, List.mem_reverse.mpr mem, by simp [same]⟩
  unfold lastAt at found ⊢
  rw [List.reverse_cons, List.find?_append, Option.or_of_isSome found]

theorem lastAt_cons_of_alone {file : GeneratedFile}
    (alone : ∀ other ∈ files, other.path ≠ file.path) :
    lastAt (file :: files) file.path = some file := by
  have absent : lastAt files file.path = none := by simpa [lastAt] using alone
  unfold lastAt at absent ⊢
  simp [List.find?_append, absent]

/-- Writing files one after the other keeps directories and files at other places, and in the end
each path leads to what was written to it last. -/
theorem writeFiles_eq (plain : ∀ file ∈ files, IsPlainPath file.path)
    (done : writeFiles directory files tree = (written, none)) :
    tree.KeepsDirectories written ∧
      (∀ place former, (∀ file ∈ files, place ≠ placeOf (pathBelow directory file.path)) →
        tree.node? place = some (.file former) → written.node? place = some (.file former)) ∧
      ∀ file ∈ files,
        written.place? (pathBelow directory file.path) =
          some (placeOf (pathBelow directory file.path)) ∧
        written.node? (placeOf (pathBelow directory file.path)) =
          (lastAt files file.path).map fun last => .file last.content := by
  induction files generalizing tree with
  | nil =>
      cases done
      exact ⟨fun _ => id, fun _ _ _ => id, nofun⟩
  | cons file rest ih =>
      obtain ⟨plainHere, plainRest⟩ := List.forall_mem_cons.mp plain
      obtain ⟨before, last, split, named, down⟩ := plainHere.exists_pieces_eq directory
      rw [writeFiles] at done
      split at done
      · simp at done
      · next between parent created =>
        split at done
        · simp at done
        · next changed wrote =>
          obtain ⟨placed, keeps, here, others⟩ := placeOf_of_writeAt split named down created wrote
          obtain ⟨keepsRest, kept, written⟩ := ih plainRest done
          refine ⟨keeps.trans keepsRest, ?_, ?_⟩
          · intro place former apart stands
            obtain ⟨apartHere, apartRest⟩ := List.forall_mem_cons.mp apart
            exact kept place former apartRest (others place former apartHere stands)
          · intro item mem
            by_cases later : ∃ other ∈ rest, other.path = item.path
            · obtain ⟨other, inRest, same⟩ := later
              rw [lastAt_cons_of_later file ⟨other, inRest, same⟩, ← same]
              exact written other inRest
            · obtain rfl : item = file :=
                (List.mem_cons.mp mem).resolve_right fun inRest => later ⟨item, inRest, rfl⟩
              have alone : ∀ other ∈ rest, other.path ≠ item.path :=
                fun other inRest same => later ⟨other, inRest, same⟩
              rw [lastAt_cons_of_alone alone]
              refine ⟨keepsRest.place? placed, kept _ _ (fun other inRest same => ?_) here⟩
              exact alone other inRest ((placeOf_pathBelow_inj directory plainHere
                (plainRest other inRest)).mp same).symm

/-- After writing, each path reads as the content that was written to it last. -/
theorem read?_of_writeFiles (plain : ∀ file ∈ files, IsPlainPath file.path)
    (done : writeFiles directory files tree = (written, none)) {file : GeneratedFile}
    (mem : file ∈ files) :
    written.read? (pathBelow directory file.path) =
      (lastAt files file.path).map GeneratedFile.content := by
  obtain ⟨placed, stands⟩ := (writeFiles_eq plain done).2.2 file mem
  rw [read?, placed, Option.bind_some, stands]
  cases lastAt files file.path <;> rfl

/-- A file that shares its path with no other one is the last at its path. -/
theorem lastAt_eq_some (distinct : (files.map GeneratedFile.path).Nodup) {file : GeneratedFile}
    (mem : file ∈ files) : lastAt files file.path = some file := by
  induction files with
  | nil => contradiction
  | cons first rest ih =>
      obtain ⟨apart, others⟩ := List.nodup_cons.mp distinct
      rcases List.mem_cons.mp mem with rfl | inRest
      · exact lastAt_cons_of_alone fun other inRest same =>
          apart (same ▸ List.mem_map_of_mem inRest)
      · rw [lastAt_cons_of_later first ⟨file, inRest, rfl⟩]
        exact ih others inRest

end Project

end EntitySurface
