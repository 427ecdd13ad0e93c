import EntitySurface.Proofs.Derivation.OperationNames

/-!
# Functions of operations

Every operation gets a function whose name is that of the operation in snake case. These functions
have different names if and only if snake case tells apart what the members of a family of
operations are named after.
-/

namespace EntitySurface

open Text

/-! ## Verbs -/

namespace Operation

theorem mem_verbs_of_plain {verb : String} (listed : verb ∈ plainVerbs) : verb ∈ verbs :=
  List.mem_append_left _ listed

theorem isCapitalized_of_mem_verbs {verb : String} (mem : verb ∈ verbs) :
    isCapitalized verb = true ∧ endsSmall verb = true := by
  revert verb
  decide +kernel

/-- The first words of the verbs that are not called like a method. -/
def firstWords : List String := [
  "prepare", "standard", "show", "flat", "search", "new", "force", "change", "set", "create", "add",
  "download", "mass", "bulk", "export", "get"]

theorem underscore_notMem_firstWords : ∀ word ∈ firstWords, '_' ∉ word.toList := by
  decide +kernel

/-- The verbs in snake case: the plain ones differ, the verb of a family does not begin another verb
nor the other way round, and each that is not called like a method begins with one of the first
words. The three facts are decided at once, since each of them needs all the verbs. -/
theorem snakeChars_verbs :
    (plainVerbs.map snakeChars).Nodup ∧
    (∀ family ∈ OperationFamily.all, ∀ verb ∈ verbs, verb ≠ family.verb →
      ¬snakeChars family.verb ++ ['_'] <+: snakeChars verb ++ ['_'] ∧
        ¬snakeChars verb ++ ['_'] <+: snakeChars family.verb ++ ['_']) ∧
    ∀ verb ∈ verbs, verb ∉ OperationFamily.calledLikeMethods.map OperationFamily.verb →
      ∃ word ∈ firstWords, word.toList ++ ['_'] <+: snakeChars verb ++ ['_'] := by
  decide +kernel

theorem nodup_snakeCase_plainVerbs : (plainVerbs.map snakeCase).Nodup := by
  apply List.Nodup.of_map String.toList
  rw [List.map_map]
  exact (List.map_congr_left fun verb _ => (toList_snakeCase verb).symm) ▸ snakeChars_verbs.1

/-- In snake case, the verb of a family does not begin another verb, nor the other way round. -/
theorem areApart_of_ne {family : OperationFamily} {verb : String} (mem : verb ∈ verbs)
    (other : verb ≠ family.verb) :
    areApart (snakeCase family.verb ++ "_") (snakeCase verb ++ "_") = true := by
  have listed : family ∈ OperationFamily.all := by cases family <;> decide
  have apart := snakeChars_verbs.2.1 family listed verb mem other
  simpa [areApart, String.toList_append, toList_snakeCase, Bool.eq_false_iff] using apart

/-- In snake case, every verb that is not called like a method begins with one of the first
words. -/
theorem exists_firstWord {verb : String} (mem : verb ∈ verbs)
    (other : verb ∉ OperationFamily.calledLikeMethods.map OperationFamily.verb) :
    ∃ word ∈ firstWords, ∃ rest, snakeCase verb ++ "_" = word ++ "_" ++ rest := by
  obtain ⟨word, among, rest, split⟩ := snakeChars_verbs.2.2 verb mem other
  refine ⟨word, among, String.ofList rest, ?_⟩
  rw [← String.toList_inj]
  simpa [String.toList_append, toList_snakeCase] using split.symm

/-- Behind a verb, snake case starts a new word. -/
theorem snakeCase_verb {verb ending : String} (mem : verb ∈ verbs)
    (named : isCapitalized ending = true) :
    snakeCase (verb ++ ending) = snakeCase verb ++ "_" ++ snakeCase ending := by
  obtain ⟨first, small⟩ := isCapitalized_of_mem_verbs mem
  exact snakeCase_append first named (by rw [small, Bool.true_or])

end Operation

theorem OperationFamily.verb_mem_verbs (family : OperationFamily) :
    family.verb ∈ Operation.verbs := by
  cases family <;> decide

theorem OperationFamily.verb_injective : Function.Injective verb := by
  intro first second same
  revert same
  cases first <;> cases second <;> decide

/-! ## Words behind a verb -/

namespace OperationFamily

/-- The words that may stand between a verb and the name of an entity. -/
def middleWords : List String := [
  "", "After", "AndShowParent", "LinkAndShowLeft", "LinkAndShowRight", "AutolinkAndShowObject",
  "Attachment", "WithPlan", "Task"]

theorem mem_middleWords {entity : Entity} {family : OperationFamily} {word : String}
    (mem : word ∈ family.words entity) : word ∈ middleWords := by
  have all : ∀ word ∈ family.words entity, word ∈ middleWords := by
    cases family <;> simp only [words]
    all_goals repeat' split
    all_goals decide
  exact all word mem

/-- What the words become in front of the name of the entity. -/
def wordsBefore (word : String) : String :=
  if word = "" then "" else snakeCase word ++ "_"

/-- The words are in Pascal case and become different in snake case. -/
theorem middleWords_apart :
    (∀ word ∈ middleWords, word = "" ∨ isCapitalized word = true ∧ endsSmall word = true) ∧
      (middleWords.map wordsBefore).Nodup := by
  decide +kernel

theorem isCapitalized_word {word name : String} (mem : word ∈ middleWords)
    (named : isCapitalized name = true) : isCapitalized (word ++ name) = true := by
  rcases middleWords_apart.1 word mem with rfl | ⟨capitalized, -⟩
  · rwa [String.empty_append]
  · exact isCapitalized_append capitalized named

theorem snakeCase_word {word name : String} (mem : word ∈ middleWords)
    (named : isCapitalized name = true) :
    snakeCase (word ++ name) = wordsBefore word ++ snakeCase name := by
  rcases middleWords_apart.1 word mem with rfl | ⟨capitalized, small⟩
  · rw [wordsBefore, if_pos rfl, String.empty_append, String.empty_append]
  · rw [wordsBefore, if_neg (ne_empty_of_isCapitalized capitalized),
      snakeCase_append capitalized named (by rw [small, Bool.true_or])]

end OperationFamily

/-! ## Names of one entity -/

namespace Entity

/-- What the operations of an entity are named after is in Pascal case. -/
structure IsCapitalized (entity : Entity) : Prop where
  name : isCapitalized entity.pascalName = true
  links : ∀ link ∈ entity.linkNames, isCapitalized link = true
  children : ∀ child ∈ entity.childNames, isCapitalized child = true
  images : ∀ image ∈ entity.imageNames, isCapitalized image = true
  previews : ∀ preview ∈ entity.previewNames, isCapitalized preview = true

/-- Snake case tells apart what the members of a family of operations are named after. -/
structure OperationsApart (entity : Entity) : Prop where
  links : SnakeApart entity.linkNames
  children : SnakeApart entity.childNames
  images : SnakeApart entity.imageNames
  previews : SnakeApart entity.previewNames

instance (entity : Entity) : Decidable entity.OperationsApart :=
  decidable_of_iff (SnakeApart entity.linkNames ∧ SnakeApart entity.childNames ∧
      SnakeApart entity.imageNames ∧ SnakeApart entity.previewNames)
    ⟨fun ⟨links, children, images, previews⟩ => ⟨links, children, images, previews⟩,
      fun ⟨links, children, images, previews⟩ => ⟨links, children, images, previews⟩⟩

end Entity

variable {entity : Entity} (capitalized : entity.IsCapitalized)
include capitalized

theorem isCapitalized_of_mem_endings {family : OperationFamily} {ending : String}
    (mem : ending ∈ family.endings entity) : isCapitalized ending = true := by
  have name := capitalized.name
  have behind {word : String} (middle : isCapitalized word = true) {link : String}
      (linked : link ∈ entity.linkNames) :
      isCapitalized (entity.pascalName ++ word ++ link) = true :=
    isCapitalized_append (isCapitalized_append name middle) (capitalized.links link linked)
  cases family
  case changeParent =>
    obtain ⟨link, linked, rfl⟩ := List.mem_map.mp mem
    exact behind (by decide) linked
  case massUpdate =>
    rcases List.mem_cons.mp mem with rfl | others
    · exact name
    · obtain ⟨link, linked, rfl⟩ := List.mem_map.mp others
      exact behind (by decide) linked
  case createLink =>
    simp only [OperationFamily.endings, List.mem_cons, List.not_mem_nil, or_false] at mem
    rcases mem with rfl | rfl | rfl
    · exact name
    · exact isCapitalized_append name (by decide)
    · exact isCapitalized_append name (by decide)
  case loadChildren | exportChildren =>
    obtain ⟨child, among, rfl⟩ := List.mem_map.mp mem
    exact isCapitalized_append (isCapitalized_append (capitalized.children child among)
      (by decide)) name
  case setImage | getImage => exact capitalized.images ending mem
  case preview => exact capitalized.previews ending mem
  all_goals
    obtain ⟨word, inWords, rfl⟩ := List.mem_map.mp mem
    exact OperationFamily.isCapitalized_word (OperationFamily.mem_middleWords inWords) name

theorem snakeCase_name_link {word link : String} (middle : isCapitalized word = true)
    (starts : startsWord word = true) (ends : endsSmall word = true)
    (linked : link ∈ entity.linkNames) :
    snakeCase (entity.pascalName ++ word ++ link) =
      snakeCase entity.pascalName ++ "_" ++ snakeCase word ++ "_" ++ snakeCase link :=
  snakeCase_between capitalized.name (capitalized.links link linked) middle starts ends

theorem snakeCase_child_name {child : String} (among : child ∈ entity.childNames) :
    snakeCase (child ++ "Under" ++ entity.pascalName) =
      snakeCase child ++ "_" ++ snakeCase "Under" ++ "_" ++ snakeCase entity.pascalName :=
  snakeCase_between (capitalized.children child among) capitalized.name (by decide) (by decide)
    (by decide)

theorem snakeApart_name_link (apart : SnakeApart entity.linkNames) {word : String}
    (middle : isCapitalized word = true) (starts : startsWord word = true)
    (ends : endsSmall word = true) :
    SnakeApart (entity.linkNames.map fun link => entity.pascalName ++ word ++ link) := by
  intro first one second other same
  obtain ⟨link, linked, rfl⟩ := List.mem_map.mp one
  obtain ⟨otherLink, otherLinked, rfl⟩ := List.mem_map.mp other
  rw [snakeCase_name_link capitalized middle starts ends linked,
    snakeCase_name_link capitalized middle starts ends otherLinked,
    String.append_right_inj] at same
  rw [apart link linked otherLink otherLinked same]

theorem snakeApart_child_name (apart : SnakeApart entity.childNames) :
    SnakeApart (entity.childNames.map fun child => child ++ "Under" ++ entity.pascalName) := by
  intro first one second other same
  obtain ⟨child, among, rfl⟩ := List.mem_map.mp one
  obtain ⟨otherChild, otherAmong, rfl⟩ := List.mem_map.mp other
  rw [snakeCase_child_name capitalized among, snakeCase_child_name capitalized otherAmong,
    String.append_left_inj, String.append_left_inj, String.append_left_inj,
    String.append_left_inj] at same
  rw [apart child among otherChild otherAmong same]

/-- The three operations that create a link are told apart by their words alone. -/
theorem snakeApart_createLink : SnakeApart (OperationFamily.createLink.endings entity) := by
  have behind {word : String} (middle : isCapitalized word = true)
      (starts : startsWord word = true) :
      snakeCase (entity.pascalName ++ word) =
        snakeCase entity.pascalName ++ "_" ++ snakeCase word :=
    snakeCase_append capitalized.name middle (by rw [starts, Bool.or_true])
  have single : SnakeApart [entity.pascalName ++ "AndShowRight"] := by
    simp [SnakeApart]
  refine (single.cons ?_).cons ?_
  · rw [List.forall_mem_singleton, behind (by decide) (by decide),
      behind (by decide) (by decide), Ne, String.append_right_inj]
    decide +kernel
  · simp only [List.forall_mem_cons]
    rw [behind (by decide) (by decide), behind (by decide) (by decide)]
    exact ⟨append_joint_ne _ _, append_joint_ne _ _, nofun⟩

/-- The operations that are called like a method are told apart by their words. -/
theorem snakeApart_words (family : OperationFamily) :
    SnakeApart ((family.words entity).map fun word => word ++ entity.pascalName) := by
  intro first one second other same
  obtain ⟨word, inWords, rfl⟩ := List.mem_map.mp one
  obtain ⟨otherWord, otherInWords, rfl⟩ := List.mem_map.mp other
  have mem := OperationFamily.mem_middleWords inWords
  have otherMem := OperationFamily.mem_middleWords otherInWords
  rw [OperationFamily.snakeCase_word mem capitalized.name,
    OperationFamily.snakeCase_word otherMem capitalized.name, String.append_left_inj] at same
  rw [List.inj_on_of_nodup_map OperationFamily.middleWords_apart.2 mem otherMem same]

/-- The members of a family are told apart. -/
theorem snakeApart_endings (apart : entity.OperationsApart) (family : OperationFamily) :
    SnakeApart (family.endings entity) := by
  cases family
  case changeParent =>
    exact snakeApart_name_link capitalized apart.links (by decide) (by decide) (by decide)
  case massUpdate =>
    refine (snakeApart_name_link capitalized apart.links (by decide) (by decide)
      (by decide)).cons ?_
    rw [List.forall_mem_map]
    intro link linked
    rw [snakeCase_name_link capitalized (by decide) (by decide) (by decide) linked,
      String.append_assoc, String.append_assoc]
    exact append_joint_ne _ _
  case createLink => exact snakeApart_createLink capitalized
  case loadChildren | exportChildren => exact snakeApart_child_name capitalized apart.children
  case setImage | getImage => exact apart.images
  case preview => exact apart.previews
  all_goals exact snakeApart_words capitalized _

/-- If the members of the families that every surface has are told apart, so is what they are named
after. -/
theorem operationsApart_of_endings
    (told : ∀ family ∈ OperationFamily.telling, SnakeApart (family.endings entity)) :
    entity.OperationsApart where
  links := by
    intro first one second other same
    have joined := told .changeParent (by decide) _ (List.mem_map_of_mem one) _
      (List.mem_map_of_mem other)
    rw [snakeCase_name_link capitalized (by decide) (by decide) (by decide) one,
      snakeCase_name_link capitalized (by decide) (by decide) (by decide) other, same] at joined
    exact (String.append_right_inj _).mp (joined rfl)
  children := by
    intro first one second other same
    have joined := told .loadChildren (by decide) _ (List.mem_map_of_mem one) _
      (List.mem_map_of_mem other)
    rw [snakeCase_child_name capitalized one, snakeCase_child_name capitalized other,
      same] at joined
    simpa [String.append_assoc] using joined rfl
  images := told .setImage (by decide)
  previews := told .preview (by decide)

theorem snakeCase_family {family : OperationFamily} {ending : String}
    (mem : ending ∈ family.endings entity) :
    snakeCase (family.verb ++ ending) = snakeCase family.verb ++ "_" ++ snakeCase ending :=
  Operation.snakeCase_verb family.verb_mem_verbs (isCapitalized_of_mem_endings capitalized mem)

namespace Entity.NamesOperation

variable {verb ending : String} {family : OperationFamily}

theorem snakeCase_plain_ne (listed : verb ∈ Operation.plainVerbs)
    (mem : ending ∈ family.endings entity) :
    snakeCase (family.verb ++ ending) ≠ snakeCase (verb ++ entity.pascalName) := by
  have inVerbs := Operation.mem_verbs_of_plain listed
  have other : verb ≠ family.verb := by
    rintro rfl
    revert listed
    cases family <;> decide
  rw [snakeCase_family capitalized mem, Operation.snakeCase_verb inVerbs capitalized.name]
  exact append_ne_append (Operation.areApart_of_ne inVerbs other) _ _

/-- Operations of one entity that become the same function have the same name. -/
theorem eq_of_snakeCase (apart : entity.OperationsApart) {first second : String}
    (one : entity.NamesOperation first) (other : entity.NamesOperation second)
    (same : snakeCase first = snakeCase second) : first = second := by
  cases one with
  | plain listed =>
      cases other with
      | plain otherListed =>
          rw [Operation.snakeCase_verb (Operation.mem_verbs_of_plain listed) capitalized.name,
            Operation.snakeCase_verb (Operation.mem_verbs_of_plain otherListed) capitalized.name,
            String.append_left_inj, String.append_left_inj] at same
          rw [List.inj_on_of_nodup_map Operation.nodup_snakeCase_plainVerbs listed otherListed same]
      | family otherFamily mem =>
          exact absurd same.symm (snakeCase_plain_ne capitalized listed mem)
  | family family mem =>
      cases other with
      | plain otherListed => exact absurd same (snakeCase_plain_ne capitalized otherListed mem)
      | family otherFamily otherMem =>
          rw [snakeCase_family capitalized mem, snakeCase_family capitalized otherMem] at same
          by_cases sameFamily : otherFamily = family
          · subst sameFamily
            rw [String.append_right_inj] at same
            rw [snakeApart_endings capitalized apart _ _ mem _ otherMem same]
          · have verbs := fun equal => sameFamily (OperationFamily.verb_injective equal)
            exact absurd same (append_ne_append
              (Operation.areApart_of_ne otherFamily.verb_mem_verbs verbs) _ _)

/-- The function of an operation starts with the first word of a verb, unless the verb is called
like a method. -/
theorem family_or_firstWord {name : String} (named : entity.NamesOperation name) :
    (∃ family ∈ OperationFamily.calledLikeMethods, ∃ ending ∈ family.endings entity,
      name = family.verb ++ ending) ∨
    ∃ word ∈ Operation.firstWords, ∃ rest, snakeCase name = word ++ "_" ++ rest := by
  have begins {verb rest : String} (inVerbs : verb ∈ Operation.verbs)
      (other : verb ∉ OperationFamily.calledLikeMethods.map OperationFamily.verb)
      (split : snakeCase name = snakeCase verb ++ "_" ++ rest) :
      ∃ word ∈ Operation.firstWords, ∃ rest, snakeCase name = word ++ "_" ++ rest := by
    obtain ⟨word, among, middle, begins⟩ := Operation.exists_firstWord inVerbs other
    exact ⟨word, among, middle ++ rest, by rw [split, begins, String.append_assoc]⟩
  cases named with
  | plain listed =>
      have inVerbs := Operation.mem_verbs_of_plain listed
      have other : ∀ verb ∈ Operation.plainVerbs,
          verb ∉ OperationFamily.calledLikeMethods.map OperationFamily.verb := by decide
      exact Or.inr (begins inVerbs (other _ listed)
        (Operation.snakeCase_verb inVerbs capitalized.name))
  | @family family ending mem =>
      by_cases called : family ∈ OperationFamily.calledLikeMethods
      · exact Or.inl ⟨family, called, ending, mem, rfl⟩
      · exact Or.inr (begins family.verb_mem_verbs
          (mt (List.mem_map_of_injective OperationFamily.verb_injective).mp called)
          (snakeCase_family capitalized mem))

end Entity.NamesOperation

end EntitySurface
