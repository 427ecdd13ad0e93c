import EntitySurface.Surface
import Mathlib.Data.List.Induction
import Mathlib.Data.List.Nodup

/-!
# The surface as a ledger

A surface may be offered anything in any order. It keeps the first operation, the first page and the
first menu entry of each name, refuses another one under a taken name, and a refusal changes
nothing. Whatever was offered, its action groups list exactly the operations that ask for them.
-/

namespace EntitySurface

/-- The kept records are the first ones offered under their keys, in the order of the offers. -/
structure KeepsFirst {α κ : Type} [DecidableEq κ] (key : α → κ) (kept offered : List α) : Prop where
  order : kept.Sublist offered
  distinct : (kept.map key).Nodup
  first : ∀ wanted, (kept.find? fun record => key record == wanted) =
    offered.find? fun record => key record == wanted

namespace KeepsFirst

variable {α κ : Type} [DecidableEq κ] {key : α → κ} {kept offered : List α} {record : α}

theorem nil : KeepsFirst key [] [] :=
  ⟨List.Sublist.slnil, List.nodup_nil, fun _ => rfl⟩

/-- A record under a free key is kept. -/
theorem keep (keeps : KeepsFirst key kept offered)
    (free : (kept.find? fun other => key other == key record) = none) :
    KeepsFirst key (kept ++ [record]) (offered ++ [record]) where
  order := keeps.order.append_right [record]
  distinct := by
    have apart : ∀ other ∈ kept, key other ≠ key record := by simpa using free
    rw [List.map_append]
    refine keeps.distinct.append (List.nodup_singleton _) ?_
    rw [List.map_singleton, List.disjoint_singleton]
    intro taken
    obtain ⟨other, mem, same⟩ := List.mem_map.mp taken
    exact apart other mem same
  first wanted := by rw [List.find?_append, List.find?_append, keeps.first]

/-- A record under a taken key is not kept. -/
theorem skip (keeps : KeepsFirst key kept offered)
    (taken : (kept.find? fun other => key other == key record) ≠ none) :
    KeepsFirst key kept (offered ++ [record]) where
  order := keeps.order.trans (List.sublist_append_left _ _)
  distinct := keeps.distinct
  first wanted := by
    rw [List.find?_append, keeps.first]
    by_cases same : key record = wanted
    · subst same
      rw [keeps.first, Option.ne_none_iff_isSome] at taken
      rw [Option.or_of_isSome taken]
    · have other : (key record == wanted) = false := by simpa using same
      simp [other]

end KeepsFirst

namespace GroupSet

/-- A group takes an operation in once. -/
def join (operations : List String) (operation : String) : List String :=
  if operations.contains operation then operations else operations ++ [operation]

theorem find?_joinFirst (kind other : GroupKind) (operation : String)
    (groups : List ActionGroup) :
    ((joinFirst kind operation groups).find? fun group => group.kind == other) =
      (groups.find? fun group => group.kind == other).map fun group =>
        if other = kind then { group with operations := join group.operations operation }
        else group := by
  induction groups with
  | nil => rfl
  | cons group rest ih =>
      unfold joinFirst
      by_cases here : group.kind = kind
      · subst here
        by_cases same : other = group.kind
        · subst same
          by_cases joined : operation ∈ group.operations <;> simp [join, joined]
        · have apart : (group.kind == other) = false := by simpa using Ne.symm same
          by_cases joined : operation ∈ group.operations <;> simp [joined, same, apart]
      · have elsewhere : (group.kind == kind) = false := by simpa using here
        rw [if_neg (by simp [elsewhere]), List.find?_cons, List.find?_cons]
        cases same : group.kind == other with
        | false => exact ih
        | true =>
            have apart : other ≠ kind := fun equal => here ((eq_of_beq same).trans equal)
            simp [apart]

/-- Registering an operation adds it to the group of the kind and to no other. -/
theorem operations_register (set : GroupSet) (kind other : GroupKind) (operation : String) :
    (set.register kind operation).operations other =
      if other = kind then join (set.operations kind) operation else set.operations other := by
  unfold register operations group?
  dsimp only
  rw [find?_joinFirst]
  cases present : set.groups.find? fun group => group.kind == kind with
  | some group =>
      rw [if_pos (by rfl)]
      by_cases same : other = kind
      · subst same
        simp [present]
      · cases set.groups.find? fun group => group.kind == other <;> simp [same]
  | none =>
      rw [if_neg (by simp), List.find?_append]
      by_cases same : other = kind
      · subst same
        simp [present, join]
      · have apart : (kind == other) = false := by simpa using Ne.symm same
        cases set.groups.find? fun group => group.kind == other <;> simp [same, apart]

/-- Registering an operation in a group that is there adds no group. -/
theorem map_kind_register {set : GroupSet} {kind : GroupKind}
    (present : kind ∈ set.groups.map ActionGroup.kind) (operation : String) :
    (set.register kind operation).groups.map ActionGroup.kind =
      set.groups.map ActionGroup.kind := by
  have joined (groups : List ActionGroup) :
      (joinFirst kind operation groups).map ActionGroup.kind = groups.map ActionGroup.kind := by
    induction groups with
    | nil => rfl
    | cons group rest ih =>
        unfold joinFirst
        split
        · split <;> rfl
        · rw [List.map_cons, List.map_cons, ih]
  have found : (set.group? kind).isSome := by
    obtain ⟨group, mem, same⟩ := List.mem_map.mp present
    rw [group?, List.find?_isSome]
    exact ⟨group, mem, by simp [same]⟩
  rw [register, if_pos found]
  exact joined set.groups

/-- Registering an operation in several groups adds it once to each of them. -/
theorem operations_registerAll (kinds : List GroupKind) (set : GroupSet) (other : GroupKind)
    (operation : String) :
    (kinds.foldl (fun groups kind => groups.register kind operation) set).operations other =
      if kinds.contains other then join (set.operations other) operation
      else set.operations other := by
  induction kinds generalizing set with
  | nil => rfl
  | cons kind rest ih =>
      rw [List.foldl_cons, ih, operations_register]
      by_cases same : other = kind
      · subst same
        by_cases again : other ∈ rest <;> by_cases joined : operation ∈ set.operations other <;>
          simp [again, join, joined]
      · simp [same]

theorem map_kind_registerAll {kinds : List GroupKind} (set : GroupSet) (operation : String)
    (present : kinds ⊆ set.groups.map ActionGroup.kind) :
    (kinds.foldl (fun groups kind => groups.register kind operation) set).groups.map
        ActionGroup.kind = set.groups.map ActionGroup.kind := by
  induction kinds generalizing set with
  | nil => rfl
  | cons kind rest ih =>
      have first := map_kind_register (present List.mem_cons_self) operation
      rw [List.foldl_cons, ih, first]
      rw [first]
      exact fun other mem => present (List.mem_cons_of_mem _ mem)

end GroupSet

/-- Every kind of group is among all of them. -/
theorem GroupKind.mem_all (kind : GroupKind) : kind ∈ all := by
  cases kind <;> decide

namespace Contribution

/-- The operation that is contributed, if it is one. -/
def operation? : Contribution → Option Operation
  | operation found => some found
  | _ => none

/-- The page that is contributed, if it is one. -/
def page? : Contribution → Option Page
  | page found => some found
  | _ => none

/-- The menu entry that is contributed, if it is one. -/
def menuEntry? : Contribution → Option MenuEntry
  | menuEntry found => some found
  | _ => none

end Contribution

namespace Surface

/-! ## Offers -/

/-- Offer a contribution: what comes of it, and the surface afterwards. -/
def offer (surface : Surface) (contribution : Contribution) : Except Fault Bool × Surface :=
  match surface.absorb contribution with
  | .ok (fresh, changed) => (.ok fresh, changed)
  | .error fault => (.error fault, surface)

/-- The surface after offers in order, going on after a refusal. -/
def offerAll (surface : Surface) (offered : List Contribution) : Surface :=
  offered.foldl (fun surface contribution => (surface.offer contribution).2) surface

theorem offerAll_append_singleton (surface : Surface) (offered : List Contribution)
    (contribution : Contribution) :
    surface.offerAll (offered ++ [contribution]) =
      ((surface.offerAll offered).offer contribution).2 := by
  simp [offerAll]

variable {surface : Surface}

/-- The surface with an operation at the end and in its groups. -/
def withOperation (surface : Surface) (operation : Operation) : Surface :=
  { surface with
    operations := surface.operations ++ [operation]
    groups := operation.groups.foldl (fun groups kind => groups.register kind operation.name)
      surface.groups }

theorem offer_operation_of_free {operation : Operation}
    (free : surface.operation? operation.name = none) :
    surface.offer (.operation operation) = (.ok true, surface.withOperation operation) := by
  simp only [offer, absorb, addOperation, free]
  rfl

theorem offer_operation_of_taken {operation existing : Operation}
    (taken : surface.operation? operation.name = some existing) :
    surface.offer (.operation operation) =
      (if existing = operation then .ok false
        else .error (.derivationConflict surface.entity operation.name), surface) := by
  simp only [offer, absorb, addOperation, taken]
  by_cases same : existing = operation <;> simp only [same, if_true, if_false]

theorem offer_page_of_free {page : Page} (free : surface.page? page.name = none) :
    surface.offer (.page page) = (.ok true, { surface with pages := surface.pages ++ [page] }) := by
  simp only [offer, absorb, addPage, free]

theorem offer_page_of_taken {page existing : Page}
    (taken : surface.page? page.name = some existing) :
    surface.offer (.page page) =
      (if existing = page then .ok false
        else .error (.derivationConflict surface.entity page.name), surface) := by
  simp only [offer, absorb, addPage, taken]
  by_cases same : existing = page <;> simp only [same, if_true, if_false]

/-! ## What a surface records -/

/-- The surface holds the first of the offered operations, pages and menu entries, and its groups
list the operations that ask for them. -/
structure Records (surface : Surface) (entity : EntityKey) (operations : List Operation)
    (pages : List Page) (menuEntries : List MenuEntry) : Prop where
  entity : surface.entity = entity
  operations : KeepsFirst Operation.name surface.operations operations
  pages : KeepsFirst Page.name surface.pages pages
  menuEntries : KeepsFirst id surface.menuEntries menuEntries
  kinds : surface.groups.groups.map ActionGroup.kind = GroupKind.all
  groups : ∀ kind, surface.groups.operations kind =
    (surface.operations.filter fun operation => operation.groups.contains kind).map Operation.name

theorem records_empty (entity : EntityKey) : (empty entity).Records entity [] [] [] where
  entity := rfl
  operations := .nil
  pages := .nil
  menuEntries := .nil
  kinds := rfl
  groups kind := by cases kind <;> rfl

namespace Records

variable {entity : EntityKey} {operations : List Operation} {pages : List Page}
  {menuEntries : List MenuEntry}

/-- A new operation joins exactly the groups that it asks for. -/
theorem withOperation (records : surface.Records entity operations pages menuEntries)
    {operation : Operation} (free : surface.operation? operation.name = none) :
    (surface.withOperation operation).Records entity (operations ++ [operation]) pages
      menuEntries where
  entity := records.entity
  operations := records.operations.keep free
  pages := records.pages
  menuEntries := records.menuEntries
  kinds := by
    rw [← records.kinds]
    apply GroupSet.map_kind_registerAll
    rw [records.kinds]
    exact fun kind _ => kind.mem_all
  groups kind := by
    have absent : operation.name ∉ surface.groups.operations kind := by
      rw [records.groups kind]
      intro listed
      obtain ⟨other, mem, same⟩ := List.mem_map.mp listed
      have apart : ∀ other ∈ surface.operations, other.name ≠ operation.name := by
        simpa [operation?] using free
      exact apart other (List.mem_filter.mp mem).1 same
    have joined : GroupSet.join (surface.groups.operations kind) operation.name =
        surface.groups.operations kind ++ [operation.name] := by
      simp [GroupSet.join, absent]
    rw [Surface.withOperation, GroupSet.operations_registerAll, joined, records.groups kind,
      List.filter_append, List.map_append]
    by_cases asked : kind ∈ operation.groups <;> simp [asked]

theorem offer_operation (records : surface.Records entity operations pages menuEntries)
    (operation : Operation) :
    (surface.offer (.operation operation)).2.Records entity (operations ++ [operation]) pages
      menuEntries := by
  cases found : surface.operation? operation.name with
  | none =>
      rw [offer_operation_of_free found]
      exact records.withOperation found
  | some existing =>
      rw [offer_operation_of_taken found]
      have taken : surface.operation? operation.name ≠ none := by simp [found]
      exact { records with operations := records.operations.skip taken }

theorem offer_page (records : surface.Records entity operations pages menuEntries) (page : Page) :
    (surface.offer (.page page)).2.Records entity operations (pages ++ [page]) menuEntries := by
  cases found : surface.page? page.name with
  | none =>
      rw [offer_page_of_free found]
      exact { records with pages := records.pages.keep found }
  | some existing =>
      rw [offer_page_of_taken found]
      have taken : surface.page? page.name ≠ none := by simp [found]
      exact { records with pages := records.pages.skip taken }

theorem offer_menuEntry (records : surface.Records entity operations pages menuEntries)
    (entry : MenuEntry) :
    (surface.offer (.menuEntry entry)).2.Records entity operations pages
      (menuEntries ++ [entry]) := by
  show (surface.addMenuEntry entry).Records _ _ _ _
  unfold addMenuEntry
  split
  · next listed =>
    have taken : (surface.menuEntries.find? fun other => id other == id entry) ≠ none := by
      simpa using listed
    exact { records with menuEntries := records.menuEntries.skip taken }
  · next unlisted =>
    have free : (surface.menuEntries.find? fun other => id other == id entry) = none := by
      rw [List.find?_eq_none]
      intro other mem same
      obtain rfl : other = entry := eq_of_beq same
      exact unlisted (List.contains_iff_mem.mpr mem)
    exact { records with menuEntries := records.menuEntries.keep free }

end Records

/-- Whatever was offered, the surface records it. -/
theorem records_offerAll (entity : EntityKey) (offered : List Contribution) :
    ((empty entity).offerAll offered).Records entity
      (offered.filterMap Contribution.operation?) (offered.filterMap Contribution.page?)
      (offered.filterMap Contribution.menuEntry?) := by
  induction offered using List.reverseRecOn with
  | nil => exact records_empty entity
  | append_singleton offered contribution records =>
      rw [offerAll_append_singleton]
      cases contribution <;>
        simp only [List.filterMap_append, List.filterMap_cons, List.filterMap_nil,
          Contribution.operation?, Contribution.page?, Contribution.menuEntry?, List.append_nil]
      case operation operation => exact records.offer_operation operation
      case page page => exact records.offer_page page
      case menuEntry entry => exact records.offer_menuEntry entry
      case searchPlan plan => exact { records with }

/-- After any offers to the surface of an entity, some of which may have been refused: the surface
holds the first operation, page and menu entry of each name, and each of its ten groups lists the
operations that ask for it, each once and in the order of registration. Offering an operation or a
page again changes nothing; it is refused when it differs from the one that was offered first. -/
theorem offerAll_agrees (entity : EntityKey) (offered : List Contribution) :
    let surface := (empty entity).offerAll offered
    let operations := offered.filterMap Contribution.operation?
    let pages := offered.filterMap Contribution.page?
    KeepsFirst Operation.name surface.operations operations ∧
    KeepsFirst Page.name surface.pages pages ∧
    KeepsFirst id surface.menuEntries (offered.filterMap Contribution.menuEntry?) ∧
    surface.groups.groups.map ActionGroup.kind = GroupKind.all ∧
    (∀ kind, (surface.groups.operations kind).Nodup ∧ surface.groups.operations kind =
      (surface.operations.filter fun operation => operation.groups.contains kind).map
        Operation.name) ∧
    (∀ operation, match operations.find? fun first => first.name == operation.name with
      | none => surface.offer (.operation operation) = (.ok true, surface.withOperation operation)
      | some first => surface.offer (.operation operation) =
          (if first = operation then .ok false
            else .error (.derivationConflict entity operation.name), surface)) ∧
    ∀ page, match pages.find? fun first => first.name == page.name with
      | none => surface.offer (.page page) =
          (.ok true, { surface with pages := surface.pages ++ [page] })
      | some first => surface.offer (.page page) =
          (if first = page then .ok false
            else .error (.derivationConflict entity page.name), surface) := by
  intro surface operations pages
  have records : surface.Records entity operations pages _ := records_offerAll entity offered
  refine ⟨records.operations, records.pages, records.menuEntries, records.kinds, fun kind => ?_,
    fun operation => ?_, fun page => ?_⟩
  · refine ⟨?_, records.groups kind⟩
    rw [records.groups kind]
    exact records.operations.distinct.sublist (List.filter_sublist.map Operation.name)
  · have first := records.operations.first operation.name
    cases found : operations.find? fun first => first.name == operation.name with
    | none => exact offer_operation_of_free (first.trans found)
    | some existing =>
        rw [← records.entity]
        exact offer_operation_of_taken (first.trans found)
  · have first := records.pages.first page.name
    cases found : pages.find? fun first => first.name == page.name with
    | none => exact offer_page_of_free (first.trans found)
    | some existing =>
        rw [← records.entity]
        exact offer_page_of_taken (first.trans found)

end Surface

end EntitySurface
