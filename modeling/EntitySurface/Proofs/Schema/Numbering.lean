import EntitySurface.Demo
import EntitySurface.Proofs.Schema.Finalized

/-!
# The scope of a numbering

Numbers are unique within the parent that the first parent link before the numbering leads to. The
properties are settled in the order in which they were attached, so a parent link that is attached
later has no settings yet when the numbering is settled, and it has no part in what comes of it.
-/

namespace EntitySurface

namespace Property

theorem tag_of_mem_hookPlans_numbered {property : Property} (kind : property.kind = .numbered)
    {plan : HookPlan} (mem : plan ∈ property.hookPlans) : plan.tag = .storedObject := by
  simp only [hookPlans, kind] at mem
  split at mem
  · rw [List.mem_singleton.mp mem]
  · contradiction

/-- The hooks of a numbering depend on which record is stored first, and on nothing else beside
it. -/
theorem plannedHooks_numbered_congr {property : Property} (kind : property.kind = .numbered)
    {siblings others : Siblings}
    (same : (siblings.first? .storedObject).map name = (others.first? .storedObject).map name) :
    property.plannedHooks siblings = property.plannedHooks others := by
  apply List.filterMap_congr
  intro plan mem
  have tagged := tag_of_mem_hookPlans_numbered kind mem
  have hookOf : ∀ siblings, property.plannedHook? siblings plan =
      ((siblings.first? .storedObject).map name).map fun origin =>
        { declaring := property.name, method := plan.method, origin
          phase := plan.phase, label := plan.label } := by
    intro siblings
    rw [plannedHook?, tagged, Option.map_map]
    rfl
  rw [hookOf, hookOf, same]

end Property

namespace Entity

variable {entity twin : Entity} {earlier later earlierTwin laterTwin : List Property}
  {numbered numberedTwin : Property}

/-- The records that an entity stores before and after a numbering. -/
theorem find?_storedObject_eq (split : entity.properties = earlier ++ numbered :: later)
    (kind : numbered.kind = .numbered) :
    (entity.siblings []).first? .storedObject =
      (earlier ++ later.filter fun property => property.tag == .storedObject).find?
        fun property => property.tag == .storedObject := by
  have apart : (numbered.tag == .storedObject) = false := by rw [Property.tag, kind]; rfl
  rw [Siblings.first?, siblings, split, List.find?_append, List.find?_append,
    List.find?_cons_of_neg (by simp [apart]), List.find?_filter]
  simp only [and_self, Bool.decide_eq_true]

/-- Entities that store the same up to the numbering, and the same records behind, plan hooks around
the same record. -/
theorem name_storedObject_congr (split : entity.properties = earlier ++ numbered :: later)
    (splitTwin : twin.properties = earlierTwin ++ numberedTwin :: laterTwin)
    (kind : numbered.kind = .numbered) (kindTwin : numberedTwin.kind = .numbered)
    (sameEarlier : earlierTwin.map Property.unresolved = earlier.map Property.unresolved)
    (sameRecords : (laterTwin.filter fun property => property.tag == .storedObject).map
        Property.unresolved =
      (later.filter fun property => property.tag == .storedObject).map Property.unresolved) :
    ((twin.siblings []).first? .storedObject).map Property.name =
      ((entity.siblings []).first? .storedObject).map Property.name := by
  rw [find?_storedObject_eq split kind, find?_storedObject_eq splitTwin kindTwin]
  have candidates :
      (earlierTwin ++ laterTwin.filter fun property => property.tag == .storedObject).map
          Property.unresolved =
        (earlier ++ later.filter fun property => property.tag == .storedObject).map
          Property.unresolved := by
    rw [List.map_append, List.map_append, sameEarlier, sameRecords]
  have found := congrArg (Option.map Property.name)
    (Property.map_find?_of_unresolved .storedObject candidates)
  rwa [Option.map_map, Option.map_map] at found

namespace Settled

/-- The scope of a numbering depends on what is stored before it. -/
theorem numberingScope?_congr (settled : entity.Settled) (settledTwin : twin.Settled)
    (names : (entity.properties.map Property.name).Nodup)
    (namesTwin : (twin.properties.map Property.name).Nodup)
    (split : entity.properties = earlier ++ numbered :: later)
    (splitTwin : twin.properties = earlierTwin ++ numberedTwin :: laterTwin)
    (sameEarlier : earlierTwin.map Property.unresolved = earlier.map Property.unresolved) :
    Property.numberingScope? (twin.siblings earlierTwin) =
      Property.numberingScope? (entity.siblings earlier) := by
  rw [settled.numberingScope?_eq names split, settledTwin.numberingScope?_eq namesTwin splitTwin]
  have links := Property.map_find?_of_unresolved .linkedToParent sameEarlier
  have scopeOf : ∀ link? : Option Property,
      link?.bind Property.scope? = (link?.map Property.unresolved).bind Property.scope? := by
    rintro (_ | link) <;> rfl
  rw [scopeOf, scopeOf (Property.firstLink? earlier), Property.firstLink?, Property.firstLink?,
    links]

/-- Up to the numbering, two entities store the same; from there on they have the same records. Then
the numbering is settled in the same way in both. -/
theorem resolved_numbered_congr (settled : entity.Settled) (settledTwin : twin.Settled)
    (names : (entity.properties.map Property.name).Nodup)
    (namesTwin : (twin.properties.map Property.name).Nodup)
    (split : entity.properties = earlier ++ numbered :: later)
    (splitTwin : twin.properties = earlierTwin ++ numberedTwin :: laterTwin)
    (kind : numbered.kind = .numbered)
    (sameEarlier : earlierTwin.map Property.unresolved = earlier.map Property.unresolved)
    (same : numberedTwin.unresolved = numbered.unresolved)
    (sameRecords : (laterTwin.filter fun property => property.tag == .storedObject).map
        Property.unresolved =
      (later.filter fun property => property.tag == .storedObject).map Property.unresolved) :
    numberedTwin.resolved = numbered.resolved := by
  have sameKind : numberedTwin.unresolved.kind = numbered.unresolved.kind :=
    congrArg Property.kind same
  have kindTwin : numberedTwin.kind = .numbered := sameKind.trans kind
  have automatic : numberedTwin.unresolved.isAutomaticNumbering =
      numbered.unresolved.isAutomaticNumbering :=
    congrArg Property.isAutomaticNumbering same
  have planned : numberedTwin.unresolved.plannedHooks (entity.siblings []) =
      numbered.unresolved.plannedHooks (entity.siblings []) :=
    congrArg (fun property => property.plannedHooks (entity.siblings [])) same
  have scope := settled.numberingScope?_congr settledTwin names namesTwin split splitTwin
    sameEarlier
  have records := name_storedObject_congr split splitTwin kind kindTwin sameEarlier sameRecords
  have hooks : numberedTwin.plannedHooks (twin.siblings []) =
      numbered.plannedHooks (entity.siblings []) :=
    (Property.plannedHooks_numbered_congr kindTwin records).trans planned
  have plain : numberedTwin.plainSettings (twin.siblings earlierTwin) =
      numbered.plainSettings (entity.siblings earlier) := by
    simp only [Property.plainSettings, kind, kindTwin, scope]
    rw [show numberedTwin.isAutomaticNumbering = numbered.isAutomaticNumbering from automatic]
  rw [settled.resolved_eq split, settledTwin.resolved_eq splitTwin, hooks, plain]

end Settled

end Entity

namespace Schema.Reachable

variable {schema : Schema} {entity : Entity}

/-- In a finalized schema, the scope of a numbering is the first parent link stored before it. With
a scope, renumbering takes one argument more, under the name that the link settled on for its
parent, and without a scope it takes none. Another entity that stores the same up to the numbering
settles it in the same way, whatever parent links it stores behind: what follows the numbering
matters only by the records among it. -/
theorem numbering_scoped (reached : schema.Reachable) (finalized : schema.phase = .finalized)
    (mem : entity ∈ schema.entities) {earlier later : List Property} {numbered : Property}
    (split : entity.properties = earlier ++ numbered :: later)
    (kind : numbered.kind = .numbered) :
    let first? := earlier.find? fun property => property.tag == .linkedToParent
    (∃ settings, numbered.resolved = some settings ∧
      settings.numberingScope = first?.map Property.name) ∧
    (first? = none → numbered.extraArguments "renumber" = []) ∧
    (∀ link, first? = some link → ∃ parent argument, link.kind = .linkedToParent parent ∧
      link.resolved.bind ResolvedSettings.parentArgument = some argument ∧
      numbered.extraArguments "renumber" =
        [{ method := "renumber", name := argument, type := .objectId parent }]) ∧
    ∀ {other : Schema} {twin : Entity} {earlierTwin laterTwin : List Property}
      {numberedTwin : Property}, other.Reachable → other.phase = .finalized →
      twin ∈ other.entities →
      twin.properties = earlierTwin ++ numberedTwin :: laterTwin →
      earlierTwin.map Property.unresolved = earlier.map Property.unresolved →
      numberedTwin.unresolved = numbered.unresolved →
      (laterTwin.filter fun property => property.tag == .storedObject).map Property.unresolved =
        (later.filter fun property => property.tag == .storedObject).map Property.unresolved →
      numberedTwin.resolved = numbered.resolved := by
  intro first?
  have settled := reached.settled finalized entity mem
  have names := (reached.wellFormed.entities entity mem).propertyNames
  have resolved := settled.resolved_eq split
  have scope := settled.numberingScope?_eq names split
  simp only [Property.plainSettings, kind, scope] at resolved
  refine ⟨?_, ?_, ?_, ?_⟩
  · have named := settled.numberingScope_eq names split kind
    rw [resolved, Option.bind_some] at named
    exact ⟨_, resolved, named⟩
  · intro unscoped
    have unlinked : Property.firstLink? earlier = none := unscoped
    rw [Property.extraArguments, resolved, unlinked]
    rfl
  · intro link found
    have first : Property.firstLink? earlier = some link := found
    obtain ⟨inEarlier, parent, linkKind⟩ := Property.mem_of_firstLink?_eq_some first
    obtain ⟨before, rest, here⟩ := List.append_of_mem inEarlier
    have linkResolved := settled.resolved_eq
      (show entity.properties = before ++ link :: (rest ++ numbered :: later) by simp [split, here])
    refine ⟨parent, parentArgumentName link.name, linkKind, ?_, ?_⟩
    · simp [linkResolved, Property.plainSettings, linkKind]
    · simp [Property.extraArguments, resolved, first, Property.scope?, linkKind]
  · intro other twin earlierTwin laterTwin numberedTwin otherReached otherFinalized twinMem
      splitTwin sameEarlier same sameRecords
    exact settled.resolved_numbered_congr (otherReached.settled otherFinalized twin twinMem) names
      (otherReached.wellFormed.entities twin twinMem).propertyNames split splitTwin kind
      sameEarlier same sameRecords

/-- Invoices that are numbered within their customer, with properties attached after that. -/
def invoicesOfCustomers (behind : List Property) : List Command :=
  Demo.Sales.customers ++ Demo.Sales.products ++
  Demo.identified Demo.Sales.invoice "Invoice" "A bill sent to a customer" ++
  [Demo.attach Demo.Sales.invoice
    { name := "CUSTOMER", kind := .linkedToParent Demo.Sales.customer },
   Demo.attach Demo.Sales.invoice (.ofKind .numbered)] ++
  behind.map (Demo.attach Demo.Sales.invoice) ++ [.finish]

/-- A link to a product behind the numbering leaves it as it is. -/
theorem numbering_scoped_invoices :
    let schema := (({ name := "sales" } : Schema).executeAll (invoicesOfCustomers [])).1
    let other := (({ name := "sales" } : Schema).executeAll (invoicesOfCustomers
      [.ofKind (.linkedToParent Demo.Sales.product)])).1
    ∃ entity ∈ schema.entities, entity.key = Demo.Sales.invoice ∧
      ∃ twin ∈ other.entities, twin.key = Demo.Sales.invoice ∧
        twin.properties[4]?.map Property.tag = some .linkedToParent ∧
        ∃ numbered ∈ entity.properties, ∃ numberedTwin ∈ twin.properties, ∃ settings,
          numbered.resolved = some settings ∧ numberedTwin.resolved = some settings ∧
          settings.numberingScope = some "CUSTOMER" ∧
          ∃ argument, numbered.extraArguments "renumber" = [argument] := by
  intro schema other
  have found : schema.phase = .finalized ∧ other.phase = .finalized ∧
      ∃ entity ∈ schema.entities, entity.key = Demo.Sales.invoice ∧
      ∃ twin ∈ other.entities, twin.key = Demo.Sales.invoice ∧
      ∃ numbered ∈ entity.properties, numbered.kind = .numbered ∧
      ∃ link ∈ entity.properties, link.name = "CUSTOMER" ∧
      ∃ numberedTwin ∈ twin.properties, numberedTwin.kind = .numbered ∧
        entity.properties = entity.properties.take 3 ++ numbered :: [] ∧
        twin.properties = twin.properties.take 3 ++ numberedTwin :: twin.properties.drop 4 ∧
        twin.properties[4]?.map Property.tag = some .linkedToParent ∧
        ((entity.properties.take 3).find? fun property => property.tag == .linkedToParent) =
          some link ∧
        (twin.properties.take 3).map Property.unresolved =
          (entity.properties.take 3).map Property.unresolved ∧
        numberedTwin.unresolved = numbered.unresolved ∧
        ((twin.properties.drop 4).filter fun property => property.tag == .storedObject) = [] := by
    decide +kernel
  obtain ⟨finalized, otherFinalized, stored⟩ := found
  obtain ⟨entity, mem, key, twin, twinMem, twinKey, numbered, inEntity, kind, link, -, named,
    numberedTwin, inTwin, -, split, splitTwin, behind, first, sameEarlier, same, noRecord⟩ := stored
  have reached := (Reachable.start "sales").executeAll (invoicesOfCustomers [])
  have otherReached := (Reachable.start "sales").executeAll
    (invoicesOfCustomers [.ofKind (.linkedToParent Demo.Sales.product)])
  obtain ⟨⟨settings, resolved, scope⟩, -, renumbering, unchanged⟩ :=
    reached.numbering_scoped finalized mem split kind
  obtain ⟨parent, argument, -, -, taken⟩ := renumbering link first
  rw [first, Option.map_some, named] at scope
  have resolvedTwin : numberedTwin.resolved = numbered.resolved :=
    unchanged otherReached otherFinalized twinMem splitTwin sameEarlier same (by rw [noRecord]; rfl)
  exact ⟨entity, mem, key, twin, twinMem, twinKey, behind, numbered, inEntity, numberedTwin, inTwin,
    settings, resolved, resolvedTwin.trans resolved, scope, _, taken⟩

end Schema.Reachable

end EntitySurface
