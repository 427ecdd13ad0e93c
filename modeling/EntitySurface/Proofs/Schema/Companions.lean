import EntitySurface.Proofs.Schema.Holdings

/-!
# Links and their companions

A link implies companions at its ends, which are stored by the same cascade. Throughout a run, every
companion of a stored link is stored. In a run in which companions arrive by cascades only, the
converse holds too: every stored companion belongs to one link, and is as visible as this link.

Both are proved for cascades that are still under way, where a companion may also be waiting.
-/

namespace EntitySurface

open Composer

/-! ## What links imply -/

/-- What the holder of a link implies that others hold, as visible as the link. -/
def Holding.implied (link : Holding) : List Holding :=
  (link.kind.companions link.holder link.name).map fun companion =>
    { holder := companion.target, name := companion.property.name, kind := companion.property.kind
      visibility := link.visibility }

/-- What the target of an attachment holds after it. -/
def Composer.Pending.holding (pending : Pending) : Holding :=
  pending.bound.holding pending.target

theorem Composer.Pending.map_holding_implied (pending : Pending) :
    pending.implied.map holding = pending.holding.implied := by
  simp only [implied, Holding.implied, List.map_map]
  rfl

/-- What a companion of the given kind tells about its link: who holds it, and its name or, where
the holder can have only one such link, its kind. -/
def PropertyKind.PointsTo (kind : PropertyKind) (holder : EntityKey) (link : Property) : Prop :=
  match kind with
  | .hasChildren child name => child = holder ∧ name = link.name
  | .leftForLink key _ | .rightForLink key _ => key = holder ∧ link.tag = .linkObject
  | .hasAutolink key => key = holder ∧ link.tag = .autolinkObject
  | _ => False

theorem PropertyKind.pointsTo_of_mem_companions {holder : EntityKey} {link : Property}
    {companion : Companion} (mem : companion ∈ link.kind.companions holder link.name) :
    companion.property.kind.PointsTo holder link := by
  cases kind : link.kind <;>
    simp only [kind, companions, List.mem_cons, List.not_mem_nil, or_false] at mem
  case linkedToParent =>
    subst mem
    exact ⟨rfl, rfl⟩
  case linkObject =>
    have tag : link.tag = .linkObject := by rw [Property.tag, kind]; rfl
    rcases mem with rfl | rfl
    · exact ⟨rfl, tag⟩
    · exact ⟨rfl, tag⟩
  case autolinkObject =>
    have tag : link.tag = .autolinkObject := by rw [Property.tag, kind]; rfl
    subst mem
    exact ⟨rfl, tag⟩

theorem PropertyKind.PointsTo.holder_eq {kind : PropertyKind} {first second : EntityKey}
    {link other : Property} (toFirst : kind.PointsTo first link)
    (toSecond : kind.PointsTo second other) : first = second := by
  cases kind
  case hasChildren | leftForLink | rightForLink | hasAutolink =>
    exact toFirst.1.symm.trans toSecond.1
  all_goals contradiction

/-- A companion points to one stored property at most. -/
theorem Entity.WellFormed.eq_of_pointsTo {entity : Entity} (wellFormed : entity.WellFormed)
    {kind : PropertyKind} {link other : Property} (linkMem : link ∈ entity.properties)
    (otherMem : other ∈ entity.properties) (toLink : kind.PointsTo entity.key link)
    (toOther : kind.PointsTo entity.key other) : link = other := by
  cases kind
  case hasChildren =>
    exact List.inj_on_of_nodup_map wellFormed.propertyNames linkMem otherMem
      (toLink.2.symm.trans toOther.2)
  case leftForLink | rightForLink =>
    exact wellFormed.eq_of_linkObject linkMem otherMem toLink.2 toOther.2
  case hasAutolink => exact wellFormed.eq_of_autolinkObject linkMem otherMem toLink.2 toOther.2
  all_goals contradiction

/-! ## Cascades under way -/

namespace Schema

variable {schema : Schema} {queue : List Holding}

/-- Every companion of a stored link waits to be stored or is stored, no matter how visible. -/
def Carries (schema : Schema) (queue : List Holding) : Prop :=
  ∀ link ∈ schema.holdings, ∀ companion ∈ link.implied,
    companion ∈ queue ∨ ∃ visibility, { companion with visibility } ∈ schema.holdings

/-- Every companion that is stored or waits to be stored is implied by a stored link. -/
def Accounts (schema : Schema) (queue : List Holding) : Prop :=
  ∀ companion, companion ∈ schema.holdings ∨ companion ∈ queue →
    companion.kind.tag.isCompanion = true → ∃ link ∈ schema.holdings, companion ∈ link.implied

end Schema

namespace Composer

variable {before after : Schema} {pending : Pending} {rest implied : List Pending} {done : Unit}

/-- A processed attachment is a companion that its target holds already, or the target holds it now
and what it implies waits. -/
theorem process_holdings (wellFormed : before.WellFormed)
    (processed : process pending before = .ok implied after) :
    (implied = [] ∧ after = before ∧
      ∃ visibility, { pending.holding with visibility } ∈ before.holdings) ∨
    (implied = pending.implied ∧
      ∀ holding, holding ∈ after.holdings ↔ holding ∈ before.holdings ∨ holding = pending.holding)
    := by
  rcases process_eq_ok processed with ⟨owner, existing, known, found, kind, rfl, rfl⟩ | stored
  · obtain ⟨mem, key⟩ := wellFormed.entity?_eq_some_iff.mp known
    obtain ⟨inProperties, name⟩ := Entity.mem_of_property?_eq_some found
    refine Or.inl ⟨rfl, rfl, existing.visibility, ?_⟩
    apply Schema.mem_holdings_iff.mpr
    refine ⟨owner, mem, existing, inProperties, ?_⟩
    simp only [Property.holding, Pending.holding, Pending.bound, key, kind, name]
  · obtain ⟨rfl, found, known, -, rfl⟩ := store_eq_ok wellFormed stored
    refine Or.inr ⟨rfl, fun holding => ?_⟩
    apply Schema.mem_holdings_replace_iff known
    rw [Entity.holdings_withProperty, wellFormed.key_eq known]
    rfl

theorem carries_process (wellFormed : before.WellFormed)
    (processed : process pending before = .ok implied after)
    (carries : before.Carries ((pending :: rest).map Pending.holding)) :
    after.Carries ((rest ++ implied).map Pending.holding) := by
  intro link stored companion mem
  rcases process_holdings wellFormed processed with ⟨rfl, rfl, visibility, present⟩ | ⟨rfl, holds⟩
  · rcases carries link stored companion mem with waiting | carried
    · rcases List.mem_cons.mp waiting with rfl | inRest
      · exact Or.inr ⟨visibility, present⟩
      · exact Or.inl (by simpa using inRest)
    · exact Or.inr carried
  · rw [List.map_append, Pending.map_holding_implied, List.mem_append]
    rcases (holds link).mp stored with old | rfl
    · rcases carries link old companion mem with waiting | ⟨visibility, carried⟩
      · rcases List.mem_cons.mp waiting with rfl | inRest
        · exact Or.inr ⟨_, (holds _).mpr (Or.inr rfl)⟩
        · exact Or.inl (Or.inl inRest)
      · exact Or.inr ⟨visibility, (holds _).mpr (Or.inl carried)⟩
    · exact Or.inl (Or.inr mem)

theorem accounts_process (wellFormed : before.WellFormed)
    (processed : process pending before = .ok implied after)
    (accounts : before.Accounts ((pending :: rest).map Pending.holding)) :
    after.Accounts ((rest ++ implied).map Pending.holding) := by
  intro companion place tagged
  rcases process_holdings wellFormed processed with ⟨rfl, rfl, -⟩ | ⟨rfl, holds⟩
  · apply accounts companion _ tagged
    rw [List.append_nil] at place
    exact place.imp_right (List.mem_cons_of_mem _)
  · rw [List.map_append, Pending.map_holding_implied, List.mem_append, holds] at place
    have known : (companion ∈ before.holdings ∨
        companion ∈ (pending :: rest).map Pending.holding) ∨
          companion ∈ pending.holding.implied := by
      rw [List.map_cons, List.mem_cons]
      tauto
    rcases known with old | new
    · obtain ⟨link, stored, mem⟩ := accounts companion old tagged
      exact ⟨link, (holds link).mpr (Or.inl stored), mem⟩
    · exact ⟨pending.holding, (holds _).mpr (Or.inr rfl), new⟩

/-- A cascade that comes to its end leaves every link with its companions. -/
theorem carries_drain {steps : Nat} {queue : List Pending} (wellFormed : before.WellFormed)
    (carries : before.Carries (queue.map Pending.holding))
    (drained : drain steps queue before = .ok done after) : after.Carries [] := by
  have kept := drain_induction
    (fun schema queue => schema.WellFormed ∧ schema.Carries (queue.map Pending.holding)) ?_
    ⟨wellFormed, carries⟩ drained
  · exact kept.2
  · rintro middle next pending rest implied processed ⟨sound, carries⟩
    exact ⟨(process_growth sound processed).wellFormed sound,
      carries_process sound processed carries⟩

theorem accounts_drain {steps : Nat} {queue : List Pending} (wellFormed : before.WellFormed)
    (accounts : before.Accounts (queue.map Pending.holding))
    (drained : drain steps queue before = .ok done after) : after.Accounts [] := by
  have kept := drain_induction
    (fun schema queue => schema.WellFormed ∧ schema.Accounts (queue.map Pending.holding)) ?_
    ⟨wellFormed, accounts⟩ drained
  · exact kept.2
  · rintro middle next pending rest implied processed ⟨sound, accounts⟩
    exact ⟨(process_growth sound processed).wellFormed sound,
      accounts_process sound processed accounts⟩

end Composer

/-! ## Runs -/

/-- The command attaches a property of a kind that is meant to arrive by cascades. -/
def Command.attachesCompanion : Command → Bool
  | .property _ attached _ => attached.tag.isCompanion
  | _ => false

namespace Schema

variable {schema : Schema}

/-- The schemas that composition runs lead to in which companions arrive by cascades only. -/
inductive ReachableByLinks : Schema → Prop where
  | start (name : String) : ReachableByLinks { name }
  | step {schema : Schema} (command : Command) (reached : ReachableByLinks schema)
      (byLinks : command.attachesCompanion = true → (schema.execute command).2 ≠ none) :
      ReachableByLinks (schema.execute command).1

/-- A property is attached with all that it implies, or nothing happens. -/
theorem execute_property (wellFormed : schema.WellFormed) (key : EntityKey) (property : Property)
    (visibility : Visibility) :
    (schema.execute (.property key property visibility)).1 = schema ∨
      (schema.execute (.property key property visibility)).2 = none ∧
        drain maxCascadeSteps [{ target := key, property, visibility, isCompanion := false }]
          schema = .ok () (schema.execute (.property key property visibility)).1 := by
  unfold execute
  cases outcome : Command.step (.property key property visibility) schema with
  | error fault after => exact Or.inl (Command.allOrNothing wellFormed rfl fault after outcome)
  | ok done after =>
      simp only [Command.step, attach, bind_eq_ok_iff, ensureComposing_eq_ok_iff,
        requireEntity_eq_ok_iff, restoring_eq_ok_iff] at outcome
      obtain ⟨_, _, ⟨-, rfl⟩, _, _, ⟨-, rfl⟩, drained⟩ := outcome
      exact Or.inr ⟨rfl, drained⟩

theorem Carries.of_holdings_eq {other : Schema} (carries : schema.Carries [])
    (same : other.holdings = schema.holdings) : other.Carries [] := by
  unfold Carries at carries ⊢
  rwa [same]

theorem Accounts.of_holdings_eq {other : Schema} (accounts : schema.Accounts [])
    (same : other.holdings = schema.holdings) : other.Accounts [] := by
  unfold Accounts at accounts ⊢
  rwa [same]

theorem Reachable.carries (reached : schema.Reachable) : schema.Carries [] := by
  induction reached with
  | start name => nofun
  | @step schema command reached ih =>
      rcases command.attaches_or_keepsHoldings with ⟨key, property, visibility, rfl⟩ | keeps
      · rcases execute_property reached.wellFormed key property visibility with
          same | ⟨-, drained⟩
        · rwa [same]
        · apply carries_drain reached.wellFormed _ drained
          intro link stored companion mem
          exact (ih link stored companion mem).imp_left nofun
      · exact ih.of_holdings_eq (execute_holdings command keeps)

namespace ReachableByLinks

theorem reachable (reached : schema.ReachableByLinks) : schema.Reachable := by
  induction reached with
  | start name => exact .start name
  | step command reached byLinks ih => exact ih.step command

theorem accounts (reached : schema.ReachableByLinks) : schema.Accounts [] := by
  induction reached with
  | start name => rintro companion (stored | waiting) <;> contradiction
  | @step schema command reached byLinks ih =>
      rcases command.attaches_or_keepsHoldings with ⟨key, property, visibility, rfl⟩ | keeps
      · rcases execute_property reached.reachable.wellFormed key property visibility with
          same | ⟨succeeded, drained⟩
        · rwa [same]
        · apply accounts_drain reached.reachable.wellFormed _ drained
          rintro companion (stored | waiting) tagged
          · exact ih companion (Or.inl stored) tagged
          · obtain rfl := List.mem_singleton.mp waiting
            exact absurd succeeded (byLinks tagged)
      · exact ih.of_holdings_eq (execute_holdings command keeps)

/-- A run that attaches links only, however its commands end. -/
theorem executeAll (reached : schema.ReachableByLinks) {commands : List Command}
    (byLinks : ∀ command ∈ commands, command.attachesCompanion = false) :
    (schema.executeAll commands).1.ReachableByLinks := by
  induction commands generalizing schema with
  | nil => exact reached
  | cons command rest ih =>
      obtain ⟨first, others⟩ := List.forall_mem_cons.mp byLinks
      apply ih (reached.step command _) others
      intro attaches
      rw [first] at attaches
      contradiction

end ReachableByLinks

end Schema

/-- The stored property of the target is a companion of the link, as the source stores it. -/
def Property.IsCompanionOf (stored : Property) (target source : EntityKey) (link : Property) :
    Prop :=
  ∃ companion ∈ link.kind.companions source link.name,
    companion.target = target ∧ companion.property.name = stored.name ∧
      companion.property.kind = stored.kind

theorem Property.IsCompanionOf.pointsTo {stored link : Property} {target source : EntityKey}
    (belongs : stored.IsCompanionOf target source link) : stored.kind.PointsTo source link := by
  obtain ⟨companion, mem, -, -, kind⟩ := belongs
  exact kind ▸ PropertyKind.pointsTo_of_mem_companions mem

/-- When companions arrive by cascades only, every stored companion belongs to a link. -/
theorem Schema.ReachableByLinks.exists_link {schema : Schema} (reached : schema.ReachableByLinks)
    {target : Entity} (targetMem : target ∈ schema.entities) {stored : Property}
    (storedMem : stored ∈ target.properties) (tagged : stored.tag.isCompanion = true) :
    ∃ source ∈ schema.entities, ∃ link ∈ source.properties,
      stored.IsCompanionOf target.key source.key link ∧ link.visibility = stored.visibility := by
  have held := mem_holdings_iff.mpr ⟨target, targetMem, stored, storedMem, rfl⟩
  obtain ⟨_, linkHeld, implied⟩ := reached.accounts _ (Or.inl held) tagged
  obtain ⟨source, sourceMem, link, linkMem, rfl⟩ := mem_holdings_iff.mp linkHeld
  obtain ⟨companion, mem, same⟩ := List.mem_map.mp implied
  simp only [Property.holding, Holding.mk.injEq] at same
  obtain ⟨holder, name, kind, visibility⟩ := same
  exact ⟨source, sourceMem, link, linkMem, ⟨companion, mem, holder, name, kind⟩, visibility⟩

namespace Schema.Reachable

variable {schema : Schema}

/-- Links and companions mirror each other. Every companion of a stored link is stored by its
target. In runs in which companions arrive by cascades only, every stored companion belongs to
exactly one link: it is owned by its target and as visible as this link. -/
theorem links_mirror_companions (reached : schema.Reachable) :
    (∀ source ∈ schema.entities, ∀ link ∈ source.properties,
      ∀ companion ∈ link.kind.companions source.key link.name,
        ∃ target ∈ schema.entities, target.key = companion.target ∧
          ∃ stored ∈ target.properties, stored.name = companion.property.name ∧
            stored.kind = companion.property.kind) ∧
    (schema.ReachableByLinks →
      ∀ target ∈ schema.entities, ∀ stored ∈ target.properties, stored.tag.isCompanion = true →
        stored.owner = some target.key ∧
        ∃ source ∈ schema.entities, ∃ link ∈ source.properties,
          stored.IsCompanionOf target.key source.key link ∧ link.visibility = stored.visibility ∧
            ∀ otherSource ∈ schema.entities, ∀ otherLink ∈ otherSource.properties,
              stored.IsCompanionOf target.key otherSource.key otherLink →
                otherSource = source ∧ otherLink = link) := by
  have wellFormed := reached.wellFormed
  constructor
  · intro source sourceMem link linkMem companion mem
    have held := mem_holdings_iff.mpr ⟨source, sourceMem, link, linkMem, rfl⟩
    rcases reached.carries _ held _ (List.mem_map_of_mem mem) with waiting | ⟨visibility, carried⟩
    · contradiction
    · obtain ⟨target, targetMem, stored, storedMem, same⟩ := mem_holdings_iff.mp carried
      simp only [Property.holding, Holding.mk.injEq] at same
      exact ⟨target, targetMem, same.1, stored, storedMem, same.2.1, same.2.2.1⟩
  · intro byLinks target targetMem stored storedMem tagged
    obtain ⟨source, sourceMem, link, linkMem, belongs, visibility⟩ :=
      byLinks.exists_link targetMem storedMem tagged
    refine ⟨(wellFormed.entities target targetMem).owned stored storedMem, source, sourceMem, link,
      linkMem, belongs, visibility, ?_⟩
    intro otherSource otherSourceMem otherLink otherLinkMem belongsToOther
    have toLink := belongs.pointsTo
    have toOther := belongsToOther.pointsTo
    obtain rfl := wellFormed.eq_of_key_eq otherSourceMem sourceMem (toOther.holder_eq toLink)
    exact ⟨rfl, (wellFormed.entities otherSource sourceMem).eq_of_pointsTo otherLinkMem linkMem
      toOther toLink⟩

/-- Parts, links between two parts, and a parent that links once had. -/
def linkedParts : List Command :=
  Demo.identified Demo.Projects.part "Part" "A physical part" ++
  Demo.identified Demo.Projects.partStructure "Part Structure" "Relation between parts" ++
  [Demo.attach Demo.Projects.partStructure
     (.ofKind (.linkObject Demo.Projects.part Demo.Projects.part)),
   .property Demo.Projects.partStructure
     { name := "OWNER", kind := .linkedToParent Demo.Projects.part } .legacy]

/-- Both sides of a link may lie on one entity. The parts hold one companion for each side of the
active link and one for the legacy link, and each of the three belongs to one link of the same
visibility. -/
theorem links_mirror_companions_linkedParts :
    let schema := (({ name := "projects" } : Schema).executeAll linkedParts).1
    (schema.entities.flatMap fun entity =>
        (entity.properties.filter fun property => property.tag.isCompanion).map fun property =>
          (entity.key, property.name, property.visibility)) =
      [(Demo.Projects.part, "LEFTFOR_PARTSTRUCTURE", .active),
       (Demo.Projects.part, "RIGHTFOR_PARTSTRUCTURE", .active),
       (Demo.Projects.part, "CHILDREN_PARTSTRUCTURE_OWNER", .legacy)] ∧
    ∀ target ∈ schema.entities, ∀ stored ∈ target.properties, stored.tag.isCompanion = true →
      ∃ source ∈ schema.entities, ∃ link ∈ source.properties,
        stored.IsCompanionOf target.key source.key link ∧ link.visibility = stored.visibility := by
  refine ⟨by decide +kernel, fun target targetMem stored storedMem tagged => ?_⟩
  have byLinks : (({ name := "projects" } : Schema).executeAll linkedParts).1.ReachableByLinks :=
    (ReachableByLinks.start "projects").executeAll (by decide)
  obtain ⟨-, source, sourceMem, link, linkMem, companion, visibility, -⟩ :=
    byLinks.reachable.links_mirror_companions.2 byLinks target targetMem stored storedMem tagged
  exact ⟨source, sourceMem, link, linkMem, companion, visibility⟩

end Schema.Reachable

end EntitySurface
