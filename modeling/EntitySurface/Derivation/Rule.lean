import EntitySurface.Derivation.Documents
import EntitySurface.Derivation.Objects
import EntitySurface.Derivation.Progress
import EntitySurface.Derivation.Relations

/-!
# Deriving a surface

A derivation rule says which entities it applies to and what it contributes to their surface. The
rules run once each in a fixed order, so the same composition always derives the same surface.
-/

namespace EntitySurface

/-- The rules of derivation. -/
inductive DerivationRule where
  | create
  | showing
  | lifecycle
  | timeSlot
  | schedule
  | targetDate
  | parentLinks
  | deletion
  | history
  | workflow
  | numbering
  | link
  | autolink
  | children
  | content
  | printOut
  deriving DecidableEq

namespace DerivationRule

/-- All rules in the order in which they run. -/
def standard : List DerivationRule := [
  create, showing, lifecycle, timeSlot, schedule, targetDate, parentLinks, deletion, history,
  workflow, numbering, link, autolink, children, content, printOut]

/-- The name by which the rule is chosen. -/
def name : DerivationRule → String
  | create => "create"
  | showing => "show"
  | lifecycle => "lifecycle"
  | timeSlot => "time_slot"
  | schedule => "schedule"
  | targetDate => "target_date"
  | parentLinks => "parent_links"
  | deletion => "deletion"
  | history => "history"
  | workflow => "workflow"
  | numbering => "numbering"
  | link => "link"
  | autolink => "autolink"
  | children => "children"
  | content => "content"
  | printOut => "print_out"

/-- The rule of a name. -/
def ofName? (name : String) : Option DerivationRule :=
  standard.find? fun rule => rule.name == name

/-- The rule contributes to the surface of the entity. -/
def appliesTo (rule : DerivationRule) (entity : Entity) : Bool :=
  match rule with
  | create => entity.hasKind .storedObject && !entity.isLink && !entity.isAutolink
  | showing => entity.hasShowSurface
  | lifecycle => entity.hasKind .lifecycle
  | timeSlot => entity.hasKind .timeSlot
  | schedule => entity.hasKind .schedule
  | targetDate => entity.hasKind .targetDate
  | parentLinks => entity.hasKind .linkedToParent
  | deletion => entity.hasKind .uniqueIdentified
  | history => entity.hasKind .iterated || entity.hasKind .versioned
  | workflow => entity.hasKind .simpleTaskWorkflow
  | numbering => (entity.firstOf? .numbered).any fun numbered => !numbered.isAutomaticNumbering
  | link => entity.isLink
  | autolink => entity.isAutolink
  | children => entity.hasKind .hasChildren
  | content => entity.hasKind .imageContent || entity.hasKind .fileContent
  | printOut => entity.hasKind .printOut

/-- What the rule contributes to the surface of an entity that it applies to. -/
def contributions (rule : DerivationRule) (entity : Entity) : Except Fault (List Contribution) :=
  match rule with
  | create => .ok (Derivation.creation entity)
  | showing => .ok (Derivation.showing entity)
  | lifecycle => .ok (Derivation.stateChange entity)
  | timeSlot => .ok (Derivation.rescheduling entity)
  | schedule => .ok (Derivation.planning entity)
  | targetDate => Derivation.targetDate entity
  | parentLinks => Derivation.parentChanges entity
  | deletion => Derivation.deletion entity
  | history => .ok (Derivation.history entity)
  | workflow => .ok (Derivation.tasks entity)
  | numbering => .ok (Derivation.renumbering entity)
  | link => .ok (Derivation.linking entity)
  | autolink => .ok (Derivation.autolinking entity)
  | children => .ok (Derivation.childCollections entity)
  | content => .ok (Derivation.images entity ++ Derivation.attachments entity)
  | printOut => .ok (Derivation.printOuts entity)

end DerivationRule

namespace Surface

/-- Let rules contribute to a surface in order, up to the first fault. -/
def applyRules (entity : Entity) (surface : Surface) :
    List DerivationRule → Except Fault Surface
  | [] => .ok surface
  | rule :: rest =>
      if rule.appliesTo entity then
        match rule.contributions entity with
        | .error fault => .error fault
        | .ok contributions =>
            match surface.absorbAll contributions with
            | .error fault => .error fault
            | .ok changed => applyRules entity changed rest
      else applyRules entity surface rest

/-- Derive the surface of a finalized entity by the given rules. -/
def derive (rules : List DerivationRule) (entity : Entity) : Except Fault Surface :=
  if entity.finalized then applyRules entity (empty entity.key) rules
  else .error (.entityNotFinalized entity.key)

end Surface

end EntitySurface
