import EntitySurface.Key
import EntitySurface.Property.Tag

/-!
# Business rules

A business rule constrains or modifies the one property that carries it. Rules are ordered.
-/

namespace EntitySurface

/-- The closed set of business rules. -/
inductive BusinessRule where
  /-- The entity only exists under its parent. -/
  | subObject
  /-- Children are deleted with their parent. -/
  | parentOwnsDeletion
  /-- Numbers are assigned on insertion and cannot be set by hand. -/
  | automaticNumbering
  /-- Both ends of a link have the same parent. -/
  | sameParent (parent : EntityKey)
  /-- A left object holds at most one link. -/
  | maxOneForLeft
  /-- Left objects are in one of these states. -/
  | leftStateRestriction (states : List String)
  /-- Right objects are in one of these states. -/
  | rightStateRestriction (states : List String)
  /-- The link reads the same in both directions. -/
  | symmetric
  deriving DecidableEq

namespace BusinessRule

/-- The name of the rule without its parameters. -/
def name : BusinessRule → String
  | subObject => "SubObject"
  | parentOwnsDeletion => "ParentOwnsDeletion"
  | automaticNumbering => "AutomaticNumbering"
  | sameParent _ => "SameParent"
  | maxOneForLeft => "MaxOneForLeft"
  | leftStateRestriction _ => "LeftStateRestriction"
  | rightStateRestriction _ => "RightStateRestriction"
  | symmetric => "Symmetric"

/-- The kind of property that the rule is made for. -/
def appliesTo : BusinessRule → PropertyTag
  | subObject | parentOwnsDeletion => .linkedToParent
  | automaticNumbering => .numbered
  | sameParent _ | maxOneForLeft | leftStateRestriction _ | rightStateRestriction _ => .linkObject
  | symmetric => .autolinkObject

/-- A property of this kind may carry the rule. -/
def accepts (rule : BusinessRule) (tag : PropertyTag) : Bool :=
  rule.appliesTo == tag

/-- Rules on which objects a link may join. -/
def isLinkConstraint (rule : BusinessRule) : Bool :=
  rule.appliesTo == .linkObject

/-- Constraints that narrow the eligible left objects. -/
def restrictsLeft : BusinessRule → Bool
  | leftStateRestriction _ | maxOneForLeft => true
  | _ => false

/-- Constraints that narrow the eligible right objects. -/
def restrictsRight : BusinessRule → Bool
  | rightStateRestriction _ | sameParent _ => true
  | _ => false

/-- The states that a state restriction allows. -/
def states? : BusinessRule → Option (List String)
  | leftStateRestriction states | rightStateRestriction states => some states
  | _ => none

/-- The rule's parameters, as named texts. -/
def parameters : BusinessRule → List (String × String)
  | sameParent parent => [("parent", parent.text)]
  | leftStateRestriction states | rightStateRestriction states =>
      [("states", ",".intercalate states)]
  | _ => []

/-- The rule with its parameters, as it is shown. -/
def text (rule : BusinessRule) : String :=
  match rule.parameters with
  | [] => rule.name
  | parameters =>
      rule.name ++ "("
        ++ ", ".intercalate (parameters.map fun parameter => parameter.1 ++ "=" ++ parameter.2)
        ++ ")"

end BusinessRule

end EntitySurface
