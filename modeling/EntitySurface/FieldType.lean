import EntitySurface.Key

/-!
# Scalar types

The types of fields and of the columns that properties store.
-/

namespace EntitySurface

/-- The type of one stored value. -/
inductive FieldType where
  /-- Text of bounded length. -/
  | text (maxLength : UInt64)
  /-- One value of a choice category, or several. -/
  | choice (category : ChoiceKey) (multiple : Bool)
  /-- A fixed-point number. -/
  | decimal (precision scale : UInt8)
  | integer
  | boolean
  | date
  | timestamp
  /-- Images and other binary content. -/
  | binary
  /-- A reference to an entity. -/
  | objectId (entity : EntityKey)
  deriving DecidableEq

namespace FieldType

/-- Text is matched with patterns. -/
def isTextual : FieldType → Bool
  | text _ => true
  | _ => false

/-- Values of the type are codes of a category. -/
def isChoice : FieldType → Bool
  | choice _ _ => true
  | _ => false

/-- Values of the type are points in time. -/
def isTemporal : FieldType → Bool
  | date | timestamp => true
  | _ => false

/-- The category that the values come from. -/
def category? : FieldType → Option ChoiceKey
  | choice category _ => some category
  | _ => none

/-- The name of the type as it is shown. -/
def label : FieldType → String
  | text maxLength => "Text(" ++ toString maxLength.toNat ++ ")"
  | choice category false => "Choice(" ++ category.text ++ ")"
  | choice category true => "MultiChoice(" ++ category.text ++ ")"
  | decimal precision scale =>
      "Decimal(" ++ toString precision.toNat ++ "," ++ toString scale.toNat ++ ")"
  | integer => "Integer"
  | boolean => "Boolean"
  | date => "Date"
  | timestamp => "Timestamp"
  | binary => "Binary"
  | objectId entity => "ObjectId(" ++ entity.text ++ ")"

end FieldType

end EntitySurface
