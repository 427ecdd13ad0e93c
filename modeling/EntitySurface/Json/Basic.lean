/-!
# JSON values

Numbers that are plain natural numbers are kept by value, every other number by its literal: nothing
that this library writes or reads is of the second kind.

A record is read field by field, and what it holds beside its fields is passed over. A tagged record
is the exception: all of it is taken in before its tag is known, so nothing in it may be without a
value.
-/

namespace EntitySurface

/-- A JSON value; the members of an object keep their order. -/
inductive Json where
  | null
  | bool (value : Bool)
  | natural (value : Nat)
  /-- A number with a sign, a fraction or an exponent. -/
  | numeral (literal : String)
  | string (value : String)
  | array (items : List Json)
  | object (members : List (String × Json))
  /-- Well-formed text without a value, which may be passed over but not read: a string with half of
  a surrogate pair, an object with such a name, a number beyond every double, or an array or object
  that is nested too deep. -/
  | unusable

/-- What a value is read from. The notations that a variant may have depend on it. -/
inductive JsonSource where
  /-- A text, part by part. -/
  | text
  /-- A value that is there as a whole. -/
  | value
  /-- A tagged record, which was taken in before its tag was known. -/
  | tagged
  deriving DecidableEq

namespace Json

/-- The truth value, if it is one. -/
def bool? : Json → Option Bool
  | bool value => some value
  | _ => none

/-- The text of a string. -/
def string? : Json → Option String
  | string value => some value
  | _ => none

/-- The items of an array. -/
def array? : Json → Option (List Json)
  | array items => some items
  | _ => none

/-- The members of an object. -/
def object? : Json → Option (List (String × Json))
  | object members => some members
  | _ => none

/-- A natural number below `bound`. -/
def naturalBelow? (bound : Nat) : Json → Option Nat
  | natural value => if value < bound then some value else none
  | _ => none

/-- A natural number of 64 bits. -/
def uint64? (json : Json) : Option UInt64 :=
  (json.naturalBelow? UInt64.size).map UInt64.ofNat

/-- A natural number of 8 bits. -/
def uint8? (json : Json) : Option UInt8 :=
  (json.naturalBelow? UInt8.size).map UInt8.ofNat

/-- The value of the last member with a given name. -/
def member? (json : Json) (name : String) : Option Json :=
  match json with
  | object members => (members.reverse.find? fun entry => entry.1 == name).map Prod.snd
  | _ => none

/-- The values of the named fields of a record. A record is written as an object, in which a field
may be missing but not repeated, or as the list of all its fields in order. -/
def fields? (names : List String) : Json → Option (List (Option Json))
  | object members =>
      names.mapM fun name =>
        match members.filter fun entry => entry.1 == name with
        | [] => some none
        | [entry] => some (some entry.2)
        | _ => none
  | array items => if items.length = names.length then some (items.map some) else none
  | _ => none

mutual

/-- Everything in a value can be read. -/
def isUsable : Json → Bool
  | array items => eachItemUsable items
  | object members => eachMemberUsable members
  | unusable => false
  | _ => true

/-- Every item of a list can be read. -/
def eachItemUsable : List Json → Bool
  | [] => true
  | item :: rest => isUsable item && eachItemUsable rest

/-- The value of every member of an object can be read. -/
def eachMemberUsable : List (String × Json) → Bool
  | [] => true
  | (_, value) :: rest => isUsable value && eachMemberUsable rest

end

/-- The variant that a tag names. Inside of another tagged record a variant may also be given by its
place among all `variants`. -/
def variant? (source : JsonSource) (variants : List String) : Json → Option String
  | string value => some value
  | natural place => if source = .tagged then variants[place]? else none
  | _ => none

/-- Split a record into the variant that its tag names and the rest of the record. -/
def tagged? (source : JsonSource) (tag : String) (variants : List String) (json : Json) :
    Option (String × Json) :=
  if json.isUsable then
    match json with
    | object members =>
        match members.filter fun entry => entry.1 == tag with
        | [(_, named)] => (named.variant? source variants).map fun variant =>
            (variant, object (members.filter fun entry => entry.1 != tag))
        | _ => none
    | array (named :: rest) => (named.variant? source variants).map fun variant =>
        (variant, array rest)
    | _ => none
  else none

/-- Put a tag in front of the members of an object. -/
def withTag (tag value : String) (members : List (String × Json)) : Json :=
  object ((tag, string value) :: members)

mutual

/-- Sort the members of every object by name. -/
def sortMembers : Json → Json
  | array items => array (sortEachItem items)
  | object members => object ((sortEachMember members).mergeSort fun first second =>
      first.1 ≤ second.1)
  | json => json

/-- Sort the members inside every item of a list. -/
def sortEachItem : List Json → List Json
  | [] => []
  | item :: rest => sortMembers item :: sortEachItem rest

/-- Sort the members inside every member of an object. -/
def sortEachMember : List (String × Json) → List (String × Json)
  | [] => []
  | (name, value) :: rest => (name, sortMembers value) :: sortEachMember rest

end

end Json

end EntitySurface
