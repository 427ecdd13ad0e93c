/-!
# TOML values

The values that a configuration is made of: strings, booleans, numbers, dates and times, arrays and
tables. A table remembers how it came to be, for that decides how it may still grow: a table may be
opened by a header only once, and a dotted key may add only to tables that dotted keys have made.
-/

namespace EntitySurface

/-- How a table came to be. -/
inductive TableOrigin where
  /-- Named on the way to the table of a header. -/
  | implied
  /-- Made by a dotted key. -/
  | dotted
  /-- Opened by its own header. -/
  | header
  /-- Written as one value. -/
  | inline
  deriving DecidableEq

/-- A TOML value. -/
inductive Toml where
  | string (value : String)
  | boolean (value : Bool)
  | integer (value : Int)
  /-- A floating-point number, by its literal. -/
  | float (literal : String)
  /-- A date, a time of day or both, by its canonical text. -/
  | moment (text : String)
  | array (items : List Toml)
  | table (origin : TableOrigin) (entries : List (String × Toml))

namespace Toml

/-- The text of a string. -/
def string? : Toml → Option String
  | string value => some value
  | _ => none

/-- The truth value, if it is one. -/
def boolean? : Toml → Option Bool
  | boolean value => some value
  | _ => none

/-- The entries of a table. -/
abbrev Entries := List (String × Toml)

namespace Entries

/-- Set the value of the first entry of a given name. -/
def replace (name : String) (value : Toml) : Entries → Entries
  | [] => []
  | (other, kept) :: rest =>
      if other == name then (name, value) :: rest else (other, kept) :: replace name value rest

/-- Add the value of a dotted key, given as the names before its last one and the last one. No value
is replaced, and only tables made by dotted keys are added to. -/
def set (key : String) (value : Toml) : List String → Entries → Option Entries
  | [], entries => if (entries.lookup key).isSome then none else some (entries ++ [(key, value)])
  | name :: rest, entries =>
      match entries.lookup name with
      | none => (set key value rest []).map fun inner => entries ++ [(name, table .dotted inner)]
      | some (table origin inner) =>
          if origin == .dotted || (origin == .implied && !rest.isEmpty) then
            (set key value rest inner).map fun inner => entries.replace name (table origin inner)
          else none
      | some _ => none

/-- Open a table by its header. A table that an earlier header implied keeps what it has. -/
def openTable (key : String) : List String → Entries → Option Entries
  | [], entries =>
      match entries.lookup key with
      | none => some (entries ++ [(key, table .header [])])
      | some (table .implied inner) => some (entries.replace key (table .header inner))
      | some _ => none
  | name :: rest, entries =>
      match entries.lookup name with
      | none => (openTable key rest []).map fun inner => entries ++ [(name, table .implied inner)]
      | some (table .inline _) => none
      | some (table origin inner) =>
          (openTable key rest inner).map fun inner => entries.replace name (table origin inner)
      | some _ => none

/-- Change the entries of the table at a path. -/
def modifyAt (change : Entries → Option Entries) : List String → Entries → Option Entries
  | [], entries => change entries
  | name :: rest, entries =>
      match entries.lookup name with
      | some (table origin inner) =>
          (modifyAt change rest inner).map fun inner => entries.replace name (table origin inner)
      | _ => none

end Entries

/-- The values of the named settings of a record. A record is written as a table, in which settings
may be missing but no others may stand, or as an array of the settings in order, which may end early
and of which nothing past the last setting is looked at. -/
def settings? (names : List String) : Toml → Option (List (Option Toml))
  | table _ entries =>
      if entries.all fun entry => names.contains entry.1 then
        some (names.map fun name => entries.lookup name)
      else none
  | array items => some ((List.range names.length).map fun place => items[place]?)
  | _ => none

end Toml

end EntitySurface
