import EntitySurface.FieldType
import EntitySurface.Text.Case

/-!
# Search widgets

A widget marks a column of an entity as searchable by end users. Primary widgets appear on the
search page, every widget is an argument of the search operation.
-/

namespace EntitySurface

/-- A searchable column: a field, or an element stored by a property. -/
inductive ElementRef where
  | field (name : String)
  | property (property element : String)
  deriving DecidableEq

namespace ElementRef

/-- The column that the element is stored in. -/
def column : ElementRef → String
  | field name => name
  | property _ element => element

/-- The element as messages name it. -/
def text : ElementRef → String
  | field name => name
  | property name element => name ++ "." ++ element

end ElementRef

/-- How the input of a widget is read. -/
inductive WidgetKind where
  /-- A prefix match in which `*` stands for any text. -/
  | text
  /-- A choice among the values of a category. -/
  | choice (category : ChoiceKey)
  /-- A range of dates, ends included. -/
  | dateRange
  /-- Equality with one value. -/
  | exact
  deriving DecidableEq

namespace WidgetKind

/-- The kind of widget that fits a type. -/
def forType : FieldType → WidgetKind
  | .text _ => text
  | .choice category _ => choice category
  | .date | .timestamp => dateRange
  | _ => exact

/-- The kind as messages name it. -/
def label : WidgetKind → String
  | text => "text"
  | choice _ => "choice"
  | dateRange => "date range"
  | exact => "exact"

end WidgetKind

/-- A searchable column of an entity. -/
structure SearchWidget where
  element : ElementRef
  kind : WidgetKind
  isPrimary : Bool
  label : String
  deriving DecidableEq

/-- The search argument of a widget: its column in lowercase. -/
def SearchWidget.argumentName (widget : SearchWidget) : String :=
  Text.lowercase widget.element.column

end EntitySurface
