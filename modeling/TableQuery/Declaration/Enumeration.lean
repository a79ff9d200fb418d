import TableQuery.Declaration.Record

/-!
# Enumerations stored in columns

A value of an enumeration is stored as its discriminant, so no variant may carry fields.  `Item` is
a declaration of either kind, of which each derivation accepts its own.
-/

namespace TableQuery.Declaration

/-- A variant of an enumeration. -/
structure Variant where
  name : String
  shape : Shape := .unit
  discriminant : Option Int := none

/-- The declaration of an enumeration. -/
structure Enumeration where
  name : String
  parameters : String := ""
  attributes : List Attribute := []
  variants : List Variant := []

namespace Enumeration

/-- What is wrong with an enumeration that is to be stored in a column. -/
def faults (e : Enumeration) : List Fault :=
  if let some f := valueFault? e.attributes then [f]
  else if hasParameters e.parameters then [.enumerationParameters]
  else if e.variants.isEmpty then [.noVariants]
  else (e.variants.filter (fun v => v.shape != .unit)).map fun _ => .variantFields

end Enumeration

/-- The declaration of a type. -/
inductive Item where
  | record (r : Record)
  | enumeration (e : Enumeration)

namespace Item

/-- The mapping to a table that a declaration gives. -/
def mapping : Item → Except Rejection Mapping
  | record r => r.mapping
  | enumeration e => .error (.faults [(valueFault? e.attributes).getD .notRecord])

/-- The enumeration that a declaration gives, fit to be stored in a column. -/
def stored : Item → Except (List Fault) Enumeration
  | record r => .error [(valueFault? r.attributes).getD .notEnumeration]
  | enumeration e => if e.faults.isEmpty then .ok e else .error e.faults

end Item

end TableQuery.Declaration
