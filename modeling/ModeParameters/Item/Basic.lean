import ModeParameters.Error
import ModeParameters.Field

/-! # Items and requests

An item is what a user writes to name one field and, for a change, its new value. Items that have
been matched with the tables become a request: bindings of fields, all on one page. -/

namespace ModeParameters

/-- What items are for. -/
inductive ItemMode
  /-- To read fields. An item has no value. -/
  | get
  /-- To change fields. An item without a value sets 1. -/
  | set
  /-- To clear fields. An item has no value and sets 0. -/
  | clear
deriving DecidableEq, Repr

/-- A value as the user gives it. -/
inductive RawValue
  /-- A number of at most 64 bits. -/
  | number (n : Nat)
  /-- Every bit of the field. -/
  | allOnes
deriving DecidableEq, Repr

/-- How an item names its field. -/
inductive ItemName
  /-- By an acronym, and by the descriptor it is in when that is not the first. -/
  | acronym (acronym : String) (index : Option Nat)
  /-- By coordinates. -/
  | coordinates (span : BitSpan)
deriving DecidableEq, Repr

/-- An item that has been read but not yet matched with the tables; `Item.parse` makes one of a
text. -/
structure Item where
  /-- The text of the item. -/
  text : String
  /-- The name in it. -/
  name : ItemName
  /-- The value in it or implied; `none` for an item that reads. -/
  value : Option RawValue
  /-- The text of the value, when it is in the item. -/
  literal : Option String
deriving DecidableEq, Repr

/-- What a binding does with its field. -/
inductive Action
  /-- Read it. -/
  | query
  /-- Set it to a number. `Action.ofValue` takes only numbers that fit it. -/
  | set (value : Nat)
deriving DecidableEq, Repr

/-- A field and what to do with it; `LookupContext.bind` makes one of an item. -/
structure Binding where
  /-- The field. -/
  field : Field
  /-- What to do. -/
  action : Action
  /-- The descriptor it is in, when one was named. -/
  index : Option Nat
  /-- The text of the value, when there was one. -/
  literal : Option String
  /-- The value before it was cut to the width of the field. -/
  requested : Option RawValue
deriving DecidableEq, Repr

namespace Binding

/-- The descriptor that the field is in: `index`, or 0 when none was named. -/
def descriptorIndex (binding : Binding) : Nat := binding.index.getD 0

/-- What the field is called: `Field.labelAt` the `descriptorIndex`. -/
def label (binding : Binding) : String := binding.field.labelAt binding.descriptorIndex

/-- The value lost bits when it was cut to the width of the field: it is not the `requested`
number. -/
def isTruncated (binding : Binding) : Bool :=
  match binding.requested, binding.action with
  | some (.number raw), .set value => raw != value
  | _, _ => false

end Binding

/-- The action for a value on a field of some width: `query` without one, else the value cut by
`mask width`. -/
def Action.ofValue (width : Nat) : Option RawValue → Action
  | none => .query
  | some .allOnes => .set (mask width)
  | some (.number n) => .set (n &&& mask width)

/-- What to do with fields of one page, in the order of the items. -/
structure Request where
  /-- The page. -/
  page : PageKey
  /-- The fields. -/
  bindings : List Binding
deriving DecidableEq, Repr

end ModeParameters
