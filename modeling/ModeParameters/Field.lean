import ModeParameters.BitSpan
import ModeParameters.FieldValue
import ModeParameters.DeviceType
import ModeParameters.Page.Key
import ModeParameters.Text.Blank

/-! # Fields

A field is a bit span of a page together with what a table says of it. The start byte counts from the
byte that carries the page code. -/

namespace ModeParameters

open Text (decimal)

/-- Hints on how a field is shown and matched. -/
structure FieldFlags where
  /-- Show it in hexadecimal. -/
  hex : Bool := false
  /-- It belongs to the short listing. -/
  common : Bool := false
  /-- It is a two's-complement number. -/
  twosComplement : Bool := false
  /-- It shares its place with fields of other descriptors, told apart by the `descriptorId`. -/
  clashOk : Bool := false
deriving DecidableEq, Repr

/-- The description of a field. -/
structure Field where
  /-- Short name; `none` for a field given by coordinates alone. -/
  acronym : Option String
  /-- The page it belongs to. -/
  page : PageKey
  /-- The devices it is for. -/
  filter : DeviceFilter := .any
  /-- Its place in the page. -/
  span : BitSpan
  /-- How it is shown and matched. -/
  flags : FieldFlags := {}
  /-- The descriptor id it is tied to, a four-bit number. -/
  descriptorId : Option Nat := none
  /-- What it is, in one line. -/
  description : String := ""
  /-- What its values mean. -/
  extra : Option String := none
deriving DecidableEq, Repr

namespace Field

/-- The field at given coordinates of a page, without an `acronym`. -/
def ofSpan (page : PageKey) (span : BitSpan) : Field := { acronym := none, page, span }

/-- A field known by an acronym. -/
def named (acronym : String) (page : PageKey) (span : BitSpan) (description : String) : Field :=
  { acronym := some acronym, page, span, description }

/-! ## Building -/

/-- A field with these `flags`. They are documented as hints that are added, but are assigned: the
flags that the field had are lost, `clashOk` among them. -/
def withFlags (field : Field) (flags : FieldFlags) : Field := { field with flags }

/-- A field for these devices alone. -/
def restrictedTo (field : Field) (filter : DeviceFilter) : Field := { field with filter }

/-- A field of the descriptors that carry the low four bits of `id`; others may share its place, so
`clashOk` is set. -/
def withDescriptorId (field : Field) (id : Nat) : Field :=
  { field with descriptorId := some (id % 16), flags := { field.flags with clashOk := true } }

/-- A field with an explanation of its values. -/
def withExtra (field : Field) (extra : String) : Field := { field with extra := some extra }

/-! ## Names -/

/-- A field answers to an acronym that is `Text.alike` its own, in any case. -/
def answersTo (field : Field) (acronym : String) : Bool :=
  field.acronym.any fun own => Text.alike own acronym

/-- An acronym with the number of a descriptor, as `PHID.2`; the first descriptor, 0, is left
out. -/
def numbered (acronym : String) (index : Nat) : String :=
  if index = 0 then acronym else acronym ++ "." ++ decimal index

/-- The coordinates of a span, separated by colons, as `12:7:16`. -/
def coordinates (span : BitSpan) : String :=
  decimal span.startByte ++ ":" ++ decimal span.startBit ++ ":" ++ decimal span.width

/-- What a field is called: its acronym, or else its `coordinates`. -/
def label (field : Field) : String := field.acronym.getD (coordinates field.span)

/-- What a field is called in one of several descriptors: its `label`, `numbered`. -/
def labelAt (field : Field) (index : Nat) : String := numbered field.label index

/-- How the values of a field are shown, by the `hex` and `twosComplement` flags. -/
def presentation (field : Field) : Presentation := ⟨field.flags.hex, field.flags.twosComplement⟩

@[simp] theorem labelAt_zero (field : Field) : field.labelAt 0 = field.label := rfl

end Field

end ModeParameters
