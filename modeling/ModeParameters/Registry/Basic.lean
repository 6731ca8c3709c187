import ModeParameters.Descriptor.Block
import ModeParameters.Field
import ModeParameters.Log
import ModeParameters.Namespace

/-! # The registry of pages and fields

What a table says of a page: its names, the devices it is for, and its repeated part if it has one. A
registry holds one table for each namespace. A namespace for which nothing is known has the empty
table. A lookup goes to the table of its namespace; only a lookup in the generic namespace has second
chances, and each one taken is remarked. -/

namespace ModeParameters

/-- The description of a page. -/
structure PageEntry where
  /-- The page described. -/
  key : PageKey
  /-- The devices it is for. -/
  filter : DeviceFilter := .any
  /-- Short name. -/
  acronym : String
  /-- What it is, in one line. -/
  name : String
  /-- Its repeated part. -/
  descriptors : Option DescriptorBlock := none
deriving DecidableEq, Repr

namespace PageEntry

/-- A page in reports: its name, then `acronym` and `key`. -/
def text (entry : PageEntry) : String := s!"{entry.name} [{entry.acronym}] {entry.key}"

end PageEntry

/-- The pages and fields of one `Namespace`. -/
structure PageTable where
  /-- Descriptions of pages. -/
  pages : List PageEntry := []
  /-- Descriptions of fields, page by page. -/
  fields : List Field := []
deriving DecidableEq, Repr

/-- One table for each namespace. -/
structure Registry where
  /-- What all devices have in common. -/
  generic : PageTable := {}
  /-- What belongs to each transport protocol. -/
  transports : Transport → PageTable := fun _ => {}
  /-- What belongs to each vendor. -/
  vendors : Vendor → PageTable := fun _ => {}

namespace Registry

/-- A registry with this `table` for a transport, in place of the one it had. -/
def withTransport (registry : Registry) (transport : Transport) (table : PageTable) : Registry :=
  { registry with
    transports := fun other => if other = transport then table else registry.transports other }

/-- A registry with this `table` for a vendor, in place of the one it had. -/
def withVendor (registry : Registry) (vendor : Vendor) (table : PageTable) : Registry :=
  { registry with vendors := fun other => if other = vendor then table else registry.vendors other }

/-- The table of a namespace. -/
def table (registry : Registry) : Namespace → PageTable
  | .generic => registry.generic
  | .transport transport => registry.transports transport
  | .vendor vendor => registry.vendors vendor

/-- A table for a transport stands in `.transport transport`, and changes no other namespace. -/
@[simp] theorem table_withTransport (registry : Registry) (transport : Transport)
    (table : PageTable) (space : Namespace) :
    (registry.withTransport transport table).table space =
      if space = .transport transport then table else registry.table space := by
  cases space <;> simp [Registry.table, withTransport]

/-- A table for a vendor stands in `.vendor vendor`, and changes no other namespace. -/
@[simp] theorem table_withVendor (registry : Registry) (vendor : Vendor) (table : PageTable)
    (space : Namespace) :
    (registry.withVendor vendor table).table space =
      if space = .vendor vendor then table else registry.table space := by
  cases space <;> simp [Registry.table, withVendor]

end Registry

/-! ## Pages -/

/-- The first entry for a page that `accepts` exactly this device type. -/
def PageTable.findPage? (table : PageTable) (key : PageKey) (type : Option DeviceType) :
    Option PageEntry :=
  table.pages.find? fun entry => entry.key == key && entry.filter.accepts type

/-- The fields of a page that are for this device type or its family (`DeviceFilter.applies`), in
table order. -/
def PageTable.fieldsOf (table : PageTable) (key : PageKey) (type : Option DeviceType) :
    List Field :=
  table.fields.filter fun field => field.page == key && field.filter.applies type

/-- The first field of a page with this `startByte` and `startBit`, of any width. -/
def PageTable.fieldAt? (table : PageTable) (key : PageKey) (startByte startBit : Nat) :
    Option Field :=
  table.fields.find? fun field =>
    field.page == key && field.span.startByte == startByte && field.span.startBit == startBit

namespace Registry

/-- The entry for a page, by `findPage?`. In the generic namespace a page that has none for this
device type is looked for once more under its `family`. -/
def findPage (registry : Registry) (key : PageKey) (type : Option DeviceType) (space : Namespace) :
    Logged (Option PageEntry) :=
  match (registry.table space).findPage? key type, space, type with
  | some entry, _, _ => pure (some entry)
  | none, .generic, some exact =>
    if exact.family = exact then pure none
    else do
      Logged.remark .debug s!"page {key} not found for pdt {exact}, retrying as {exact.family}"
      return registry.generic.findPage? key (some exact.family)
  | none, _, _ => pure none

end Registry

end ModeParameters
