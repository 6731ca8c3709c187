import ModeParameters.Text.Numeral
import ModeParameters.Text.Blank

/-! # Namespaces

Pages and fields are described by tables, one common to all devices, one for each transport protocol
and one for each vendor. A namespace names one of these tables. -/

namespace ModeParameters

/-- A transport protocol identifier: a four-bit number. -/
structure Transport where
  /-- The identifier. -/
  id : Fin 16
deriving DecidableEq, Repr

namespace Transport

/-- Serial attached SCSI, the transport whose table is tried after the generic one
(`Namespace.fallback`). -/
def sas : Transport := ⟨6⟩

/-- The transport with an identifier; `none` above fifteen. -/
def ofNat? (id : Nat) : Option Transport := if h : id < 16 then some ⟨⟨id, h⟩⟩ else none

/-- The short name of a protocol. -/
def name (transport : Transport) : String :=
  match transport.id.val with
  | 0x0 => "fcp"
  | 0x1 => "spi"
  | 0x2 => "ssa"
  | 0x3 => "1394"
  | 0x4 => "srp"
  | 0x5 => "iscsi"
  | 0x6 => "sas"
  | 0x7 => "adt"
  | 0x8 => "ata"
  | 0x9 => "uas"
  | 0xA => "sop"
  | 0xB => "pcie"
  | _ => "reserved"

/-- Every transport, by identifier. -/
def all : List Transport := (List.finRange 16).map Transport.mk

/-- The transport with a short name, in any case (`Text.alike`); the reserved ones have none. -/
def ofName? (text : String) : Option Transport :=
  all.find? fun transport => transport.name != "reserved" && Text.alike transport.name text

instance : ToString Transport := ⟨name⟩

end Transport

/-- A vendor with tables of its own. -/
structure Vendor where
  /-- The identifier. -/
  id : UInt8
deriving DecidableEq, Repr

namespace Vendor

/-- Seagate. -/
def seagate : Vendor := ⟨0⟩

/-- The short name of a vendor, when it is a known one. -/
def name? (vendor : Vendor) : Option String :=
  match vendor.id.toNat with
  | 0 => some "sea"
  | 1 => some "hit"
  | 2 => some "max"
  | 3 => some "fuj"
  | 5 => some "lto5"
  | 6 => some "lto6"
  | _ => none

/-- A vendor in messages: its `name?`, or else its number. -/
def text (vendor : Vendor) : String :=
  vendor.name?.getD s!"vendor {Text.decimal vendor.id.toNat}"

instance : ToString Vendor := ⟨text⟩

end Vendor

/-- The table that a lookup goes to; `Registry.table` has one for each. -/
inductive Namespace
  /-- What all devices have in common. -/
  | generic
  /-- What belongs to a transport protocol. -/
  | transport (chosen : Transport)
  /-- What belongs to a vendor. -/
  | vendor (chosen : Vendor)
deriving DecidableEq, Repr

namespace Namespace

/-- The namespace of a choice: a vendor goes before a transport, and without either it is
`generic`. -/
def select : Option Vendor → Option Transport → Namespace
  | some chosen, _ => .vendor chosen
  | none, some chosen => .transport chosen
  | none, none => .generic

/-- The namespace that is tried after the generic one: that of `Transport.sas`. -/
def fallback : Namespace := .transport .sas

/-- A namespace in messages. -/
def text : Namespace → String
  | .generic => "generic"
  | .transport chosen => s!"transport {chosen}"
  | .vendor chosen => s!"{chosen}"

instance : ToString Namespace := ⟨text⟩

end Namespace

end ModeParameters
