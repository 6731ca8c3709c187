import ModeParameters.Text.Numeral

/-! # Peripheral device types

Inquiry data names the kind of a device by a five-bit number. Some kinds are refinements of a
broader one and share its tables: a write-once, optical, simplified or zoned device is treated as a
disk, a printer or an automation drive as a tape. -/

namespace ModeParameters

/-- A peripheral device type: a five-bit code. -/
structure DeviceType where
  /-- The code. -/
  code : Fin 32
deriving DecidableEq, Repr

namespace DeviceType

/-- The device type in the low five bits of a number, `n % 32`. -/
def ofNat (n : Nat) : DeviceType := ⟨Fin.ofNat 32 n⟩

/-- Direct-access block device. -/
def disk : DeviceType := ⟨0x00⟩

/-- Sequential-access device. -/
def tape : DeviceType := ⟨0x01⟩

/-- The broader type whose tables a device shares; most types are their own `family`. -/
def family (type : DeviceType) : DeviceType :=
  if type.code ∈ [0x04, 0x07, 0x0E, 0x14] then disk
  else if type.code ∈ [0x02, 0x12] then tape
  else type

/-- A `family` is its own family. -/
@[simp] theorem family_family (type : DeviceType) : type.family.family = type.family := by
  obtain ⟨code⟩ := type
  revert code
  decide

/-- The short name of a device type. -/
def name (type : DeviceType) : String :=
  match type.code.val with
  | 0x00 => "disk"
  | 0x01 => "tape"
  | 0x02 => "printer"
  | 0x03 => "processor"
  | 0x04 => "write once"
  | 0x05 => "cd/dvd"
  | 0x06 => "scanner"
  | 0x07 => "optical memory"
  | 0x08 => "medium changer"
  | 0x09 => "communications"
  | 0x0C => "storage array controller"
  | 0x0D => "enclosure services"
  | 0x0E => "simplified direct access"
  | 0x0F => "optical card reader/writer"
  | 0x10 => "bridge controller"
  | 0x11 => "object based storage"
  | 0x12 => "automation/drive interface"
  | 0x13 => "security manager"
  | 0x14 => "zoned block"
  | 0x1E => "well known logical unit"
  | 0x1F => "unknown"
  | _ => "reserved"

/-- A device type in messages: its `name`, then its `code` in hexadecimal. -/
def text (type : DeviceType) : String := s!"{type.name} ({Text.markedHex type.code})"

instance : ToString DeviceType := ⟨text⟩

end DeviceType

/-! ## Restrictions -/

/-- The devices that a table entry is for. -/
inductive DeviceFilter
  /-- Every device. -/
  | any
  /-- Devices of one type. -/
  | only (type : DeviceType)
deriving DecidableEq, Repr

namespace DeviceFilter

/-- An entry is for devices of exactly this type; a device of unknown type (`none`) takes
unrestricted entries alone. -/
def accepts : DeviceFilter → Option DeviceType → Bool
  | .any, _ => true
  | .only own, some type => own == type
  | .only _, none => false

/-- An entry is for devices of this type or of its `family`. -/
def applies (filter : DeviceFilter) (type : Option DeviceType) : Bool :=
  filter.accepts type || type.any fun type => filter.accepts (some type.family)

end DeviceFilter

end ModeParameters
