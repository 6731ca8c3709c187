import ModeParameters.Bytes
import ModeParameters.Device.Identity
import ModeParameters.Page.Key

/-! # Mode commands and devices

MODE SENSE reads the mode data of a page and MODE SELECT writes it back. Each comes in a six-byte and
a ten-byte form, which differ in the header of the mode data and in how much they can transfer.

A device is a state machine: each command is answered or refused, and may change its state either
way. Nothing else is assumed of it. A bench opens devices by name; the devices of one bench share its
state. -/

namespace ModeParameters

/-- The form of a mode command. -/
inductive CommandSize
  /-- Six bytes. -/
  | six
  /-- Ten bytes. -/
  | ten
deriving DecidableEq, Repr

namespace CommandSize

/-- The number of bytes of the command. -/
def byteCount : CommandSize → Nat
  | .six => 6
  | .ten => 10

/-- The other form. -/
def other : CommandSize → CommandSize
  | .six => .ten
  | .ten => .six

/-- The largest allocation length that a read of this form asks for, `252` or `65535`. -/
def maxAllocation : CommandSize → Nat
  | .six => 252
  | .ten => 65535

end CommandSize

/-- A mode command, as messages name it. -/
inductive ModeCommand
  /-- MODE SENSE. -/
  | sense (size : CommandSize)
  /-- MODE SELECT. -/
  | select (size : CommandSize)
deriving DecidableEq, Repr

namespace ModeCommand

/-- The form of a command. -/
def size : ModeCommand → CommandSize
  | .sense size => size
  | .select size => size

/-- A command in messages, as `MODE SENSE(6)` or `MODE SELECT(10)`. -/
def text : ModeCommand → String
  | .sense size => s!"MODE SENSE({Text.decimal size.byteCount})"
  | .select size => s!"MODE SELECT({Text.decimal size.byteCount})"

instance : ToString ModeCommand := ⟨text⟩

end ModeCommand

/-- What a MODE SENSE asks for. -/
structure SenseRequest where
  /-- The form of the command. -/
  size : CommandSize
  /-- The device is to leave out block descriptors. -/
  withoutBlockDescriptors : Bool
  /-- The variant of the page. -/
  control : PageControl
  /-- The page. -/
  key : PageKey
  /-- The most bytes the device may transfer. -/
  allocation : Nat
deriving DecidableEq, Repr

/-- What a device transfers for a MODE SENSE. -/
structure SenseResponse where
  /-- The bytes of the transfer area. -/
  bytes : Bytes
  /-- How many of them, at the end, were not transferred. -/
  residual : Nat := 0
deriving DecidableEq, Repr

namespace SenseResponse

/-- The number of bytes transferred: all of `bytes` but the `residual` last ones. -/
def receivedLength (response : SenseResponse) : Nat := response.bytes.length - response.residual

/-- The bytes transferred, the first `receivedLength` of the area. -/
def received (response : SenseResponse) : Bytes := response.bytes.take response.receivedLength

end SenseResponse

/-- What a MODE SELECT carries. -/
structure SelectRequest where
  /-- The form of the command. -/
  size : CommandSize
  /-- The device is to store the page as its saved values too. -/
  save : Bool
  /-- The parameter list: mode parameter header, block descriptors and page. -/
  parameters : Bytes
deriving DecidableEq, Repr

/-- Why a device did not carry out a command. -/
inductive DeviceError
  /-- It does not know the command, or not in this `CommandSize`. -/
  | unsupportedCommand
  /-- It refused a field of the command or of its data. -/
  | illegalRequest
  /-- It is not ready. -/
  | notReady
  /-- It has a condition to report first. -/
  | unitAttention
  /-- It gave up the command. -/
  | aborted
  /-- The command did not get through. -/
  | io (reason : String)
deriving DecidableEq, Repr

/-- The text of a device error. -/
def DeviceError.message : DeviceError → String
  | .unsupportedCommand => "command not supported"
  | .illegalRequest => "illegal field in request"
  | .notReady => "device not ready"
  | .unitAttention => "unit attention"
  | .aborted => "aborted command"
  | .io reason => s!"i/o failure: {reason}"

/-! ## Devices -/

/-- A device with states of type `σ`. -/
structure Device (σ : Type) where
  /-- Carries out a MODE SENSE. -/
  sense : SenseRequest → σ → Except DeviceError SenseResponse × σ
  /-- Carries out a MODE SELECT. -/
  select : SelectRequest → σ → Except DeviceError Unit × σ
  /-- Asks for the identity. -/
  inquire : σ → Except DeviceError DeviceIdentity × σ

/-- Devices that are opened by name; all share a state of type `σ`. -/
structure Bench (σ : Type) where
  /-- Opens the device of a name. -/
  openDevice : String → σ → Except DeviceError (Device σ) × σ

end ModeParameters
