import ModeParameters.Descriptor.Block
import ModeParameters.Device.Command
import ModeParameters.Namespace
import ModeParameters.Text.Quoted

/-! # Errors

Everything that can go wrong between the text of an item and the device, in four families and one
more for a device that cannot be opened. Each error has a text, a class, and by its class an exit
status. -/

namespace ModeParameters

open Text (decimal quoted)

/-- Why items do not name fields of one page. -/
inductive ItemError
  /-- No table has a field with this `acronym` for this device. -/
  | unknownAcronym (acronym : String) (space : Namespace)
  /-- The item belongs to another page than the items before it. -/
  | pageContradiction (label : String) (expected found : PageKey)
  /-- The coordinates cannot be those of a field. -/
  | coordinatesOutOfRange (item : String) (cause : BitSpanError)
  /-- The item has no meaning. -/
  | badItemSyntax (item : String)
  /-- The value of the item has no meaning. -/
  | badValue (item value : String)
  /-- The page has no such descriptor: `index` is not below `count`. -/
  | descriptorIndexOutOfRange (label : String) (page : PageKey) (index count : Nat)
  /-- Coordinates without a page that they could be of. -/
  | pageRequired (item : String)
  /-- No table describes the page. -/
  | unknownPage (page : PageKey) (space : Namespace)
deriving DecidableEq, Repr

/-- The text of an item error. -/
def ItemError.message : ItemError → String
  | .unknownAcronym acronym space => s!"acronym {acronym} not found in {space} tables"
  | .pageContradiction label expected found =>
    s!"{label} belongs to page {found}, contradicting page {expected} of earlier items"
  | .coordinatesOutOfRange item cause => s!"coordinates {item} out of range: {cause.message}"
  | .badItemSyntax item => s!"cannot parse item {quoted item}"
  | .badValue item value => s!"bad value {quoted value} for {item}"
  | .descriptorIndexOutOfRange label page index count =>
    s!"{label}: descriptor {decimal index} requested but page {page} holds {decimal count}"
  | .pageRequired item => s!"{item}: raw coordinates need a page"
  | .unknownPage page space => s!"page {page} not found in {space} tables"

/-- The name of the kind of an item error. -/
def ItemError.name : ItemError → String
  | .unknownAcronym .. => "UnknownAcronym"
  | .pageContradiction .. => "PageContradiction"
  | .coordinatesOutOfRange .. => "CoordinatesOutOfRange"
  | .badItemSyntax _ => "BadItemSyntax"
  | .badValue .. => "BadValue"
  | .descriptorIndexOutOfRange .. => "DescriptorIndexOutOfRange"
  | .pageRequired _ => "PageRequired"
  | .unknownPage .. => "UnknownPage"

/-- Why a device did not do what it was asked for a page. -/
inductive CommandError
  /-- It does not know the command in this form; `CommandSize.other` may do. -/
  | unsupportedCommand (command : ModeCommand) (page : PageKey)
  /-- It does not have the page. -/
  | pageNotSupported (page : PageKey)
  /-- Any other refusal. -/
  | refused (command : ModeCommand) (page : PageKey) (cause : DeviceError)
deriving DecidableEq, Repr

namespace CommandError

/-- The text of a command error. -/
def message : CommandError → String
  | .unsupportedCommand command page =>
    s!"{command} not supported for page {page}, try the {decimal command.size.other.byteCount}-byte variant"
  | .pageNotSupported page => s!"page {page} not supported by device"
  | .refused command page cause => s!"{command} on page {page} failed: {cause.message}"

/-- The name of the kind of a command error. -/
def name : CommandError → String
  | .unsupportedCommand .. => "UnsupportedCommand"
  | .pageNotSupported _ => "PageNotSupported"
  | .refused .. => "Device"

/-- The error of a command that a device refused. An `illegalRequest` means, where a page was to be
read, that the device does not have the page. -/
def ofRefusal (command : ModeCommand) (page : PageKey) (reading : Bool) :
    DeviceError → CommandError
  | .unsupportedCommand => .unsupportedCommand command page
  | .illegalRequest =>
    if reading then .pageNotSupported page else .refused command page .illegalRequest
  | cause => .refused command page cause

end CommandError

/-- Why the data of a device cannot be used. -/
inductive ResponseError
  /-- It is another page than the one asked for. -/
  | pageMismatch (expected found : PageKey)
  /-- It is shorter than it declares. -/
  | truncated (page : PageKey) (declared received : Nat)
  /-- It declares more than it was allowed to transfer: `declared` exceeds `allocated`. -/
  | exceedsAllocation (page : PageKey) (declared allocated : Nat)
  /-- The page would start behind its end, at `offset`. -/
  | pageBeyondResponse (page : PageKey) (offset length : Nat)
  /-- A field ends behind the end of the page, which is `pageLength` bytes long. -/
  | fieldBeyondPage (label : String) (page : PageKey) (startByte pageLength : Nat)
  /-- It has no room for its header: of `needed` bytes it has only `length`. -/
  | headerTooShort (needed length : Nat)
  /-- The descriptors of the page cannot be found, because of a `DescriptorError`. -/
  | descriptor (page : PageKey) (cause : DescriptorError)
deriving DecidableEq, Repr

/-- The text of a response error. -/
def ResponseError.message : ResponseError → String
  | .pageMismatch expected found => s!"requested page {expected} but device returned {found}"
  | .truncated page declared received =>
    s!"page {page}: response truncated, {decimal received} of {decimal declared} bytes"
  | .exceedsAllocation page declared allocated =>
    s!"page {page}: declared length {decimal declared} exceeds allocation {decimal allocated}"
  | .pageBeyondResponse page offset length =>
    s!"page {page}: page header at offset {decimal offset} beyond response of {decimal length} bytes"
  | .fieldBeyondPage label page startByte pageLength =>
    s!"{label}: byte {decimal startByte} beyond page {page} length {decimal pageLength}"
  | .headerTooShort needed length =>
    s!"mode parameter header needs {decimal needed} bytes, got {decimal length}"
  | .descriptor page cause => s!"page {page}: {cause.message}"

/-- The name of the kind of a response error. -/
def ResponseError.name : ResponseError → String
  | .pageMismatch .. => "PageMismatch"
  | .truncated .. => "Truncated"
  | .exceedsAllocation .. => "ExceedsAllocation"
  | .pageBeyondResponse .. => "PageBeyondResponse"
  | .fieldBeyondPage .. => "FieldBeyondPage"
  | .headerTooShort .. => "HeaderTooShort"
  | .descriptor .. => "Descriptor"

/-- Why a request contradicts what the device has. -/
inductive ConflictError
  /-- The page cannot be saved. -/
  | notSavable (page : PageKey)
  /-- The page has no default values. -/
  | noDefaults (page : PageKey)
deriving DecidableEq, Repr

/-- The text of a conflict. -/
def ConflictError.message : ConflictError → String
  | .notSavable page => s!"page {page} is not savable, refusing to save"
  | .noDefaults page => s!"page {page}: no default values available"

/-- The name of the kind of a conflict. -/
def ConflictError.name : ConflictError → String
  | .notSavable _ => "NotSavable"
  | .noDefaults _ => "NoDefaults"

/-- Why an operation on a page failed. -/
inductive Error
  /-- The items do not name fields of one page. -/
  | item (error : ItemError)
  /-- The device did not do what it was asked. -/
  | command (error : CommandError)
  /-- The data of the device cannot be used. -/
  | response (error : ResponseError)
  /-- The request contradicts what the device has. -/
  | conflict (error : ConflictError)
  /-- The device cannot be opened or does not say what it is. -/
  | deviceOpen (device reason : String)
deriving DecidableEq, Repr

/-- The kinds of failure that an `exitStatus` tells apart. -/
inductive ErrorClass
  /-- An item, a value or coordinates without meaning. -/
  | syntaxError
  /-- The device is not ready. -/
  | notReady
  /-- The device refused a field of a command, or has no such page. -/
  | illegalRequest
  /-- The device has a condition to report first. -/
  | unitAttention
  /-- The device does not know the command. -/
  | invalidOp
  /-- The device gave up the command. -/
  | aborted
  /-- The device cannot be opened. -/
  | deviceOpen
  /-- The request contradicts itself or the page. -/
  | contradiction
  /-- The data of the device cannot be used. -/
  | malformed
  /-- Anything else. -/
  | other
deriving DecidableEq, Repr

namespace ErrorClass

/-- The name of a class. -/
def name : ErrorClass → String
  | .syntaxError => "Syntax"
  | .notReady => "NotReady"
  | .illegalRequest => "IllegalRequest"
  | .unitAttention => "UnitAttention"
  | .invalidOp => "InvalidOp"
  | .aborted => "Aborted"
  | .deviceOpen => "DeviceOpen"
  | .contradiction => "Contradiction"
  | .malformed => "Malformed"
  | .other => "Other"

/-- The exit status of a class; success has 0, and `other` the last one. -/
def exitStatus : ErrorClass → Nat
  | .syntaxError => 1
  | .notReady => 2
  | .illegalRequest => 5
  | .unitAttention => 6
  | .invalidOp => 9
  | .aborted => 11
  | .deviceOpen => 15
  | .contradiction => 31
  | .malformed => 97
  | .other => 99

/-- No failure has the exit status of success, 0: `0 < kind.exitStatus`. -/
theorem exitStatus_pos (kind : ErrorClass) : 0 < kind.exitStatus := by cases kind <;> decide

end ErrorClass

/-- The class of a device's refusal; an `io` failure is `other`. -/
def DeviceError.kind : DeviceError → ErrorClass
  | .unsupportedCommand => .invalidOp
  | .illegalRequest => .illegalRequest
  | .notReady => .notReady
  | .unitAttention => .unitAttention
  | .aborted => .aborted
  | .io _ => .other

/-- The class of a command error: that of its cause, and `illegalRequest` for a page that is not
there. -/
def CommandError.kind : CommandError → ErrorClass
  | .unsupportedCommand .. => .invalidOp
  | .pageNotSupported _ => .illegalRequest
  | .refused _ _ cause => cause.kind

namespace Error

instance : Coe ItemError Error := ⟨item⟩

instance : Coe CommandError Error := ⟨command⟩

instance : Coe ResponseError Error := ⟨response⟩

instance : Coe ConflictError Error := ⟨conflict⟩

/-- The text of an error. -/
def message : Error → String
  | .item error => error.message
  | .command error => error.message
  | .response error => error.message
  | .conflict error => error.message
  | .deviceOpen device reason => s!"{device}: cannot open: {reason}"

/-- The name of the kind of an error. -/
def name : Error → String
  | .item error => error.name
  | .command error => error.name
  | .response error => error.name
  | .conflict error => error.name
  | .deviceOpen .. => "DeviceOpen"

/-- The class of an error. Items of different pages contradict each other (`contradiction`); all
other item errors are errors of syntax. -/
def kind : Error → ErrorClass
  | .item (.pageContradiction ..) => .contradiction
  | .item _ => .syntaxError
  | .command error => error.kind
  | .response _ => .malformed
  | .conflict _ => .contradiction
  | .deviceOpen .. => .deviceOpen

/-- The exit status of an error, that of its `kind`. -/
def exitStatus (error : Error) : Nat := error.kind.exitStatus

end Error

end ModeParameters
