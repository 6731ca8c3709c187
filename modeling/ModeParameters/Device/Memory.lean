import ModeParameters.Device.Command
import ModeParameters.ModeHeader
import ModeParameters.Page.Header

/-! # A device in memory

The plainest device: it keeps the variants of its pages, answers reads with correct lengths, and takes
the page of a write as its current values, and as its saved ones if asked to. A page that was written
can be saved. -/

namespace ModeParameters

namespace SenseResponse

/-- The transfer of `data` into an area of `allocation` bytes; what is left of the area is zero and
counts as `residual`. -/
def transfer (data : Bytes) (allocation : Nat) : SenseResponse :=
  let sent := data.take allocation
  ⟨sent ++ List.replicate (allocation - sent.length) 0, allocation - sent.length⟩

/-- What arrives (`received`) is the data as far as it was allowed. -/
@[simp] theorem received_transfer (data : Bytes) (allocation : Nat) :
    (transfer data allocation).received = data.take allocation := by
  simp only [received, receivedLength, transfer, List.length_append, List.length_replicate]
  exact List.take_left' (by omega)

end SenseResponse

namespace ModeHeader

/-- The header of mode data with blocks and a page of these lengths. A length that does not fit its
field is the greatest one that does. -/
def write (size : CommandSize) (blockLength pageLength : Nat) : Bytes :=
  let total := size.headerLength + blockLength + pageLength
  match size with
  | .six =>
    Bytes.ofNat 1 (min (total - 1) 0xFF) ++ [0, 0] ++ Bytes.ofNat 1 (min blockLength 0xFF)
  | .ten =>
    Bytes.ofNat 2 (min (total - 2) 0xFFFF) ++ [0, 0, 0, 0] ++ Bytes.ofNat 2 (min blockLength 0xFFFF)

@[simp] theorem length_write (size : CommandSize) (blockLength pageLength : Nat) :
    (write size blockLength pageLength).length = size.headerLength := by
  cases size <;> simp [write, CommandSize.headerLength]

end ModeHeader

/-- A device that keeps its pages in memory. -/
structure MemoryDevice where
  /-- What it is. -/
  identity : DeviceIdentity
  /-- Its block descriptors. -/
  blockDescriptors : Bytes := []
  /-- The variants of its pages, newest first. -/
  pages : List ((PageControl × PageKey) × Bytes)
deriving DecidableEq, Repr

namespace MemoryDevice

/-- A variant of a page: the newest one under this `control` and `key`. -/
def page? (device : MemoryDevice) (control : PageControl) (key : PageKey) : Option Bytes :=
  device.pages.lookup (control, key)

/-- A device with one variant of a page replaced, under the `Page.carriedKey` of the new one. -/
def store (device : MemoryDevice) (control : PageControl) (page : Bytes) : MemoryDevice :=
  { device with pages := ((control, Page.carriedKey page), page) :: device.pages }

/-- The answer to a MODE SENSE: header, `blockDescriptors` and page, by `SenseResponse.transfer`. -/
def sense (request : SenseRequest) (device : MemoryDevice) :
    Except DeviceError SenseResponse × MemoryDevice :=
  match device.page? request.control request.key with
  | none => (.error .illegalRequest, device)
  | some page =>
    let blocks := if request.withoutBlockDescriptors then [] else device.blockDescriptors
    let data := ModeHeader.write request.size blocks.length page.length ++ blocks ++ page
    (.ok (.transfer data request.allocation), device)

/-- The device after it stored a page that was written: as its `current` values, and as its `saved`
ones if asked to. -/
def accept (device : MemoryDevice) (save : Bool) (page : Bytes) : MemoryDevice :=
  let page := page.modifyHead (· ||| Page.savableBit)
  (if save then device.store .saved page else device).store .current page

/-- The answer to a MODE SELECT: the page behind the `ModeHeader` and the block descriptors is
stored by `accept`. -/
def select (request : SelectRequest) (device : MemoryDevice) :
    Except DeviceError Unit × MemoryDevice :=
  match ModeHeader.read request.size request.parameters with
  | .error _ => (.error .illegalRequest, device)
  | .ok header =>
    let page := request.parameters.drop header.pageOffset
    if page = [] then (.error .illegalRequest, device)
    else (.ok (), device.accept request.save page)

/-- The device in memory as a `Device`: `sense`, `select` and its `identity`. -/
def device : Device MemoryDevice where
  sense := sense
  select := select
  inquire := fun device => (.ok device.identity, device)

end MemoryDevice

end ModeParameters
