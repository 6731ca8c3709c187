import ModeParameters.Editor.Session
import ModeParameters.Page.Image

/-! # Fetching a page

A page is fetched in two steps: a probe reads just the header of the current values to learn how long
the mode data is, then each wanted variant is read with that allocation. Every response is judged
before it is used. The current values must be there; any other variant may be refused, but what the
device does send must be well formed. -/

namespace ModeParameters

open Text (decimal byteHex)

/-- How the operations on one device do their work. -/
structure Editor where
  /-- The tables. -/
  registry : Registry
  /-- What they were told to do. -/
  config : EditConfig
  /-- The type of the device, by which the entries of the tables are filtered; `none` when it is not
  known. -/
  type : Option DeviceType

namespace Editor

/-- An editor for a device that may have reported its type; `EditConfig.effectiveType` says which
one counts. -/
def forDevice (registry : Registry) (config : EditConfig) (reported : Option DeviceType) : Editor :=
  ⟨registry, config, config.effectiveType reported⟩

/-! ## Judging a response -/

/-- The length that a response with a given header has to have. A response that declares more than
the `allocation` is an error, or in `flexible` mode counts as declaring just that. -/
def expectedLength (editor : Editor) (key : PageKey) (control : PageControl) (declared : Nat)
    (allocation : Nat) : Attempt ResponseError Nat :=
  if declared ≤ allocation then pure declared
  else if editor.config.flexible then do
    Logged.remark .warn
      s!"page {key} ({control}): declared length {decimal declared} exceeds allocation {decimal allocation}, clamping"
    return allocation
  else throw (.exceedsAllocation key declared allocation)

/-- The image of a page in a response of which just the declared bytes are left. The page must be
the one asked for (`Page.answers`) and end within them. -/
def imageAt (key : PageKey) (control : PageControl) (response : Bytes) (offset : Nat) :
    Attempt ResponseError PageImage := do
  let page := response.drop offset
  match Page.code? page, Page.reportedLength? page with
  | some code, some length =>
    if ¬ Page.answers key.page code ∨ Page.subpageCode page ≠ key.subpage then
      throw (.pageMismatch key (Page.carriedKey page))
    if code ≠ key.page then
      Logged.remark .debug s!"page {key}: device reports equivalent page {byteHex code}"
    if h : offset + length ≤ response.length then return ⟨control, response, offset, length, h⟩
    else throw (.truncated key (offset + length) response.length)
  | _, _ => throw (.pageBeyondResponse key offset response.length)

/-- Judges a response to a read of one variant of a page: its header, its `expectedLength`, then the
page by `imageAt`. -/
def validate (editor : Editor) (key : PageKey) (control : PageControl) (response : SenseResponse)
    (allocation : Nat) : Attempt ResponseError PageImage := do
  let received := response.received
  let header ← ModeHeader.read editor.config.size received
  let expected ← editor.expectedLength key control header.totalLength allocation
  -- bytes behind the declared length are no part of the answer
  if received.length < expected then throw (.truncated key expected received.length)
  imageAt key control (received.take expected) header.pageOffset

/-! ## Reading -/

variable {σ : Type}

/-- The request for one variant of a page, with the `allocation` that is given and the rest from the
configuration. -/
def senseRequest (editor : Editor) (key : PageKey) (control : PageControl) (allocation : Nat) :
    SenseRequest where
  size := editor.config.size
  withoutBlockDescriptors := editor.config.withoutBlockDescriptors
  control := control
  key := key
  allocation := allocation

/-- The error of a refused read, by `CommandError.ofRefusal`. -/
def senseError (editor : Editor) (key : PageKey) (cause : DeviceError) : CommandError :=
  .ofRefusal (.sense editor.config.size) key true cause

/-- The allocation for mode data of a given length: enough for a header, and at most
`maxAllocation`. -/
def allocationFor (size : CommandSize) (total : Nat) : Nat :=
  min (max size.headerLength total) size.maxAllocation

/-- Reads just the header of the current values, and says how much to allocate (`allocationFor`). -/
def probe (editor : Editor) (device : Device σ) (key : PageKey) : Session σ Nat := do
  let size := editor.config.size
  match ← Session.sense device (editor.senseRequest key .current size.headerLength) with
  | .error cause => throw (Error.command (editor.senseError key cause))
  | .ok response =>
    match ModeHeader.read size response.received with
    | .error error => throw (Error.response error)
    | .ok header =>
      let allocation := allocationFor size header.totalLength
      Session.remark .debug
        s!"page {key}: probe reports {decimal header.totalLength} bytes, fetching with allocation {decimal allocation}"
      return allocation

/-- Reads variants of a page one after the other, each judged by `validate`. Only `current` ones
have to be there. -/
def readVariants (editor : Editor) (device : Device σ) (key : PageKey) (allocation : Nat) :
    List PageControl → PageImages → Session σ PageImages
  | [], images => return images
  | control :: rest, images => do
    match ← Session.sense device (editor.senseRequest key control allocation) with
    | .ok response => do
      let image ← Session.attempt
        (ExceptT.adapt Error.response (editor.validate key control response allocation))
      editor.readVariants device key allocation rest (images.insert image)
    | .error cause =>
      if control = .current then throw (Error.command (editor.senseError key cause))
      else
        Session.remark .debug
          s!"page {key}: {control} values unavailable: {(editor.senseError key cause).message}"
        editor.readVariants device key allocation rest images

/-- The variants to read when some are wanted: `current` always, and first. -/
def variantsToRead (wanted : List PageControl) : List PageControl :=
  PageControl.all.filter fun control => control == .current || wanted.contains control

/-- Fetches the wanted variants of a page: a `probe`, and then `readVariants` with the allocation
that it found. -/
def fetch (editor : Editor) (device : Device σ) (key : PageKey) (wanted : List PageControl) :
    Session σ PageImages := do
  let allocation ← editor.probe device key
  editor.readVariants device key allocation (variantsToRead wanted) {}

end Editor

end ModeParameters
