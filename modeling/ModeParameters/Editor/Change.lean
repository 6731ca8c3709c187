import ModeParameters.Editor.Report

/-! # Changing a page

A change edits the current values as they were read and writes the whole response back, with the bits
cleared that a write reserves. Nothing is written when any part of the change fails, when the page is
to be saved and cannot be, or in a dry run. -/

namespace ModeParameters

open Text (decimal markedHex)

/-- What came of a change: the parameters that `edit` made, or how many bytes of them were
written. -/
inductive EditOutcome
  /-- The parameters that would have been written, in a run with `dryRun`. -/
  | dryRun (parameters : Bytes)
  /-- The number of bytes that were written. -/
  | written (length : Nat)
deriving DecidableEq, Repr

namespace PagePlan

/-- The bits in which a new value differs from the one in effect and that the device does not let
change: `value ^^^ old` outside the changeable mask. All 64 bits of the words count. -/
def fixedBits (images : PageImages) (image : PageImage) (field : Field) (start value : Nat) : Nat :=
  match images.changeable.bind fun changeable => changeable.value? field start true with
  | none => 0
  | some changeable =>
    let old := ((image.value? field start true).map FieldValue.value).getD 0
    (value ^^^ old) &&& (mask 64 ^^^ changeable.value)

/-- The image with the field of a binding set where `locate` finds it. A binding that reads
(`query`) changes nothing. -/
def apply (plan : PagePlan) (images : PageImages) (image : PageImage) (binding : Binding) :
    Attempt Error PageImage := do
  let label := binding.label
  match binding.action with
  | .query =>
    Logged.remark .debug s!"{label}: query item in a write request ignored"
    return image
  | .set value =>
    let field := binding.field
    let start ← plan.locate field label binding.descriptorIndex
    if binding.isTruncated then
      let literal := binding.literal.getD ""
      Logged.remark .warn
        s!"{label}: value {literal} does not fit in {decimal field.span.width} bits, truncated to {markedHex value}"
    if fixedBits images image field start value ≠ 0 then
      Logged.remark .warn
        s!"{label}: device reports some of the modified bits as not changeable"
    match image.write { field.span with startByte := start } value with
    | .error _ => throw (.response (plan.beyondPage label start))
    | .ok changed =>
      Logged.remark .debug s!"{label} <- {markedHex value} at page byte {decimal start}"
      return changed

end PagePlan

namespace Editor

/-- The current values with the fields of a request set, one after the other by `PagePlan.apply`. -/
def applyRequest (editor : Editor) (request : Request) (images : PageImages)
    (current : PageImage) : Attempt Error PageImage := do
  let (entry, _) ← editor.pageEntry request.page
  let plan ← ExceptT.adapt Error.response (editor.plan request.page entry current)
  request.bindings.foldlM (plan.apply images) current

/-- The current values with the body of the default ones, as far as both pages reach: `min` of the
two lengths. The body starts behind `Page.headerLength` of the current page. -/
def applyDefaults (key : PageKey) (images : PageImages) (current : PageImage) :
    Attempt Error PageImage := do
  match images.default with
  | none => throw (.conflict (.noDefaults key))
  | some default =>
    let length := min current.pageLength default.pageLength
    if current.pageLength ≠ default.pageLength then
      Logged.remark .warn
        s!"page {key}: default length {decimal default.pageLength} differs from current {decimal current.pageLength}, copying {decimal length} bytes"
    let header := Page.headerLength current.page
    return current.overwrite header (Bytes.window default.page header (length - header))

variable {σ : Type}

/-- The request that writes `parameters`, in the form and with the `save` of the configuration. -/
def selectRequest (editor : Editor) (parameters : Bytes) : SelectRequest where
  size := editor.config.size
  save := editor.config.save
  parameters := parameters

/-- Writes an edited image, unless the configuration asks for a `dryRun`. Whether the page can be
saved was read before the edit. -/
def commit (editor : Editor) (device : Device σ) (key : PageKey) (savable : Bool)
    (parameters : Bytes) : Session σ EditOutcome := do
  let config := editor.config
  let command := ModeCommand.select config.size
  -- a dry run fails where the write would not be attempted
  if config.save ∧ ¬ savable then throw (.conflict (.notSavable key))
  if config.dryRun then
    Session.remark .info
      s!"page {key}: dry run, {command} with {decimal parameters.length} bytes not sent"
    return .dryRun parameters
  match ← Session.select device (editor.selectRequest parameters) with
  | .error cause => throw (.command (.ofRefusal command key false cause))
  | .ok () =>
    let saved := if config.save then ", saved" else ""
    Session.remark .info s!"page {key}: {command} sent {decimal parameters.length} bytes{saved}"
    return .written parameters.length

/-- Fetches a page, edits its current values by `change` and writes them back by `commit`. -/
def edit (editor : Editor) (device : Device σ) (key : PageKey) (wanted : List PageControl)
    (change : PageImages → PageImage → Attempt Error PageImage) : Session σ EditOutcome := do
  let images ← editor.fetch device key wanted
  let (savable, changed) ← Session.attempt do
    let current ← currentOf key images
    let changed ← change images current
    return (current.isSavable, changed)
  editor.commit device key savable (changed.forSelect editor.config.size).response

/-- Sets the fields of a request: an `edit` by `applyRequest`. -/
def writeFields (editor : Editor) (device : Device σ) (request : Request) :
    Session σ EditOutcome :=
  editor.edit device request.page
    (if editor.config.checkChangeable then [.current, .changeable] else [.current])
    (editor.applyRequest request)

/-- Sets a page to its default values: an `edit` by `applyDefaults`. -/
def restoreDefaults (editor : Editor) (device : Device σ) (key : PageKey) :
    Session σ EditOutcome :=
  editor.edit device key [.current, .default] (applyDefaults key)

end Editor

end ModeParameters
