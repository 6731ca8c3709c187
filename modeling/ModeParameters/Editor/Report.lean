import ModeParameters.Editor.Placement

/-! # Reports

A field is reported with its value in every variant that was read. A page is reported with every
field of the tables that lies in it, descriptor by descriptor. -/

namespace ModeParameters

open Text (decimal padRight)

/-- The values of one field. -/
structure FieldReport where
  /-- What the field is called. -/
  label : String
  /-- The field. -/
  field : Field
  /-- The descriptor it is in. -/
  index : Nat
  /-- The value in effect. -/
  current : Option FieldValue
  /-- The mask of changeable bits. -/
  changeable : Option FieldValue
  /-- The manufacturer's value, from the `default` variant. -/
  default : Option FieldValue
  /-- The value restored at power on. -/
  saved : Option FieldValue
deriving DecidableEq, Repr

namespace FieldReport

/-- The value in a variant, `none` when that was not read. -/
def value (report : FieldReport) : PageControl → Option FieldValue
  | .current => report.current
  | .changeable => report.changeable
  | .default => report.default
  | .saved => report.saved

/-- The text of the value in a variant, by `FieldValue.render`. -/
def render (report : FieldReport) (control : PageControl) (style : ValueStyle) : Option String :=
  (report.value control).map fun value =>
    value.render report.field.span.width report.field.presentation style

/-- The part of a report line for one variant, such as `cur=1`. -/
def column (report : FieldReport) (control : PageControl) : String :=
  match report.render control .auto with
  | some text => s!"  {control.shortName}={text}"
  | none => ""

/-- A report as one line: the label, the `column` of each value that was read, and the
description. -/
def text (report : FieldReport) : String :=
  padRight 10 report.label ++ String.join (PageControl.all.map report.column) ++
    if report.field.description = "" then "" else s!"  [{report.field.description}]"

end FieldReport

/-- The fields of one page. -/
structure PageReport where
  /-- The page. -/
  key : PageKey
  /-- What the tables say of it. -/
  entry : Option PageEntry
  /-- It can be saved. -/
  savable : Bool
  /-- The number of its descriptors (`PagePlan.count`); 1 without any. -/
  descriptorCount : Nat
  /-- Its fields. -/
  fields : List FieldReport
deriving DecidableEq, Repr

namespace PageImage

/-- The value of a field that starts at byte `start` of the page. Only `toTail` lets it end behind
the end of the page. -/
def value? (image : PageImage) (field : Field) (start : Nat) (toTail : Bool) :
    Option FieldValue :=
  match ({ field.span with startByte := start } : BitSpan).read
      (if toTail then image.tail else image.page) with
  | .ok value => some (.ofNat value field.span.width)
  | .error _ => none

end PageImage

namespace PagePlan

/-- The report of a field that starts at byte `start` of the page, with its `value?` in each
variant. -/
def report (plan : PagePlan) (images : PageImages) (field : Field) (label : String) (index : Nat)
    (start : Nat) : FieldReport :=
  let value control := (images.get control).bind fun image =>
    image.value? field start plan.flexible
  { label, field, index
    current := value .current
    changeable := value .changeable
    default := value .default
    saved := value .saved }

/-- The report of one field in one descriptor, if it means something there (`applies`) and lies in
the page. -/
def reportField (plan : PagePlan) (images : PageImages) (index : Nat) (field : Field) :
    Attempt ResponseError (Option FieldReport) := do
  if ¬ plan.applies field index then return none
  match plan.offsetOf? field index with
  | none => return none
  | some offset =>
    let start ← plan.checkAddress offset
    let label := field.labelAt index
    if plan.endsBeyond field start then
      Logged.remark .debug s!"{label}: beyond page {plan.key} length {decimal plan.length}, skipped"
      return none
    return some (plan.report images field label index start)

/-- The reports of fields in one descriptor after the other, by `reportField`. -/
def reportFields (plan : PagePlan) (images : PageImages) (fields : List Field) :
    Attempt ResponseError (List FieldReport) := do
  let reports ← (List.range plan.count).mapM fun index =>
    fields.mapM (plan.reportField images index)
  return reports.flatten.filterMap id

/-- The report of the field of a binding, which `locate` must find and which must lie in what was
read. -/
def reportBinding (plan : PagePlan) (images : PageImages) (binding : Binding) :
    Attempt Error FieldReport := do
  let start ← plan.locate binding.field binding.label binding.descriptorIndex
  let report := plan.report images binding.field binding.label binding.descriptorIndex start
  if report.current.isSome then return report
  else throw (.response (plan.beyondPage binding.label start))

end PagePlan

namespace Editor

/-- The report of a page that was read: `reportFields` for all that its table has of the page. -/
def reportPage (editor : Editor) (key : PageKey) (images : PageImages) (current : PageImage) :
    Attempt Error PageReport := do
  let (entry, space) ← editor.pageEntry key
  if entry.isNone then Logged.remark .warn (ItemError.unknownPage key space).message
  let plan ← ExceptT.adapt Error.response (editor.plan key entry current)
  let fields := (editor.registry.table space).fieldsOf key editor.type
  let reports ← ExceptT.adapt Error.response (plan.reportFields images fields)
  return {
    key, entry
    savable := current.isSavable
    descriptorCount := plan.count
    fields := reports }

/-- The reports of the fields of a request, from a page that was read, by `reportBinding`. -/
def reportRequest (editor : Editor) (request : Request) (images : PageImages)
    (current : PageImage) : Attempt Error (List FieldReport) := do
  let (entry, _) ← editor.pageEntry request.page
  let plan ← ExceptT.adapt Error.response (editor.plan request.page entry current)
  request.bindings.mapM (plan.reportBinding images)

variable {σ : Type}

/-- The current values among images; without them the page counts as missing
(`pageNotSupported`). -/
def currentOf (key : PageKey) (images : PageImages) : Except Error PageImage :=
  match images.current with
  | some image => .ok image
  | none => .error (.command (.pageNotSupported key))

/-- Reports every field of a page in all variants: `fetch`, then `reportPage`. -/
def readPage (editor : Editor) (device : Device σ) (key : PageKey) : Session σ PageReport := do
  let images ← editor.fetch device key PageControl.all
  Session.attempt do
    let current ← currentOf key images
    editor.reportPage key images current

/-- Reports the fields of a request, in all variants if so configured (`allVariants`): `fetch`, then
`reportRequest`. -/
def readFields (editor : Editor) (device : Device σ) (request : Request) :
    Session σ (List FieldReport) := do
  let wanted := if editor.config.allVariants then PageControl.all else [.current]
  let images ← editor.fetch device request.page wanted
  Session.attempt do
    let current ← currentOf request.page images
    editor.reportRequest request images current

end Editor

end ModeParameters
