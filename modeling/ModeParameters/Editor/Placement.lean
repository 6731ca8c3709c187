import ModeParameters.Descriptor.Layout
import ModeParameters.Editor.Fetch
import ModeParameters.Item.Basic

/-! # Placing fields in a page

Before a field can be read or changed its bytes have to be found: the tables say whether the page has
descriptors, the page says where they are, and the field says where in one of them it is. A field
that does not end within the page is an error; in flexible mode it is remarked, and is used as far as
the response reaches. -/

namespace ModeParameters

open Text (decimal wordLimit)

/-- A page in which fields can be placed, as `Editor.plan` finds it. -/
structure PagePlan where
  /-- The page. -/
  key : PageKey
  /-- Where its descriptors are, if it has any. -/
  layout : Option Layout
  /-- How long it says it is. -/
  length : Nat
  /-- Fields may end behind its end. -/
  flexible : Bool
deriving DecidableEq, Repr

namespace PagePlan

/-- The number of descriptors (`Layout.count`); a page without descriptors counts as one. -/
def count (plan : PagePlan) : Nat := (plan.layout.map Layout.count).getD 1

/-- A field means something in a descriptor, by `Layout.applies`; without descriptors it does so in
0 alone. -/
def applies (plan : PagePlan) (field : Field) (index : Nat) : Bool :=
  (plan.layout.map fun layout => layout.applies field index).getD (index == 0)

/-- Where a field is in a descriptor, by `Layout.offsetOf?`; without descriptors it is where its
table says, and in 0 alone. -/
def offsetOf? (plan : PagePlan) (field : Field) (index : Nat) : Option Nat :=
  match plan.layout with
  | some layout => layout.offsetOf? field index
  | none => if index = 0 then some field.span.startByte else none

/-- A field that starts at byte `start` does not end within the `length` of the page. -/
def endsBeyond (plan : PagePlan) (field : Field) (start : Nat) : Bool :=
  plan.length < start + field.span.byteCount

/-- The name of the descriptors of a page. -/
def descriptorName (plan : PagePlan) : String :=
  (plan.layout.map fun layout => layout.block.name).getD ""

/-- An address that fits 64 bits; else the `addressOverflow` of the descriptors. -/
def checkAddress (plan : PagePlan) (start : Nat) : Except ResponseError Nat :=
  if start < wordLimit then .ok start
  else .error (.descriptor plan.key (.addressOverflow plan.descriptorName))

/-- The error of a field that is not in the page, `fieldBeyondPage` with its `start`. -/
def beyondPage (plan : PagePlan) (label : String) (start : Nat) : ResponseError :=
  .fieldBeyondPage label plan.key start plan.length

/-- The start byte of a field in a descriptor, once it is known to be usable: `offsetOf?` finds it,
and it ends within the page or the plan is `flexible`. -/
def locate (plan : PagePlan) (field : Field) (label : String) (index : Nat) :
    Attempt Error Nat := do
  match plan.offsetOf? field index with
  | none => throw (.item (.descriptorIndexOutOfRange label plan.key index plan.count))
  | some offset =>
    let start ← (plan.checkAddress offset).mapError Error.response
    -- a descriptor that was named is taken, whatever its id
    if ¬ plan.applies field index then
      Logged.remark .warn s!"{label}: descriptor {decimal index} carries a different descriptor id"
    if plan.endsBeyond field start then
      if plan.flexible then
        Logged.remark .warn
          s!"{label}: byte {decimal start} beyond page {plan.key} length {decimal plan.length}, continuing"
      else throw (.response (plan.beyondPage label start))
    return start

end PagePlan

namespace Editor

/-- The entry for a page and the namespace it is in. A page that is not in the `generic` tables is
looked for in the `fallback` tables, as an acronym is. -/
def pageEntry (editor : Editor) (key : PageKey) : Logged (Option PageEntry × Namespace) := do
  let space := editor.config.space
  match ← editor.registry.findPage key editor.type space with
  | some entry => return (some entry, space)
  | none =>
    if space ≠ .generic then return (none, space)
    match ← editor.registry.findPage key editor.type .fallback with
    | some entry =>
      Logged.remark .debug s!"page {key} resolved in {Namespace.fallback} tables"
      return (some entry, .fallback)
    | none => return (none, space)

/-- The plan of a page that was read, by its entry: the `layout` of its descriptor block, if it has
one. -/
def plan (editor : Editor) (key : PageKey) (entry : Option PageEntry) (image : PageImage) :
    Attempt ResponseError PagePlan := do
  let layout ← match entry.bind PageEntry.descriptors with
    | none => pure none
    | some block =>
      some <$> ExceptT.adapt (ResponseError.descriptor key) (block.layout image.page)
  return ⟨key, layout, image.pageLength, editor.config.flexible⟩

end Editor

end ModeParameters
