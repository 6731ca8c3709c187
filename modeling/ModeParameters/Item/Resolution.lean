import ModeParameters.Item.Basic
import ModeParameters.Registry.Acronym

/-! # Matching items with the tables

Items become bindings one after the other. The page of a request is the one it was given, or else
that of its first acronym; every later item is judged against it. Coordinates are given the name of
a field of the tables that is at the same place. -/

namespace ModeParameters

/-- The surroundings in which items are matched. -/
structure LookupContext where
  /-- The tables. -/
  registry : Registry
  /-- The namespace that acronyms and places are looked up in. -/
  space : Namespace
  /-- The type of the device. -/
  type : Option DeviceType

namespace LookupContext

/-- The fields with an acronym that are for the device (`DeviceFilter.applies`), in table order. -/
def candidates (context : LookupContext) (acronym : String) : Logged (List Field) := do
  let found ← context.registry.fieldsNamed acronym context.space
  return (found.map FieldMatch.field).filter fun field => field.filter.applies context.type

/-- The field among candidates that an acronym means: the first one, or the first one on the `page`
that was settled before. -/
def choose (context : LookupContext) (acronym : String) (index : Option Nat)
    (page : Option PageKey) : List Field → Except ItemError Field
  | [] => .error (.unknownAcronym acronym context.space)
  | first :: rest =>
    match page with
    | none => .ok first
    | some page =>
      match (first :: rest).find? fun field => field.page == page with
      | some field => .ok field
      | none => .error (.pageContradiction (first.labelAt (index.getD 0)) page first.page)

/-- Every page ends within the largest response a device can give, of `maxAllocation` bytes. -/
def addressEnd : Nat := CommandSize.maxAllocation .ten

/-- The field at coordinates of a page: the one of the tables with the same place (`fieldAt?`) if it
has the same width, or else a nameless one. -/
def fieldAtSpan (context : LookupContext) (page : PageKey) (span : BitSpan) : Field :=
  (((context.registry.table context.space).fieldAt? page span.startByte span.startBit).filter
    fun field => field.span.width == span.width).getD (.ofSpan page span)

/-- The field that an item means: for an acronym what `choose` takes of its `candidates`, for
coordinates `fieldAtSpan` on the settled page. -/
def fieldOf (context : LookupContext) (page : Option PageKey) (item : Item) :
    Attempt ItemError Field :=
  match item.name with
  | .acronym acronym index => do
    let found ← context.candidates acronym
    context.choose acronym index page found
  | .coordinates span =>
    match page with
    -- the page is asked for before the coordinates are judged
    | none => throw (.pageRequired item.text)
    | some page =>
      match span.fit addressEnd with
      | .error cause => throw (.coordinatesOutOfRange item.text cause)
      | .ok _ => return context.fieldAtSpan page span

/-- The binding of an item: its `fieldOf`, with its value as an `Action`. -/
def bind (context : LookupContext) (page : Option PageKey) (item : Item) :
    Attempt ItemError Binding := do
  let field ← context.fieldOf page item
  return {
    field
    action := .ofValue field.span.width item.value
    index := match item.name with
      | .acronym _ index => index
      | .coordinates _ => none
    literal := item.literal
    requested := item.value }

/-- The bindings of items, and the page that is settled after them: the one given, or else that of
the first `Binding`. -/
def bindAll (context : LookupContext) :
    Option PageKey → List Item → Attempt ItemError (List Binding × Option PageKey)
  | page, [] => return ([], page)
  | page, item :: rest => do
    let binding ← context.bind page item
    let (bindings, settled) ← context.bindAll (some (page.getD binding.field.page)) rest
    return (binding :: bindings, settled)

/-- The request that items make by `bindAll`. Without any item the page has to be given. -/
def resolve (context : LookupContext) (items : List Item) (page : Option PageKey) :
    Attempt ItemError Request := do
  let (bindings, settled) ← context.bindAll page items
  match settled with
  | some page => return ⟨page, bindings⟩
  | none => throw (.badItemSyntax "")

end LookupContext

end ModeParameters
