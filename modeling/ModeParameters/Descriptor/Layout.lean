import ModeParameters.Descriptor.Chain
import ModeParameters.Field

/-! # Descriptor layouts

The layout of a page is where its descriptors start and which ids they carry. It is found once for
each page that is read, and all addresses of fields in descriptors come from it. A page with a
descriptor block has at least its nominal descriptor, the one at the first offset. -/

namespace ModeParameters

open Text (decimal wordLimit)

/-- Where the descriptors of one page are, as `DescriptorBlock.layout` finds them. -/
structure Layout where
  /-- The block they were found by. -/
  block : DescriptorBlock
  /-- Where each descriptor starts. -/
  starts : List Nat
  /-- The id that each descriptor carries, if it carries one. -/
  ids : List (Option Nat)
deriving DecidableEq, Repr

namespace DescriptorBlock

/-- Where descriptors of one length start: `firstOffset + stride * index` for as many as
`declaredCount` gives, at least one. -/
def fixedStarts (block : DescriptorBlock) (page : Bytes) (stride : Nat) :
    Attempt DescriptorError (List Nat) := do
  let declared ← block.declaredCount page stride
  let count := max declared 1
  Logged.remark .debug
    s!"{block.name}: {decimal count} fixed-stride descriptors of {decimal stride} bytes"
  if wordLimit ≤ block.firstOffset + stride * (count - 1) then throw (.addressOverflow block.name)
  return (List.range count).map fun index => block.firstOffset + stride * index

/-- The area of a page in which the chain of its descriptors lies, and how many are wanted: all that
are there, but for a `counted` block. -/
def chainBounds (block : DescriptorBlock) (page : Bytes) :
    Except DescriptorError (Nat × Option Nat) :=
  match block.count with
  | .counted .. => do
    let wanted ← block.declaredCount page 1
    return (pageEnd page, some wanted)
  | .byteLength offset width extra => do
    let length ← block.readCountField page offset width
    return (min (block.firstOffset + (length - extra)) (pageEnd page), none)
  | .untilPageEnd => return (pageEnd page, none)

/-- Where descriptors of varying length start, by `ChainRule.follow`; the `firstOffset` when none is
found. -/
def chainStarts (block : DescriptorBlock) (page : Bytes) (lengthOffset lengthWidth : Nat) :
    Attempt DescriptorError (List Nat) := do
  let (areaEnd, wanted) ← block.chainBounds page
  -- the sums that the walk makes first must be addresses, even if no length field is read
  let rule : ChainRule := ⟨lengthOffset, lengthWidth, areaEnd⟩
  if wordLimit ≤ rule.header ∨ wanted ≠ some 0 ∧ wordLimit ≤ block.firstOffset + rule.header then
    throw (.addressOverflow block.name)
  let chain := rule.follow (page.drop block.firstOffset) wanted block.firstOffset
  remarkChain block.name chain
  return if chain.1 = [] then [block.firstOffset] else chain.1.map Link.start

/-- The id that a descriptor at `start` carries: the low four bits of the byte at
`start + idOffset`, if the page has it. -/
def idAt? (block : DescriptorBlock) (page : Bytes) (start : Nat) : Option Nat := do
  let offset ← block.idOffset
  let byte ← page[start + offset]?
  return byte.toNat % 16

/-- The layout of a page, which starts at the byte that carries the page code: the starts by the
`StrideRule`, judged by their number, and the `idAt?` of each. -/
def layout (block : DescriptorBlock) (page : Bytes) : Attempt DescriptorError Layout := do
  let starts ← match block.stride with
    | .fixed 0 => throw (.zeroStride block.name)
    | .fixed stride => block.fixedStarts page stride
    | .variable lengthOffset lengthWidth => block.chainStarts page lengthOffset lengthWidth
  if maxDescriptorCount < starts.length then
    throw (.implausibleCount block.name starts.length)
  if starts.any fun start => block.idOffset.any fun offset => wordLimit ≤ start + offset then
    throw (.addressOverflow block.name)
  return ⟨block, starts, starts.map (block.idAt? page)⟩

end DescriptorBlock

namespace Layout

/-- The number of descriptors. -/
def count (layout : Layout) : Nat := layout.starts.length

/-- Where a descriptor starts; none from `count` on. -/
def startOf? (layout : Layout) (index : Nat) : Option Nat := layout.starts[index]?

/-- The id that a descriptor carries; none without one, and none from `count` on. -/
def idOf? (layout : Layout) (index : Nat) : Option Nat := (layout.ids[index]?).join

/-- A field lies in the descriptors, from `firstOffset` on, not in the part of the page before
them. -/
def holds (layout : Layout) (field : Field) : Bool :=
  layout.block.firstOffset ≤ field.span.startByte

/-- Where a field is in a descriptor: shifted by `stride * index`, or from `startOf?` as far as it
is from `firstOffset`. A field of the page before the descriptors is in descriptor 0 only, and is
where its table says. -/
def offsetOf? (layout : Layout) (field : Field) (index : Nat) : Option Nat :=
  if layout.holds field then
    match layout.block.stride with
    | .fixed stride =>
      if index < layout.count then some (field.span.startByte + stride * index) else none
    | .variable .. =>
      (layout.startOf? index).map (· + (field.span.startByte - layout.block.firstOffset))
  else if index = 0 then some field.span.startByte
  else none

/-- A field means something in a descriptor. One that shares its place with others (`clashOk`) does
so only in descriptors with its id, as far as both ids are known. -/
def applies (layout : Layout) (field : Field) (index : Nat) : Bool :=
  index < layout.count && (layout.holds field || index == 0) &&
    (!field.flags.clashOk ||
      match field.descriptorId, layout.idOf? index with
      | some wanted, some carried => wanted == carried
      | _, _ => true)

end Layout

end ModeParameters
