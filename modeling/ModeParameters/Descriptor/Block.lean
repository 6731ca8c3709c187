import ModeParameters.BitSpan
import ModeParameters.Page.Header

/-! # Descriptor blocks

Some pages carry a part that is repeated, once for each phy, say. A descriptor block says where the
first of these descriptors starts, how their number is found and how far apart they are. Its name is
used in messages. -/

namespace ModeParameters

open Text (decimal)

/-- How the number of descriptors is found (`declaredCount`). -/
inductive CountRule
  /-- A field of the page holds the byte length of the descriptor list and `extra` bytes more. -/
  | byteLength (offset width extra : Nat)
  /-- A field of the page holds the number of descriptors less `increment`. -/
  | counted (offset width : Nat) (increment : Int)
  /-- The descriptors go on to the end of the page. -/
  | untilPageEnd
deriving DecidableEq, Repr

/-- How far one descriptor is from the next; for `variable` strides only the page tells. -/
inductive StrideRule
  /-- Every descriptor has this length. -/
  | fixed (length : Nat)
  /-- Every descriptor has a field that holds the length of what follows that field. -/
  | variable (lengthOffset lengthWidth : Nat)
deriving DecidableEq, Repr

/-- The repeated part of a page. -/
structure DescriptorBlock where
  /-- Where in the page the first descriptor starts. -/
  firstOffset : Nat
  /-- How many there are. -/
  count : CountRule
  /-- How far apart they are. -/
  stride : StrideRule
  /-- Where in a descriptor the byte is whose low four bits are its id (`idAt?`). -/
  idOffset : Option Nat
  /-- What one descriptor is called. -/
  name : String
deriving DecidableEq, Repr

/-- Why the descriptors of a page cannot be found. -/
inductive DescriptorError
  /-- The page counts more than `maxDescriptorCount` descriptors. -/
  | implausibleCount (name : String) (count : Nat)
  /-- The field that counts the descriptors cannot be read. -/
  | countField (name : String) (cause : BitSpanError)
  /-- Descriptors of length zero would never end. -/
  | zeroStride (name : String)
  /-- The address of a descriptor does not fit 64 bits. -/
  | addressOverflow (name : String)
deriving DecidableEq, Repr

/-- The most descriptors a page may have, beyond which a count is `implausibleCount`. -/
def maxDescriptorCount : Nat := 512

/-- The longest length that a descriptor may report before the chain ends as `oversized`. -/
def maxDescriptorLength : Nat := 1024

/-- The text of a descriptor error. -/
def DescriptorError.message : DescriptorError → String
  | .implausibleCount name count =>
    s!"implausible {name} count {decimal count} (limit {decimal maxDescriptorCount})"
  | .countField name cause => s!"{name} count field unreadable: {cause.message}"
  | .zeroStride name => s!"{name} has zero stride"
  | .addressOverflow name => s!"{name} address exceeds 64 bits"

/-- The name of the kind of a descriptor error. -/
def DescriptorError.kindName : DescriptorError → String
  | .implausibleCount .. => "ImplausibleCount"
  | .countField .. => "CountField"
  | .zeroStride _ => "ZeroStride"
  | .addressOverflow _ => "AddressOverflow"

namespace DescriptorBlock

/-- The big-endian number in `width` bytes of a page, for a width of 1 to 8. The width in bits,
`8 * width`, is an eight-bit number, and stops at 255. -/
def readField (page : Bytes) (offset width : Nat) : Except BitSpanError Nat :=
  BitSpan.read ⟨offset, 7, min (8 * width) 255⟩ page

/-- Where the descriptors of a page must end: at `Page.reportedLength?`, or earlier where its bytes
end. -/
def pageEnd (page : Bytes) : Nat :=
  match Page.reportedLength? page with
  | some length => min length page.length
  | none => page.length

/-- The count field of a page: `readField`, with its error as the `countField` of the block. -/
def readCountField (block : DescriptorBlock) (page : Bytes) (offset width : Nat) :
    Except DescriptorError Nat :=
  (readField page offset width).mapError (.countField block.name)

/-- The greatest 63-bit number, at which `correctedCount` stops. -/
def maxStoredCount : Nat := 0x7FFFFFFFFFFFFFFF

/-- A stored count plus its `increment`, not below zero and not above `maxStoredCount`. -/
def correctedCount (stored : Nat) (increment : Int) : Nat :=
  min (min stored maxStoredCount + increment).toNat maxStoredCount

/-- The number of descriptors that a page declares by the `CountRule` of the block when they are
`stride` bytes apart; above `maxDescriptorCount` it is an error. -/
def declaredCount (block : DescriptorBlock) (page : Bytes) (stride : Nat) :
    Except DescriptorError Nat := do
  let count ← match block.count with
    | .byteLength offset width extra => do
      let length ← block.readCountField page offset width
      pure ((length - extra) / stride)
    | .counted offset width increment => do
      let stored ← block.readCountField page offset width
      pure (correctedCount stored increment)
    | .untilPageEnd => pure ((pageEnd page - block.firstOffset) / stride)
  if maxDescriptorCount < count then throw (.implausibleCount block.name count)
  else return count

theorem pageEnd_le_length (page : Bytes) : pageEnd page ≤ page.length := by
  unfold pageEnd
  split
  · exact Nat.min_le_right _ _
  · exact Nat.le_refl _

end DescriptorBlock

end ModeParameters
