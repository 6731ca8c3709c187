import ModeParameters.Descriptor.Block
import ModeParameters.Log

/-! # Chains of descriptors

Descriptors of varying length form a chain: each has a length field, and the next one starts where it
ends. The chain is followed from the first descriptor on as long as a descriptor lies within the
area, reports a length that is not too large, and is still wanted. -/

namespace ModeParameters

open Text (decimal)

/-- One descriptor of a chain. -/
structure Link where
  /-- Where in the page it starts. -/
  start : Nat
  /-- The length it reports. -/
  length : Nat
deriving DecidableEq, Repr

/-- What ended a chain that was walked by `ChainRule.follow`. -/
inductive ChainEnd
  /-- As many descriptors as wanted were found. -/
  | complete
  /-- The next length field does not end within the area. -/
  | noRoom
  /-- The next length field cannot be read. -/
  | unreadable
  /-- The next descriptor reports a length above `maxDescriptorLength`. -/
  | oversized (start length : Nat)
  /-- The next descriptor does not end within the area. -/
  | cut
deriving DecidableEq, Repr

/-- How a chain is followed in a page. -/
structure ChainRule where
  /-- Where in a descriptor its length field starts. -/
  lengthOffset : Nat
  /-- The width of the length field in bytes. -/
  lengthWidth : Nat
  /-- Where the area ends, which for all but `byteLength` counts is the `pageEnd`. -/
  areaEnd : Nat
deriving DecidableEq, Repr

namespace ChainRule

/-- The part of a descriptor that its reported length does not count: `lengthOffset + lengthWidth`
bytes. -/
def header (rule : ChainRule) : Nat := rule.lengthOffset + rule.lengthWidth

/-- The length that the descriptor at the start of `rest` reports, if `readField` can read it. -/
def reported? (rule : ChainRule) (rest : Bytes) : Option Nat :=
  (DescriptorBlock.readField (rest.take rule.header) rule.lengthOffset rule.lengthWidth).toOption

/-- A length that can be read (`reported?`) has a field of at least one byte. -/
theorem header_pos_of_reported? {rule : ChainRule} {rest : Bytes} {length : Nat}
    (h : rule.reported? rest = some length) : 0 < rule.header := by
  refine Nat.pos_of_ne_zero fun zero => ?_
  have width : rule.lengthWidth = 0 := by
    unfold header at zero
    omega
  rw [reported?, width] at h
  simp [DescriptorBlock.readField, BitSpan.read, BitSpan.fit, BitSpan.check, Except.toOption,
    bind, Except.bind] at h

/-- A length field that lies in the page is read from `page.drop start` as `readField` reads it from
the page. -/
theorem reported?_drop {rule : ChainRule} {page : Bytes} {start : Nat}
    (h : start + rule.header ≤ page.length) :
    rule.reported? (page.drop start) =
      (DescriptorBlock.readField page (start + rule.lengthOffset) rule.lengthWidth).toOption := by
  have touched : BitSpan.touched ⟨rule.lengthOffset, 7, min (8 * rule.lengthWidth) 255⟩ ≤
      rule.lengthWidth := by
    simp only [BitSpan.touched]
    omega
  unfold reported? DescriptorBlock.readField
  change (BitSpan.read _ (Bytes.window page start rule.header)).toOption = _
  rw [BitSpan.read_window h (by unfold header; simp only; omega)]

/-- The chain from `start` on, at most `wanted` descriptors of it, and what ended it. The page from
`start` on is `rest`. -/
def follow (rule : ChainRule) (rest : Bytes) (wanted : Option Nat) (start : Nat) :
    List Link × ChainEnd :=
  if wanted = some 0 then ([], .complete)
  else if rule.areaEnd < start + rule.header then ([], .noRoom)
  else match _found : rule.reported? rest with
    | none => ([], .unreadable)
    | some length =>
      if maxDescriptorLength < length then ([], .oversized start length)
      else if rule.areaEnd < start + rule.header + length then ([], .cut)
      else
        let further := rule.follow (rest.drop (rule.header + length)) (wanted.map (· - 1))
          (start + rule.header + length)
        (⟨start, length⟩ :: further.1, further.2)
termination_by rule.areaEnd + 1 - start
decreasing_by
  -- the length field has a byte, so the next descriptor starts further on
  have := header_pos_of_reported? _found
  omega

end ChainRule

/-- The remarks on the links of a chain, one `debug` line each, numbered from `index` on. -/
def remarkLinks (name : String) : Nat → List Link → Logged Unit
  | _, [] => pure ()
  | index, link :: rest => do
    Logged.remark .debug
      s!"{name} {decimal index} at offset {decimal link.start}, length {decimal link.length}"
    remarkLinks name (index + 1) rest

/-- The remarks on a chain: each link by `remarkLinks`, then what made it end early. -/
def remarkChain (name : String) (chain : List Link × ChainEnd) : Logged Unit := do
  remarkLinks name 0 chain.1
  match chain.2 with
  | .oversized start length =>
    Logged.remark .warn
      s!"{name} at offset {decimal start} reports length {decimal length}, abandoning walk after {decimal chain.1.length} descriptors"
  | _ => pure ()

end ModeParameters
