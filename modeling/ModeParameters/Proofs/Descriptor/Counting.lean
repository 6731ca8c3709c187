import ModeParameters.Proofs.BitSpan.Codec
import ModeParameters.Proofs.Descriptor.Layout

/-! # Counting descriptors

A page counts its descriptors in a field, or by the length of their list, or not at all. The numbers
are those of whole-number arithmetic, and the limits at which stored counts stop change neither a count
that is accepted nor whether one is. -/

namespace ModeParameters

open Text (wordLimit)

namespace Bytes

/-- The big-endian number in `width` bytes from `offset` on, for one to eight bytes that are all
there. -/
def numberAt? (bytes : Bytes) (offset width : Nat) : Option Nat :=
  if 0 < width ∧ width ≤ 8 ∧ offset + width ≤ bytes.length then
    some (toNat (window bytes offset width))
  else none

/-- No number (`numberAt?`) is read from bytes that are not all there, or from none or more than
eight. -/
theorem numberAt?_eq_none_iff {bytes : Bytes} {offset width : Nat} :
    bytes.numberAt? offset width = none ↔
      ¬ (0 < width ∧ width ≤ 8 ∧ offset + width ≤ bytes.length) := by
  unfold numberAt?
  split
  · next readable => exact iff_of_false nofun fun unreadable => unreadable readable
  · next unreadable => exact iff_of_true rfl unreadable

/-- The number in so many bytes is less than the power of two with that many bits:
`toNat bytes < 1 <<< (8 * bytes.length)`. -/
theorem toNat_lt (bytes : Bytes) : toNat bytes < 1 <<< (8 * bytes.length) := by
  rw [Nat.one_shiftLeft]
  refine Nat.lt_pow_two_of_testBit _ fun j above => ?_
  rw [testBit_toNat, decide_eq_false (Nat.not_lt.2 above), Bool.false_and]

/-- A number in up to eight bytes is below `wordLimit`. -/
theorem lt_of_numberAt? {bytes : Bytes} {offset width n : Nat}
    (h : bytes.numberAt? offset width = some n) : n < wordLimit := by
  unfold numberAt? at h
  split at h
  · next readable =>
    cases h
    calc toNat (window bytes offset width) < 1 <<< (8 * (window bytes offset width).length) :=
          toNat_lt _
      _ = 1 <<< (8 * width) := by rw [length_window readable.2.2]
      _ ≤ wordLimit := by
        rw [Nat.one_shiftLeft]
        exact Nat.pow_le_pow_right (by decide) (by omega : 8 * width ≤ 64)
  · cases h

end Bytes

namespace CountRule

/-- The field by which descriptors are counted, if there is one: its offset and its width. -/
def field? : CountRule → Option (Nat × Nat)
  | byteLength offset width _ => some (offset, width)
  | counted offset width _ => some (offset, width)
  | untilPageEnd => none

/-- The correction of a stored count is a signed 32-bit number. -/
def Narrow : CountRule → Prop
  | counted _ _ increment => -0x80000000 ≤ increment ∧ increment < 0x80000000
  | _ => True

end CountRule

namespace DescriptorBlock

variable {block : DescriptorBlock} {page : Bytes} {stride offset width n : Nat}

/-- A field is read by `readField` as the number in its bytes, `numberAt?`. -/
theorem readField_eq_ok_iff :
    readField page offset width = .ok n ↔ page.numberAt? offset width = some n := by
  have touched (fits : width ≤ 8) :
      BitSpan.touched ⟨offset, 7, min (8 * width) 255⟩ = width := by
    unfold BitSpan.touched
    dsimp only
    omega
  unfold readField Bytes.numberAt?
  by_cases readable : 0 < width ∧ width ≤ 8 ∧ offset + width ≤ page.length
  · obtain ⟨pos, fits, inside⟩ := readable
    have within : BitSpan.Within ⟨offset, 7, min (8 * width) 255⟩ page.length :=
      ⟨⟨by dsimp only; omega, by dsimp only; omega, Nat.le_refl 7⟩, by rw [touched fits]; exact inside⟩
    -- the field fills its bytes, so nothing is shifted out and nothing is cut off
    have shift : BitSpan.shift ⟨offset, 7, min (8 * width) 255⟩ = 0 := by
      rw [BitSpan.shift, touched fits]
      dsimp only
      omega
    have small : Bytes.toNat (Bytes.window page offset width) < 1 <<< min (8 * width) 255 := by
      have bound := Bytes.toNat_lt (Bytes.window page offset width)
      rwa [Bytes.length_window inside, ← show min (8 * width) 255 = 8 * width by omega] at bound
    rw [if_pos ⟨pos, fits, inside⟩, BitSpan.read_of_within within, touched fits, shift,
      Nat.shiftRight_zero, Nat.mod_eq_of_lt small, Except.ok.injEq, Option.some.injEq]
  · rw [if_neg readable]
    refine iff_of_false (fun read => readable ?_) nofun
    have within := BitSpan.within_of_read read
    have pos := within.wellFormed.width_pos
    have fits := within.wellFormed.width_le
    have ends := within.end_le
    dsimp only at pos fits ends
    rw [touched (by omega)] at ends
    exact ⟨by omega, by omega, ends⟩

/-- The count field of a page (`readCountField`) is read as the number in its bytes, or the error
says why not. -/
theorem readCountField_cases (block : DescriptorBlock) (page : Bytes) (offset width : Nat) :
    (page.numberAt? offset width = none ∧
      ∃ cause, block.readCountField page offset width = .error (.countField block.name cause)) ∨
    ∃ n, page.numberAt? offset width = some n ∧ block.readCountField page offset width = .ok n := by
  unfold readCountField
  cases read : readField page offset width with
  | ok n => exact .inr ⟨n, readField_eq_ok_iff.1 read, rfl⟩
  | error cause =>
    refine .inl ⟨?_, cause, rfl⟩
    rw [Option.eq_none_iff_forall_ne_some]
    intro n found
    rw [readField_eq_ok_iff.2 found] at read
    cases read

/-! ## Counts -/

/-- A field that counts the descriptors (`CountRule.field?`) is needed and cannot be read: it is not
all in the page, or its width is that of no number. -/
def Uncountable (block : DescriptorBlock) (page : Bytes) : Prop :=
  ∃ offset width, block.count.field? = some (offset, width) ∧
    ¬ (0 < width ∧ width ≤ 8 ∧ offset + width ≤ page.length)

/-- The number of descriptors that a page declares when they are `stride` bytes apart, in whole
numbers without bound, where `declaredCount` has limits. A number below zero counts as zero. -/
def exactCount? (block : DescriptorBlock) (page : Bytes) (stride : Nat) : Option Nat :=
  match block.count with
  | .byteLength offset width extra =>
    (page.numberAt? offset width).map fun length : Nat => ((length : Int) - extra).toNat / stride
  | .counted offset width increment =>
    (page.numberAt? offset width).map fun stored : Nat => ((stored : Int) + increment).toNat
  | .untilPageEnd => some (((pageEnd page : Int) - block.firstOffset).toNat / stride)

/-- A page declares no `exactCount?` of descriptors exactly when the field that is needed cannot be
read. -/
theorem exactCount?_eq_none_iff : block.exactCount? page stride = none ↔ block.Uncountable page := by
  unfold exactCount? Uncountable
  cases block.count with
  | byteLength offset width | counted offset width =>
    rw [Option.map_eq_none_iff, Bytes.numberAt?_eq_none_iff]
    constructor
    · intro unreadable
      exact ⟨offset, width, rfl, unreadable⟩
    · rintro ⟨_, _, ⟨⟩, unreadable⟩
      exact unreadable
  | untilPageEnd => simp [CountRule.field?]

/-- **The limits of stored counts decide nothing.** A 64-bit count with a 32-bit correction is
accepted by `correctedCount` as in whole numbers, and is then the same. -/
theorem correctedCount_le_iff {stored : Nat} {increment : Int} (word : stored < wordLimit)
    (lower : -0x80000000 ≤ increment) (upper : increment < 0x80000000) :
    (correctedCount stored increment ≤ maxDescriptorCount ↔
      ((stored : Int) + increment).toNat ≤ maxDescriptorCount) ∧
    (((stored : Int) + increment).toNat ≤ maxDescriptorCount →
      correctedCount stored increment = ((stored : Int) + increment).toNat) := by
  unfold correctedCount maxStoredCount maxDescriptorCount
  unfold wordLimit at word
  omega

/-- What is made of a number of descriptors: it is taken as it is, unless it is above
`maxDescriptorCount`. -/
structure Judges (block : DescriptorBlock) (count : Nat) (outcome : Except DescriptorError Nat) :
    Prop where
  /-- A plausible number is taken. -/
  accepted : count ≤ maxDescriptorCount → outcome = .ok count
  /-- Any other number is an error. -/
  refused : maxDescriptorCount < count → ∃ n, outcome = .error (.implausibleCount block.name n)

/-- A number may be limited before it is judged, if that makes no difference to a plausible one. -/
theorem judges_of_le_iff {count n : Nat} (same : n ≤ maxDescriptorCount ↔ count ≤ maxDescriptorCount)
    (exact_of_le : count ≤ maxDescriptorCount → n = count) :
    block.Judges count
      (if maxDescriptorCount < n then .error (.implausibleCount block.name n) else .ok n) := by
  constructor
  · intro small
    obtain rfl := exact_of_le small
    exact if_neg (Nat.not_lt.2 small)
  · intro large
    exact ⟨n, if_pos (Nat.lt_of_not_le fun small => Nat.not_le.2 large (same.1 small))⟩

/-- **What a page declares** (`declaredCount`): nothing where its count field cannot be read, and
else the exact number of descriptors, unless there are too many. -/
theorem declaredCount_cases (page : Bytes) (stride : Nat) (narrow : block.count.Narrow) :
    (block.exactCount? page stride = none ∧
      ∃ cause, block.declaredCount page stride = .error (.countField block.name cause)) ∨
    ∃ count, block.exactCount? page stride = some count ∧
      block.Judges count (block.declaredCount page stride) := by
  unfold exactCount? declaredCount
  unfold CountRule.Narrow at narrow
  cases rule : block.count with
  | untilPageEnd =>
    refine .inr ⟨_, rfl, ?_⟩
    rw [Int.toNat_sub]
    exact judges_of_le_iff Iff.rfl fun _ => rfl
  | byteLength offset width extra =>
    dsimp only
    rcases block.readCountField_cases page offset width with
      ⟨none, cause, failed⟩ | ⟨length, found, read⟩
    · exact .inl ⟨by rw [none]; rfl, cause, by rw [failed]; rfl⟩
    · refine .inr ⟨((length : Int) - extra).toNat / stride, by rw [found]; rfl, ?_⟩
      rw [read, Int.toNat_sub]
      exact judges_of_le_iff Iff.rfl fun _ => rfl
  | counted offset width increment =>
    rw [rule] at narrow
    dsimp only
    rcases block.readCountField_cases page offset width with
      ⟨none, cause, failed⟩ | ⟨stored, found, read⟩
    · exact .inl ⟨by rw [none]; rfl, cause, by rw [failed]; rfl⟩
    · refine .inr ⟨_, by rw [found]; rfl, ?_⟩
      rw [read]
      obtain ⟨same, exact_of_le⟩ :=
        correctedCount_le_iff (Bytes.lt_of_numberAt? found) narrow.1 narrow.2
      exact judges_of_le_iff same exact_of_le

end DescriptorBlock

end ModeParameters
