import ModeParameters.Bytes
import ModeParameters.Text.Numeral

/-! # Bit spans

The place of a field in a byte string: its most significant bit is bit `startBit` (7 is the highest)
of byte `startByte`, and it goes on through less significant bits into the bytes after it. Reading a
span gives an unsigned number of at most 64 bits; writing one changes no bit outside it. -/

namespace ModeParameters

open Text (decimal)

/-- Coordinates of a field. -/
structure BitSpan where
  /-- Byte that holds the most significant bit. -/
  startByte : Nat
  /-- Bit of that byte that is the most significant one; 7 is the highest. -/
  startBit : Nat
  /-- Width in bits. -/
  width : Nat
deriving DecidableEq, Repr

/-- Why the coordinates in a `BitSpan` cannot be used. -/
inductive BitSpanError
  /-- The width is zero or above 64. -/
  | invalidWidth (width : Nat)
  /-- There is no such bit in a byte. -/
  | invalidStartBit (startBit : Nat)
  /-- The span ends after the last byte: `startByte + byteCount` exceeds `length`. -/
  | outOfBounds (startByte byteCount length : Nat)
deriving DecidableEq, Repr

/-- The text of a coordinate error, with its numbers in `decimal`. -/
def BitSpanError.message : BitSpanError → String
  | .invalidWidth width => s!"field width {decimal width} is outside 1..=64"
  | .invalidStartBit startBit => s!"start bit {decimal startBit} is outside 0..=7"
  | .outOfBounds startByte byteCount length =>
    s!"field at byte {decimal startByte} spanning {decimal byteCount} bytes exceeds buffer of {decimal length} bytes"

/-- The name of the kind of a coordinate error. -/
def BitSpanError.name : BitSpanError → String
  | .invalidWidth _ => "InvalidWidth"
  | .invalidStartBit _ => "InvalidStartBit"
  | .outOfBounds .. => "OutOfBounds"

namespace BitSpan

/-- Coordinates of a field of 1 to 64 bits that starts at a bit of a byte, which is what `check`
asks for. -/
structure WellFormed (span : BitSpan) : Prop where
  /-- The field has a bit. -/
  width_pos : 0 < span.width
  /-- The field fits 64 bits. -/
  width_le : span.width ≤ 64
  /-- The start bit is a bit of a byte. -/
  startBit_le : span.startBit ≤ 7

/-- The number of bytes that the bits of a span touch: `7 - startBit` bits before the span, and its
`width`, rounded up to whole bytes. -/
def touched (span : BitSpan) : Nat := (7 - span.startBit + span.width + 7) / 8

/-- The number of bytes a well-formed span touches (`touched`). The width is judged before the start
bit. -/
def check (span : BitSpan) : Except BitSpanError Nat :=
  if span.width = 0 ∨ 64 < span.width then .error (.invalidWidth span.width)
  else if 7 < span.startBit then .error (.invalidStartBit span.startBit)
  else .ok span.touched

/-- The number of bytes a span touches, and 0 when `check` refuses it. -/
def byteCount (span : BitSpan) : Nat :=
  match span.check with
  | .ok count => count
  | .error _ => 0

theorem check_eq_ok_iff {span : BitSpan} {count : Nat} :
    span.check = .ok count ↔ span.WellFormed ∧ count = span.touched := by
  unfold check
  split
  · -- a width that no field has
    next h =>
    refine ⟨nofun, fun ⟨wf, _⟩ => ?_⟩
    have := wf.width_pos
    have := wf.width_le
    omega
  · next h =>
    split
    · -- a bit that no byte has
      next h' =>
      refine ⟨nofun, fun ⟨wf, _⟩ => ?_⟩
      have := wf.startBit_le
      omega
    · -- a field
      next h' =>
      simp only [Except.ok.injEq]
      exact ⟨fun e => ⟨⟨by omega, by omega, by omega⟩, e.symm⟩, fun e => e.2.symm⟩

/-- The number of bytes touched by a span that lies within `length` bytes; else `outOfBounds`. -/
def fit (span : BitSpan) (length : Nat) : Except BitSpanError Nat := do
  let count ← span.check
  if span.startByte + count ≤ length then return count
  else throw (.outOfBounds span.startByte count length)

/-- How many bits of the last of the `touched` bytes lie below the span. -/
def shift (span : BitSpan) : Nat := 8 * span.touched - (7 - span.startBit + span.width)

/-- The unsigned number in the bits of a span: the window of its bytes without the `shift` low bits,
and cut to `width`. -/
def read (span : BitSpan) (bytes : Bytes) : Except BitSpanError Nat := do
  let count ← span.fit bytes.length
  let word := Bytes.toNat (Bytes.window bytes span.startByte count)
  return (word >>> span.shift) % (1 <<< span.width)

/-- The bits of `new` where `mask` has a bit, and those of `old` elsewhere. -/
def blend (mask old new : Nat) : Nat := old ^^^ ((old ^^^ new) &&& mask)

theorem testBit_blend (mask old new i : Nat) :
    (blend mask old new).testBit i = if mask.testBit i then new.testBit i else old.testBit i := by
  simp only [blend, Nat.testBit_xor, Nat.testBit_and]
  cases mask.testBit i <;> cases old.testBit i <;> cases new.testBit i <;> rfl

/-- The bytes with the bits of a span set to the low `width` bits of a number, by `blend` in the
window of its bytes. -/
def write (span : BitSpan) (value : Nat) (bytes : Bytes) : Except BitSpanError Bytes := do
  let count ← span.fit bytes.length
  let old := Bytes.toNat (Bytes.window bytes span.startByte count)
  let mask := ((1 <<< span.width) - 1) <<< span.shift
  return Bytes.overwrite bytes span.startByte
    (Bytes.ofNat count (blend mask old (value <<< span.shift)))

theorem fit_eq_ok_iff {span : BitSpan} {length count : Nat} :
    span.fit length = .ok count ↔
      span.WellFormed ∧ count = span.touched ∧ span.startByte + count ≤ length := by
  cases h : span.check with
  | error e =>
    -- malformed coordinates fit nowhere
    have : ¬ span.WellFormed := fun wf => by simp [check_eq_ok_iff.2 ⟨wf, rfl⟩] at h
    simp [fit, h, this, bind, Except.bind]
  | ok n =>
    -- well-formed ones fit if their last byte does
    obtain ⟨wf, rfl⟩ := check_eq_ok_iff.1 h
    simp only [fit, h, bind, Except.bind, pure, Except.pure, throw, throwThe, MonadExceptOf.throw]
    split
    · simp only [Except.ok.injEq]
      exact ⟨fun e => ⟨wf, e.symm, by omega⟩, fun e => e.2.1.symm⟩
    · refine ⟨nofun, ?_⟩
      rintro ⟨-, rfl, h'⟩
      omega

/-- A span that lies within a `window` is read from the window as from the whole, `start` bytes
further on. -/
theorem read_window {span : BitSpan} {bytes : Bytes} {start count : Nat}
    (within : start + count ≤ bytes.length) (inside : span.startByte + span.touched ≤ count) :
    span.read (Bytes.window bytes start count) =
      ({ span with startByte := start + span.startByte } : BitSpan).read bytes := by
  have same : ({ span with startByte := start + span.startByte } : BitSpan).check = span.check := rfl
  unfold read fit
  rw [same, Bytes.length_window within]
  cases h : span.check with
  | error e => rfl
  | ok n =>
    obtain ⟨-, rfl⟩ := check_eq_ok_iff.1 h
    simp only [bind, Except.bind, pure, Except.pure, if_pos inside,
      if_pos (show start + span.startByte + span.touched ≤ bytes.length by omega),
      Bytes.window_window inside]
    rfl

/-- Writing keeps `bytes.length`. -/
theorem length_of_write {span : BitSpan} {value : Nat} {bytes bytes' : Bytes}
    (h : span.write value bytes = .ok bytes') : bytes'.length = bytes.length := by
  unfold write at h
  cases hf : span.fit bytes.length with
  | error e => simp [hf, bind, Except.bind] at h
  | ok count =>
    have := (fit_eq_ok_iff.1 hf).2.2
    simp only [hf, bind, Except.bind, pure, Except.pure, Except.ok.injEq] at h
    rw [← h]
    exact Bytes.length_overwrite (by simpa using this)

end BitSpan

end ModeParameters
