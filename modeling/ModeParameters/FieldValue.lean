import ModeParameters.Text.Numeral

/-! # Field values and their texts

A field holds an unsigned number. At certain widths a number with every bit set means "none" or "no
limit" and prints as `-1`; at certain widths a number can also be read as two's complement. -/

namespace ModeParameters

open Text (decimal markedHex signedDecimal padLeft)

/-- The number with the low `width` bits set; no value has more than 64 bits. -/
def mask (width : Nat) : Nat := (1 <<< min width 64) - 1

theorem mask_eq {width : Nat} (h : width ≤ 64) : mask width = (1 <<< width) - 1 := by
  rw [mask, Nat.min_eq_left h]

/-- Masking keeps the low bits of a number: `value &&& mask width` is a remainder. -/
theorem and_mask (value width : Nat) : value &&& mask width = value % (1 <<< min width 64) := by
  rw [mask, Nat.one_shiftLeft, Nat.and_two_pow_sub_one_eq_mod]

/-! ## All ones and signs -/

/-- Widths at which a number with every bit set has a meaning of its own (`isAllOnes`). -/
def sentinelWidths : List Nat := [8, 16, 24, 32, 48, 64]

/-- A value is `mask width`, at one of the `sentinelWidths`. -/
def isAllOnes (value width : Nat) : Bool := sentinelWidths.contains width && value == mask width

/-- Widths at which a number can be read as two's complement (`signed?`). -/
def signedWidths : List Nat := [4, 8, 16, 24, 32, 64]

/-- The low `width` bits of a value read as two's complement, at the `signedWidths`. -/
def signed? (value width : Nat) : Option Int :=
  if signedWidths.contains width then some (Int.bmod value (1 <<< width)) else none

/-- The text of a value as a signed number (`signed?`); unsigned where the width has no signed
reading. With `leadingZeros` the text has at least two characters. -/
def signedText (value width : Nat) (leadingZeros : Bool) : String :=
  let text := match signed? value width with
    | some n => signedDecimal n
    | none => decimal (value &&& mask width)
  if leadingZeros then padLeft 2 '0' text else text

/-! ## Styles -/

/-- How the value of a field wants to be shown. -/
structure Presentation where
  /-- In hexadecimal. -/
  hex : Bool := false
  /-- As a two's-complement number. -/
  signed : Bool := false
deriving DecidableEq, Repr

/-- How to write a value. -/
inductive ValueStyle
  /-- As the field wants it; all ones as `-1`. -/
  | auto
  /-- As an unsigned decimal number. -/
  | decimal
  /-- As a marked hexadecimal number. -/
  | hex
  /-- As a signed decimal number. -/
  | signed
deriving DecidableEq, Repr

/-- A value read from a field. -/
structure FieldValue where
  /-- The unsigned number. -/
  value : Nat
  /-- Every bit is set and that has a meaning of its own. -/
  allOnes : Bool
deriving DecidableEq, Repr

namespace FieldValue

/-- The value of a field of the given width, judged by `isAllOnes`. -/
def ofNat (value width : Nat) : FieldValue := ⟨value, isAllOnes value width⟩

/-- The style that `auto` stands for: the sentinel first, then two's complement, then
hexadecimal. -/
def autoText (fieldValue : FieldValue) (width : Nat) (presentation : Presentation) : String :=
  if fieldValue.allOnes then "-1"
  else if presentation.signed then signedText fieldValue.value width false
  else if presentation.hex then markedHex fieldValue.value
  else decimal fieldValue.value

/-- The text of a value in a style; only `auto` looks at the `Presentation`. -/
def render (fieldValue : FieldValue) (width : Nat) (presentation : Presentation) :
    ValueStyle → String
  | .auto => fieldValue.autoText width presentation
  | .decimal => decimal fieldValue.value
  | .hex => markedHex fieldValue.value
  | .signed => signedText fieldValue.value width false

end FieldValue

end ModeParameters
