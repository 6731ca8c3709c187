import Mathlib.Data.Nat.Bitwise
import ModeParameters.Page.Header
import ModeParameters.Proofs.Bytes.Bits

/-! # Page headers, byte by byte

A page that starts at some byte of a response is described by the bytes there: bits 7 and 6 of the
first one, the page code in the other six, and the length and subpage fields behind it. -/

namespace ModeParameters

namespace Bytes

/-- The number in byte `i`. -/
def byteAt (bytes : Bytes) (i : Nat) : Nat := (bytes.getD i 0).toNat

/-- The number in bytes `i` and `i + 1`. -/
def wordAt (bytes : Bytes) (i : Nat) : Nat := 256 * bytes.byteAt i + bytes.byteAt (i + 1)

theorem getD_drop (bytes : Bytes) (start i : Nat) :
    (bytes.drop start).getD i 0 = bytes.getD (start + i) 0 := by
  rw [List.getD_eq_getElem?_getD, List.getD_eq_getElem?_getD, List.getElem?_drop]

/-- A window of one byte holds the number in that byte. -/
theorem toNat_window_one {bytes : Bytes} {start : Nat} (h : start < bytes.length) :
    toNat (window bytes start 1) = bytes.byteAt start := by
  rw [window, List.drop_eq_getElem_cons h, List.take_succ_cons, List.take_zero, toNat_singleton,
    byteAt, List.getD_eq_getElem _ _ h]

/-- A window of two bytes holds the number in those bytes, `wordAt` its start. -/
theorem toNat_window_two {bytes : Bytes} {start : Nat} (h : start + 1 < bytes.length) :
    toNat (window bytes start 2) = bytes.wordAt start := by
  have first : start < bytes.length := by omega
  rw [window, List.drop_eq_getElem_cons first, List.drop_eq_getElem_cons h, wordAt, byteAt, byteAt,
    List.getD_eq_getElem _ _ first, List.getD_eq_getElem _ _ h]
  simp only [List.take_succ_cons, List.take_zero, toNat, List.foldl_cons, List.foldl_nil]
  omega

/-- The bits of a byte are those of the string at its place, `8 * i` on, the last one least
significant. -/
theorem testBit_getD (bytes : Bytes) (i : Nat) {j : Nat} (h : j < 8) :
    (bytes.getD i 0).toNat.testBit j = bytes.bit (8 * i + (7 - j)) := by
  rw [Bytes.bit, show (8 * i + (7 - j)) / 8 = i by omega,
    show 7 - (8 * i + (7 - j)) % 8 = j by omega]

/-- A byte is known by its eight bits, `8 * i` on. -/
theorem getD_congr {bytes bytes' : Bytes} {i i' : Nat}
    (same : ∀ k < 8, bytes'.bit (8 * i' + k) = bytes.bit (8 * i + k)) :
    bytes'.getD i' 0 = bytes.getD i 0 := by
  rw [← UInt8.toNat_inj]
  apply Nat.eq_of_testBit_eq
  intro j
  by_cases small : j < 8
  · rw [testBit_getD _ _ small, testBit_getD _ _ small, same (7 - j) (by omega)]
  · -- neither byte has such a bit
    rw [testBit_toNat_eq_false _ (by omega), testBit_toNat_eq_false _ (by omega)]

theorem byteAt_congr {bytes bytes' : Bytes} {i i' : Nat}
    (same : ∀ k < 8, bytes'.bit (8 * i' + k) = bytes.bit (8 * i + k)) :
    bytes'.byteAt i' = bytes.byteAt i :=
  congrArg UInt8.toNat (getD_congr same)

theorem wordAt_congr {bytes bytes' : Bytes} {i i' : Nat}
    (same : ∀ k < 16, bytes'.bit (8 * i' + k) = bytes.bit (8 * i + k)) :
    bytes'.wordAt i' = bytes.wordAt i := by
  -- the first eight bits are the high byte, the next eight the low one
  have high : bytes'.byteAt i' = bytes.byteAt i := byteAt_congr fun k small => same k (by omega)
  have low : bytes'.byteAt (i' + 1) = bytes.byteAt (i + 1) := by
    apply byteAt_congr
    intro k small
    have bit := same (8 + k) (by omega)
    rw [show 8 * (i' + 1) + k = 8 * i' + (8 + k) by omega,
      show 8 * (i + 1) + k = 8 * i + (8 + k) by omega]
    exact bit
  rw [wordAt, wordAt, high, low]

end Bytes

namespace Page

variable (bytes : Bytes) (offset : Nat)

/-- The page at `offset` has the four-byte header. -/
def subpageFormatAt : Bool := bytes.bit (8 * offset + 1)

/-- The length of the header of the page at `offset`. -/
def headerLengthAt : Nat := if subpageFormatAt bytes offset then 4 else 2

/-- The page code of the page at `offset`. -/
def codeAt : UInt8 := bytes.getD offset 0 &&& 0x3F

/-- The subpage code of the page at `offset`; 0 without the four-byte header. -/
def subpageAt : UInt8 := if subpageFormatAt bytes offset then bytes.getD (offset + 1) 0 else 0

/-- The length that the page at `offset` reports of itself, its header included. -/
def lengthAt : Nat :=
  if subpageFormatAt bytes offset then 4 + bytes.wordAt (offset + 2)
  else 2 + bytes.byteAt (offset + 1)

variable {bytes offset}

/-- A mask of one bit, `1 <<< k`, keeps something of a byte when that bit is set. -/
theorem and_bit_ne_zero (byte : UInt8) {k : Nat} (h : k < 8) :
    (byte &&& UInt8.ofNat (1 <<< k) != 0) = byte.toNat.testBit k := by
  have small : 1 <<< k < 2 ^ 8 := by
    rw [Nat.one_shiftLeft]
    exact Nat.pow_lt_pow_right (by decide) h
  -- the masked byte is a power of two, or zero
  have masked : (byte &&& UInt8.ofNat (1 <<< k)).toNat = (byte.toNat.testBit k).toNat * 2 ^ k := by
    rw [UInt8.toNat_and, UInt8.toNat_ofNat_of_lt' small, Nat.one_shiftLeft, Nat.and_two_pow]
  have positive : 2 ^ k ≠ 0 := Nat.ne_of_gt (Nat.two_pow_pos k)
  rw [bne, Bool.eq_iff_iff, Bool.not_eq_true', beq_eq_false_iff_ne, ne_eq, ← UInt8.toNat_inj, masked]
  cases byte.toNat.testBit k with
  | false => simp
  | true => simp

/-- Bit 7 of the first byte says whether a page can be saved. -/
theorem isSavable_eq_bit (page : Bytes) : isSavable page = page.bit 0 := by
  cases page with
  | nil => rfl
  | cons byte rest =>
    rw [Bytes.bit_cons, if_pos (by decide)]
    exact and_bit_ne_zero byte (show 7 < 8 by decide)

/-- Bit 6 of the first byte says which header a page has. -/
theorem hasSubpageFormat_eq_bit (page : Bytes) : hasSubpageFormat page = page.bit 1 := by
  cases page with
  | nil => rfl
  | cons byte rest =>
    rw [Bytes.bit_cons, if_pos (by decide)]
    exact and_bit_ne_zero byte (show 6 < 8 by decide)

/-! ## A page that is the rest of a response -/

@[simp] theorem hasSubpageFormat_drop :
    hasSubpageFormat (bytes.drop offset) = subpageFormatAt bytes offset := by
  rw [hasSubpageFormat_eq_bit, Bytes.bit_drop, subpageFormatAt]

theorem subpageCode_drop : subpageCode (bytes.drop offset) = subpageAt bytes offset := by
  rw [subpageCode, hasSubpageFormat_drop, Bytes.getD_drop, subpageAt]

theorem code?_drop (h : offset < bytes.length) :
    code? (bytes.drop offset) = some (codeAt bytes offset) := by
  rw [code?, List.drop_eq_getElem_cons h, List.head?_cons, codeAt, List.getD_eq_getElem _ _ h]
  rfl

/-- The length field is there when the header is, of `headerLengthAt` bytes. -/
theorem reportedLength?_drop :
    reportedLength? (bytes.drop offset) =
      if offset + headerLengthAt bytes offset ≤ bytes.length then some (lengthAt bytes offset)
      else none := by
  unfold reportedLength? headerLengthAt lengthAt
  rw [hasSubpageFormat_drop, List.length_drop]
  cases subpageFormatAt bytes offset with
  | true =>
    -- a field of two bytes, which ends the header
    simp only [if_true]
    by_cases fits : offset + 4 ≤ bytes.length
    · have field : 2 + 1 < (bytes.drop offset).length := by
        rw [List.length_drop]
        omega
      rw [if_pos (by omega), if_pos fits, Bytes.toNat_window_two field, Bytes.wordAt, Bytes.wordAt,
        Bytes.byteAt, Bytes.byteAt, Bytes.getD_drop, Bytes.getD_drop]
      rfl
    · rw [if_neg (by omega), if_neg fits]
  | false =>
    -- a field of one byte, which ends the header
    simp only [Bool.false_eq_true, if_false, List.getElem?_drop]
    by_cases fits : offset + 2 ≤ bytes.length
    · have field : offset + 1 < bytes.length := by omega
      rw [if_pos fits, List.getElem?_eq_getElem field, Bytes.byteAt, List.getD_eq_getElem _ _ field]
      rfl
    · rw [if_neg fits, List.getElem?_eq_none (by omega)]
      rfl

/-- A page is at least as long as its header: `lengthAt` counts it. -/
theorem headerLengthAt_le_lengthAt : headerLengthAt bytes offset ≤ lengthAt bytes offset := by
  unfold headerLengthAt lengthAt
  split <;> omega

/-! ## Pages with the same header -/

/-- Two pages have the same header, but perhaps for the savable bit. -/
def SameHeader (bytes : Bytes) (offset : Nat) (bytes' : Bytes) (offset' : Nat) : Prop :=
  ∀ k, 0 < k → k < 8 * headerLengthAt bytes offset →
    bytes'.bit (8 * offset' + k) = bytes.bit (8 * offset + k)

section

variable {bytes' : Bytes} {offset' : Nat} (h : SameHeader bytes offset bytes' offset')
include h

theorem SameHeader.subpageFormatAt_eq :
    subpageFormatAt bytes' offset' = subpageFormatAt bytes offset := by
  refine h 1 (by decide) ?_
  unfold headerLengthAt
  split <;> omega

theorem SameHeader.headerLengthAt_eq : headerLengthAt bytes' offset' = headerLengthAt bytes offset := by
  rw [headerLengthAt, h.subpageFormatAt_eq, headerLengthAt]

/-- The page code has no part in the savable bit, so that `SameHeader` keeps it. -/
theorem SameHeader.codeAt_eq : codeAt bytes' offset' = codeAt bytes offset := by
  have mask : ∀ j < 8, Nat.testBit 0x3F j = decide (j < 6) := by decide
  have two : 2 ≤ headerLengthAt bytes offset := by
    unfold headerLengthAt
    split <;> omega
  rw [← UInt8.toNat_inj]
  apply Nat.eq_of_testBit_eq
  intro j
  rw [codeAt, codeAt, UInt8.toNat_and, UInt8.toNat_and, Nat.testBit_and, Nat.testBit_and]
  -- bit 7 of the byte, the savable one, is not in the mask of the code
  by_cases inByte : j < 8
  · rw [show (0x3F : UInt8).toNat = 0x3F from rfl, mask j inByte]
    by_cases small : j < 6
    · rw [Bytes.testBit_getD _ _ inByte, Bytes.testBit_getD _ _ inByte,
        h (7 - j) (by omega) (by omega)]
    · simp [small]
  · have none : (0x3F : UInt8).toNat.testBit j = false :=
      Bytes.testBit_toNat_eq_false _ (Nat.not_lt.1 inByte)
    rw [none, Bool.and_false, Bool.and_false]

/-- Every byte of the header but the first is the same. -/
theorem SameHeader.getD_eq {n : Nat} (positive : 0 < n) (inHeader : n < headerLengthAt bytes offset) :
    bytes'.getD (offset' + n) 0 = bytes.getD (offset + n) 0 := by
  apply Bytes.getD_congr
  intro k small
  -- bit `k` of byte `n` is bit `8 * n + k` of the header, which is never the savable one
  have bit := h (8 * n + k) (by omega) (by omega)
  rw [show 8 * (offset' + n) + k = 8 * offset' + (8 * n + k) by omega,
    show 8 * (offset + n) + k = 8 * offset + (8 * n + k) by omega]
  exact bit

theorem SameHeader.subpageAt_eq : subpageAt bytes' offset' = subpageAt bytes offset := by
  rw [subpageAt, subpageAt, h.subpageFormatAt_eq]
  cases format : subpageFormatAt bytes offset with
  | false => rfl
  | true =>
    have four : headerLengthAt bytes offset = 4 := by rw [headerLengthAt, format, if_pos rfl]
    rw [if_pos rfl, if_pos rfl, h.getD_eq (by decide) (by omega)]

theorem SameHeader.lengthAt_eq : lengthAt bytes' offset' = lengthAt bytes offset := by
  rw [lengthAt, lengthAt, h.subpageFormatAt_eq]
  cases format : subpageFormatAt bytes offset with
  | false =>
    -- the length is the second byte
    have two : headerLengthAt bytes offset = 2 := by rw [headerLengthAt, format]; rfl
    have field : bytes'.byteAt (offset' + 1) = bytes.byteAt (offset + 1) :=
      congrArg UInt8.toNat (h.getD_eq (by decide) (by omega))
    simp only [field, Bool.false_eq_true, if_false]
  | true =>
    -- the length is the third and the fourth byte
    have four : headerLengthAt bytes offset = 4 := by rw [headerLengthAt, format, if_pos rfl]
    have high : bytes'.byteAt (offset' + 2) = bytes.byteAt (offset + 2) :=
      congrArg UInt8.toNat (h.getD_eq (by decide) (by omega))
    have low : bytes'.byteAt (offset' + 3) = bytes.byteAt (offset + 3) :=
      congrArg UInt8.toNat (h.getD_eq (by decide) (by omega))
    simp only [Bytes.wordAt, high, low, if_true]

end

/-- A page behind other bytes has the header that it has alone. -/
theorem sameHeader_append (front page : Bytes) : SameHeader page 0 (front ++ page) front.length := by
  intro k _ _
  rw [Bytes.bit_append, if_neg (by omega),
    show 8 * front.length + k - 8 * front.length = 8 * 0 + k by omega]

/-- A page header takes a byte at least. -/
theorem headerLengthAt_pos : 0 < headerLengthAt bytes offset := by
  unfold headerLengthAt
  split <;> omega

end Page

end ModeParameters
