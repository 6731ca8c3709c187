import Mathlib.Data.List.GetD
import Mathlib.Data.List.Induction
import ModeParameters.Bytes

/-! # Bits of byte strings

Every operation on byte strings is read through `Bytes.bit`, which counts from the most significant
bit of byte 0. Appending, cutting and overwriting move whole bytes, so each of them is a case split on
the bit position; the two number codecs turn a bit of the string into a bit of the number, counted
from the other end. -/

namespace ModeParameters.Bytes

/-- A byte has no bit above bit 7: `byte.toNat.testBit j` is false from 8 on. -/
theorem testBit_toNat_eq_false (byte : UInt8) {j : Nat} (h : 8 ≤ j) :
    byte.toNat.testBit j = false := by
  have bound : byte.toNat < 2 ^ j :=
    Nat.lt_of_lt_of_le byte.toNat_lt (Nat.pow_le_pow_right (by decide) h)
  exact Nat.testBit_lt_two_pow bound

/-! ## Strings put together and cut -/

/-- The bits of a concatenation `left ++ right` are those of the left string, then those of the
right one. -/
theorem bit_append (left right : Bytes) (i : Nat) :
    (left ++ right).bit i =
      if i < 8 * left.length then left.bit i else right.bit (i - 8 * left.length) := by
  unfold bit
  by_cases h : i < 8 * left.length
  · have inLeft : i / 8 < left.length := by omega
    rw [if_pos h, List.getD_append left right 0 _ inLeft]
  · have inRight : left.length ≤ i / 8 := by omega
    rw [if_neg h, List.getD_append_right left right 0 _ inRight,
      show (i - 8 * left.length) / 8 = i / 8 - left.length by omega,
      show (i - 8 * left.length) % 8 = i % 8 by omega]

/-- The first eight bits of a string are those of its first byte. -/
theorem bit_cons (byte : UInt8) (rest : Bytes) (i : Nat) :
    Bytes.bit (byte :: rest) i =
      if i < 8 then byte.toNat.testBit (7 - i) else rest.bit (i - 8) := by
  have split := bit_append [byte] rest i
  simp only [List.singleton_append, List.length_singleton, Nat.mul_one] at split
  rw [split]
  by_cases h : i < 8
  · rw [if_pos h, if_pos h]
    simp [bit, Nat.div_eq_of_lt h, Nat.mod_eq_of_lt h]
  · rw [if_neg h, if_neg h]

/-- Dropping bytes shifts the bits by eight for each: bit `i` is bit `8 * count + i` of the
whole. -/
theorem bit_drop (bytes : Bytes) (count i : Nat) :
    Bytes.bit (bytes.drop count) i = bytes.bit (8 * count + i) := by
  unfold bit
  rw [List.getD_eq_getElem?_getD, List.getD_eq_getElem?_getD, List.getElem?_drop,
    show (8 * count + i) / 8 = count + i / 8 by omega,
    show (8 * count + i) % 8 = i % 8 by omega]

/-- A prefix `bytes.take count` has the bits of the string, and none behind its end. -/
theorem bit_take (bytes : Bytes) (count i : Nat) :
    Bytes.bit (bytes.take count) i = (decide (i < 8 * count) && bytes.bit i) := by
  unfold bit
  rw [List.getD_eq_getElem?_getD, List.getD_eq_getElem?_getD, List.getElem?_take]
  by_cases h : i < 8 * count
  · rw [if_pos (by omega)]
    simp [h]
  · rw [if_neg (by omega)]
    simp [h]

/-- A `window` has the bits of the string from its start on. -/
theorem bit_window (bytes : Bytes) (start count i : Nat) :
    (window bytes start count).bit i =
      (decide (i < 8 * count) && bytes.bit (8 * start + i)) := by
  rw [window, bit_take, bit_drop]

/-- Overwriting by `overwrite` changes the bits of the bytes that are replaced, and no others. -/
theorem bit_overwrite {bytes : Bytes} {start : Nat} {new : Bytes}
    (h : start + new.length ≤ bytes.length) (i : Nat) :
    (overwrite bytes start new).bit i =
      if 8 * start ≤ i ∧ i < 8 * (start + new.length) then new.bit (i - 8 * start)
      else bytes.bit i := by
  have front : (bytes.take start).length = start := by
    rw [List.length_take]
    omega
  have both : (bytes.take start ++ new).length = start + new.length := by
    rw [List.length_append, front]
  -- three parts stand one behind the other: what was before, what is new, what was behind
  rw [overwrite, bit_append, both, bit_append, front, bit_drop, bit_take]
  by_cases before : i < 8 * start
  · rw [if_pos (by omega), if_pos before, if_neg (by omega)]
    simp [before]
  · by_cases inside : i < 8 * (start + new.length)
    · rw [if_pos inside, if_neg before, if_pos (by omega)]
    · rw [if_neg inside, if_neg (by omega),
        show 8 * (start + new.length) + (i - 8 * (start + new.length)) = i by omega]

/-- Overwriting from a byte on is setting the byte and overwriting from the next one on. -/
theorem overwrite_set {bytes : Bytes} {start : Nat} {byte : UInt8} {rest : Bytes}
    (h : start < bytes.length) :
    overwrite (bytes.set start byte) (start + 1) rest = overwrite bytes start (byte :: rest) := by
  have front : (bytes.set start byte).take (start + 1) = bytes.take start ++ [byte] := by
    rw [List.take_succ_eq_append_getElem (by simpa using h), List.take_set_of_le (Nat.le_refl _),
      List.getElem_set_self]
  have back : (bytes.set start byte).drop (start + 1 + rest.length) =
      bytes.drop (start + (byte :: rest).length) := by
    rw [List.drop_set_of_lt (by omega), List.length_cons]
    congr 1
    omega
  simp only [overwrite, front, back, List.append_assoc, List.singleton_append]

/-! ## Numbers -/

/-- The number in a byte string, `toNat bytes`, has the bits of the string, the last one least
significant. -/
theorem testBit_toNat (bytes : Bytes) (j : Nat) :
    (toNat bytes).testBit j =
      (decide (j < 8 * bytes.length) && bytes.bit (8 * bytes.length - 1 - j)) := by
  -- the number grows by the last byte, so the induction takes bytes off the end
  induction bytes using List.reverseRecOn generalizing j with
  | nil => simp
  | append_singleton front byte ih =>
    have low : byte.toNat < 2 ^ 8 := byte.toNat_lt
    rw [toNat_concat, show toNat front * 256 = 2 ^ 8 * toNat front by omega,
      Nat.testBit_two_pow_mul_add _ low, bit_append, List.length_append, List.length_singleton]
    by_cases h : j < 8
    · -- a bit of the last byte
      rw [if_pos h, if_neg (by omega),
        show 8 * (front.length + 1) - 1 - j - 8 * front.length = 7 - j by omega, bit_cons,
        if_pos (by omega), show 7 - (7 - j) = j by omega]
      simp [show j < 8 * (front.length + 1) by omega]
    · -- a bit of the bytes in front, or none
      rw [if_neg h, ih]
      by_cases inside : j < 8 * (front.length + 1)
      · rw [if_pos (by omega),
          show 8 * front.length - 1 - (j - 8) = 8 * (front.length + 1) - 1 - j by omega]
        simp [inside, show j - 8 < 8 * front.length by omega]
      · simp [inside, show ¬ j - 8 < 8 * front.length by omega]

/-- A number written to bytes by `ofNat count` leaves its low bits there, the least significant one
last. -/
theorem bit_ofNat (count n : Nat) {i : Nat} (h : i < 8 * count) :
    (ofNat count n).bit i = n.testBit (8 * count - 1 - i) := by
  -- the first byte takes the highest eight bits, and the rest is written by the same rule
  induction count generalizing i with
  | zero => omega
  | succ count ih =>
    rw [ofNat, bit_cons]
    by_cases first : i < 8
    · rw [if_pos first, UInt8.toNat_ofNat', Nat.testBit_mod_two_pow, Nat.testBit_shiftRight,
        show 8 * count + (7 - i) = 8 * (count + 1) - 1 - i by omega]
      simp [show 7 - i < 8 by omega]
    · rw [if_neg first, ih (by omega),
        show 8 * count - 1 - (i - 8) = 8 * (count + 1) - 1 - i by omega]

/-! ## Strings by their bits -/

/-- Byte strings of one length with the same bits (`bit`) are the same. -/
theorem ext_bit {bytes bytes' : Bytes} (length : bytes'.length = bytes.length)
    (same : ∀ i < 8 * bytes.length, bytes'.bit i = bytes.bit i) : bytes' = bytes := by
  refine List.ext_getElem length fun k inside' inside => ?_
  rw [← UInt8.toNat_inj]
  apply Nat.eq_of_testBit_eq
  intro j
  by_cases low : j < 8
  · -- bit `j` of byte `k`, counted from the other end
    have place := same (8 * k + (7 - j)) (by omega)
    simp only [bit, show (8 * k + (7 - j)) / 8 = k by omega,
      show 7 - (8 * k + (7 - j)) % 8 = j by omega] at place
    rwa [List.getD_eq_getElem _ _ inside', List.getD_eq_getElem _ _ inside] at place
  · rw [testBit_toNat_eq_false _ (by omega), testBit_toNat_eq_false _ (by omega)]

end ModeParameters.Bytes
