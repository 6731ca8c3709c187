/-! # Byte strings

Responses and pages are byte strings. A number in them is written big-endian, and their bits are
counted from the most significant bit of byte 0 on, which is the view in which fields are
described. -/

namespace ModeParameters

/-- A byte string; byte 0 comes first. -/
abbrev Bytes := List UInt8

namespace Bytes

/-! ## Big-endian numbers -/

/-- The number that a byte string writes big-endian. -/
def toNat (bytes : Bytes) : Nat := bytes.foldl (fun n byte => n * 256 + byte.toNat) 0

/-- The low `8 * count` bits of a number, as `count` big-endian bytes. -/
def ofNat : Nat → Nat → Bytes
  | 0, _ => []
  | count + 1, n => UInt8.ofNat (n >>> (8 * count)) :: ofNat count n

@[simp] theorem toNat_nil : toNat [] = 0 := rfl

@[simp] theorem toNat_singleton (byte : UInt8) : toNat [byte] = byte.toNat := by simp [toNat]

theorem toNat_concat (bytes : Bytes) (byte : UInt8) :
    toNat (bytes ++ [byte]) = toNat bytes * 256 + byte.toNat := by
  simp [toNat]

@[simp] theorem length_ofNat (count n : Nat) : (ofNat count n).length = count := by
  induction count with
  | zero => rfl
  | succ count ih => simp [ofNat, ih]

/-! ## Windows -/

/-- The bytes from `start` on, at most `count` of them. -/
def window (bytes : Bytes) (start count : Nat) : Bytes := (bytes.drop start).take count

/-- A byte string with the bytes from `start` on replaced by others, as many as those are. -/
def overwrite (bytes : Bytes) (start : Nat) (new : Bytes) : Bytes :=
  bytes.take start ++ new ++ bytes.drop (start + new.length)

theorem length_window {bytes : Bytes} {start count : Nat} (h : start + count ≤ bytes.length) :
    (window bytes start count).length = count := by
  simp [window]
  omega

/-- A `window` of a window is a window of the whole, from `start + start'` on. -/
theorem window_window {bytes : Bytes} {start count start' count' : Nat}
    (h : start' + count' ≤ count) :
    window (window bytes start count) start' count' = window bytes (start + start') count' := by
  simp only [window, List.drop_take, List.take_take, List.drop_drop]
  congr 1
  omega

theorem length_overwrite {bytes : Bytes} {start : Nat} {new : Bytes}
    (h : start + new.length ≤ bytes.length) :
    (overwrite bytes start new).length = bytes.length := by
  simp [overwrite]
  omega

/-! ## Bits -/

/-- Bit `i`, counted from the most significant bit of byte 0; false beyond the end. -/
def bit (bytes : Bytes) (i : Nat) : Bool :=
  (bytes.getD (i / 8) 0).toNat.testBit (7 - i % 8)

theorem bit_eq_false_of_le {bytes : Bytes} {i : Nat} (h : 8 * bytes.length ≤ i) :
    bytes.bit i = false := by
  have : bytes.length ≤ i / 8 := by omega
  simp [bit, List.getD_eq_getElem?_getD, List.getElem?_eq_none this]

end Bytes

end ModeParameters
