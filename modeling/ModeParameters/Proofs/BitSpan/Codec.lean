import ModeParameters.BitSpan
import ModeParameters.Proofs.Bytes.Bits

/-! # Reading and writing bit spans, bit by bit

A span covers `width` consecutive bits of a byte string. Reading gives the number with just these bits
and writing changes just these bits, so that a read sees the last write to its bits and nothing else.
Both succeed exactly when the coordinates are usable and every touched byte is there. -/

namespace ModeParameters.BitSpan

/-- The position of the most significant bit of a span, counted from bit 7 of byte 0. -/
def firstBit (span : BitSpan) : Nat := 8 * span.startByte + (7 - span.startBit)

/-- A span covers bit `i` of the byte string: one of the `width` bits from `firstBit` on. -/
def Covers (span : BitSpan) (i : Nat) : Prop := span.firstBit ≤ i ∧ i < span.firstBit + span.width

instance (span : BitSpan) (i : Nat) : Decidable (span.Covers i) :=
  inferInstanceAs (Decidable (_ ∧ _))

instance (span : BitSpan) : Decidable span.WellFormed :=
  decidable_of_iff (0 < span.width ∧ span.width ≤ 64 ∧ span.startBit ≤ 7)
    ⟨fun ⟨pos, width, bit⟩ => ⟨pos, width, bit⟩, fun h => ⟨h.width_pos, h.width_le, h.startBit_le⟩⟩

/-- The bit of a written number that goes to position `i` of the byte string, of which `firstBit`
takes the most significant one. -/
def valueBit (span : BitSpan) (value i : Nat) : Bool :=
  value.testBit (span.width - 1 - (i - span.firstBit))

/-- A span is usable and lies within `length` bytes. -/
structure Within (span : BitSpan) (length : Nat) : Prop where
  /-- The coordinates are those of a field. -/
  wellFormed : span.WellFormed
  /-- The last of the `touched` bytes is there. -/
  end_le : span.startByte + span.touched ≤ length

theorem fit_eq_ok_of_within {span : BitSpan} {length : Nat} (h : span.Within length) :
    span.fit length = .ok span.touched :=
  fit_eq_ok_iff.2 ⟨h.wellFormed, rfl, h.end_le⟩

theorem within_of_fit {span : BitSpan} {length count : Nat} (h : span.fit length = .ok count) :
    span.Within length ∧ count = span.touched := by
  obtain ⟨wellFormed, rfl, bound⟩ := fit_eq_ok_iff.1 h
  exact ⟨⟨wellFormed, bound⟩, rfl⟩

/-- Whether coordinates are `WellFormed` does not depend on the start byte. -/
theorem wellFormed_startByte_iff {span : BitSpan} {start : Nat} :
    WellFormed { span with startByte := start } ↔ span.WellFormed :=
  ⟨fun h => ⟨h.width_pos, h.width_le, h.startBit_le⟩,
    fun h => ⟨h.width_pos, h.width_le, h.startBit_le⟩⟩

/-- The `byteCount` of a usable span is that of the bytes it touches. -/
theorem byteCount_of_wellFormed {span : BitSpan} (h : span.WellFormed) :
    span.byteCount = span.touched := by
  rw [byteCount, check_eq_ok_iff.2 ⟨h, rfl⟩]

/-- The touched bytes hold the bits above the span, the span and the `shift` bits below it. -/
theorem shift_add_eq (span : BitSpan) :
    span.shift + (7 - span.startBit + span.width) = 8 * span.touched := by
  unfold shift touched
  omega

/-- A covered bit lies in a touched byte. -/
theorem Covers.bounds {span : BitSpan} {i : Nat} (h : span.Covers i) :
    8 * span.startByte ≤ i ∧ i < 8 * (span.startByte + span.touched) := by
  have split := span.shift_add_eq
  unfold Covers firstBit at h
  omega

/-! ## Reading -/

/-- What a read of a usable span comes to: its window, shifted by `shift` and cut to `width`. -/
theorem read_of_within {span : BitSpan} {bytes : Bytes} (h : span.Within bytes.length) :
    span.read bytes = .ok
      ((Bytes.toNat (Bytes.window bytes span.startByte span.touched) >>> span.shift)
        % (1 <<< span.width)) := by
  simp only [read, fit_eq_ok_of_within h, bind, Except.bind, pure, Except.pure]

/-- A read that succeeds is of a span `Within` the bytes. -/
theorem within_of_read {span : BitSpan} {bytes : Bytes} {value : Nat}
    (h : span.read bytes = .ok value) : span.Within bytes.length := by
  cases fit : span.fit bytes.length with
  | error e => simp [read, fit, bind, Except.bind] at h
  | ok count => exact (within_of_fit fit).1

/-- **A read gives the covered bits**, from `firstBit` on, the last one least significant, and no
others. -/
theorem testBit_of_read {span : BitSpan} {bytes : Bytes} {value : Nat}
    (h : span.read bytes = .ok value) (j : Nat) :
    value.testBit j =
      (decide (j < span.width) && bytes.bit (span.firstBit + (span.width - 1 - j))) := by
  have within := within_of_read h
  have split := span.shift_add_eq
  have start : span.startBit ≤ 7 := within.wellFormed.startBit_le
  rw [read_of_within within] at h
  cases h
  rw [Nat.one_shiftLeft, Nat.testBit_mod_two_pow, Nat.testBit_shiftRight, Bytes.testBit_toNat,
    Bytes.length_window within.end_le, Bytes.bit_window]
  by_cases inside : j < span.width
  · -- bit `j` of the number, counted from the end of the touched bytes
    have place : 8 * span.startByte + (8 * span.touched - 1 - (span.shift + j)) =
        span.firstBit + (span.width - 1 - j) := by
      unfold firstBit
      omega
    rw [place]
    simp [inside, show span.shift + j < 8 * span.touched by omega,
      show 8 * span.touched - 1 - (span.shift + j) < 8 * span.touched by omega]
  · simp [inside]

/-- Two reads that see the same bits give the same number, wherever the `firstBit` of each is. -/
theorem read_congr {span span' : BitSpan} {bytes bytes' : Bytes} {value value' : Nat}
    (h : span.read bytes = .ok value) (h' : span'.read bytes' = .ok value')
    (width : span'.width = span.width)
    (same : ∀ k < span.width, bytes'.bit (span'.firstBit + k) = bytes.bit (span.firstBit + k)) :
    value' = value := by
  apply Nat.eq_of_testBit_eq
  intro j
  rw [testBit_of_read h, testBit_of_read h', width]
  by_cases inside : j < span.width
  · rw [same (span.width - 1 - j) (by omega)]
  · simp [inside]

/-! ## Writing -/

/-- The bits of the touched bytes that belong to the span are the `width` ones above `shift`. -/
theorem testBit_fieldMask (span : BitSpan) (j : Nat) :
    (((1 <<< span.width) - 1) <<< span.shift).testBit j =
      (decide (span.shift ≤ j) && decide (j < span.shift + span.width)) := by
  rw [Nat.one_shiftLeft, Nat.testBit_shiftLeft, Nat.testBit_two_pow_sub_one]
  by_cases above : span.shift ≤ j
  · simp [above, show j - span.shift < span.width ↔ j < span.shift + span.width by omega]
  · simp [above]

/-- What a write to a usable span comes to: its window is overwritten by a `blend` with the shifted
number. -/
theorem write_of_within {span : BitSpan} {bytes : Bytes} (h : span.Within bytes.length)
    (value : Nat) :
    span.write value bytes = .ok (Bytes.overwrite bytes span.startByte
      (Bytes.ofNat span.touched
        (blend (((1 <<< span.width) - 1) <<< span.shift)
          (Bytes.toNat (Bytes.window bytes span.startByte span.touched))
          (value <<< span.shift)))) := by
  simp only [write, fit_eq_ok_of_within h, bind, Except.bind, pure, Except.pure]

/-- A write that succeeds is to a span `Within` the bytes. -/
theorem within_of_write {span : BitSpan} {bytes bytes' : Bytes} {value : Nat}
    (h : span.write value bytes = .ok bytes') : span.Within bytes.length := by
  cases fit : span.fit bytes.length with
  | error e => simp [write, fit, bind, Except.bind] at h
  | ok count => exact (within_of_fit fit).1

/-- **A write changes the covered bits alone**, and makes them the low bits of the number
(`valueBit`). -/
theorem bit_of_write {span : BitSpan} {bytes bytes' : Bytes} {value : Nat}
    (h : span.write value bytes = .ok bytes') (i : Nat) :
    bytes'.bit i = if span.Covers i then span.valueBit value i else bytes.bit i := by
  have within := within_of_write h
  have bound := within.end_le
  have split := span.shift_add_eq
  have start : span.startBit ≤ 7 := within.wellFormed.startBit_le
  rw [write_of_within within] at h
  cases h
  rw [Bytes.bit_overwrite (by rw [Bytes.length_ofNat]; exact bound), Bytes.length_ofNat]
  -- the touched bytes are written back as a whole, the bits outside of the mask as they were
  by_cases touched : 8 * span.startByte ≤ i ∧ i < 8 * (span.startByte + span.touched)
  · rw [if_pos touched, Bytes.bit_ofNat _ _ (by omega), testBit_blend, testBit_fieldMask]
    by_cases covered : span.Covers i
    · -- the mask keeps the bit of the number
      have inMask : span.shift ≤ 8 * span.touched - 1 - (i - 8 * span.startByte) ∧
          8 * span.touched - 1 - (i - 8 * span.startByte) < span.shift + span.width := by
        unfold Covers firstBit at covered
        omega
      have place : 8 * span.touched - 1 - (i - 8 * span.startByte) - span.shift =
          span.width - 1 - (i - span.firstBit) := by
        unfold Covers at covered
        unfold firstBit at *
        omega
      rw [if_pos covered, if_pos (by simpa using inMask), Nat.testBit_shiftLeft, place]
      simp [inMask.1, valueBit]
    · -- the mask keeps the bit that was there
      have outMask : ¬ (span.shift ≤ 8 * span.touched - 1 - (i - 8 * span.startByte) ∧
          8 * span.touched - 1 - (i - 8 * span.startByte) < span.shift + span.width) := by
        unfold Covers firstBit at covered
        omega
      rw [if_neg covered, if_neg (by simpa using outMask), Bytes.testBit_toNat,
        Bytes.length_window bound, Bytes.bit_window,
        show 8 * span.startByte + (8 * span.touched - 1 -
          (8 * span.touched - 1 - (i - 8 * span.startByte))) = i by omega]
      simp [show 8 * span.touched - 1 - (i - 8 * span.startByte) < 8 * span.touched by omega,
        show 8 * span.touched - 1 - (8 * span.touched - 1 - (i - 8 * span.startByte)) <
          8 * span.touched by omega]
  · rw [if_neg touched, if_neg fun covered => touched covered.bounds]

/-- Where the covered bits are those of a number (`valueBit`), that number is read, cut to the width
of the span. -/
theorem read_of_bits {span : BitSpan} {bytes : Bytes} {value : Nat} (within : span.Within bytes.length)
    (bits : ∀ i, span.Covers i → bytes.bit i = span.valueBit value i) :
    span.read bytes = .ok (value % (1 <<< span.width)) := by
  have done := read_of_within within
  rw [done]
  congr 1
  apply Nat.eq_of_testBit_eq
  intro j
  rw [testBit_of_read done, Nat.one_shiftLeft, Nat.testBit_mod_two_pow]
  by_cases inside : j < span.width
  · rw [bits _ (by unfold Covers; omega), valueBit,
      show span.width - 1 - (span.firstBit + (span.width - 1 - j) - span.firstBit) = j by omega]
  · simp [inside]

/-- A read depends on the bits that the span `Covers` and on the number of bytes alone. -/
theorem read_eq_of_bits {span : BitSpan} {bytes bytes' : Bytes} {value : Nat}
    (length : bytes'.length = bytes.length)
    (same : ∀ i, span.Covers i → bytes'.bit i = bytes.bit i) (h : span.read bytes = .ok value) :
    span.read bytes' = .ok value := by
  -- the read succeeds on as many bytes, and `read_congr` compares what it gives
  have within : span.Within bytes'.length := length ▸ within_of_read h
  have done := read_of_within within
  rw [done]
  congr 1
  refine read_congr h done rfl fun k inside => same _ ?_
  unfold Covers
  omega

/-- What is read from a prefix, `bytes.take count`, is read from the whole. -/
theorem read_of_take {span : BitSpan} {bytes : Bytes} {count value : Nat}
    (h : span.read (bytes.take count) = .ok value) : span.read bytes = .ok value := by
  have part := within_of_read h
  have length : (bytes.take count).length ≤ bytes.length := List.length_take_le' count bytes
  have within : span.Within bytes.length := ⟨part.wellFormed, Nat.le_trans part.end_le length⟩
  have done := read_of_within within
  rw [done]
  congr 1
  refine read_congr h done rfl fun k inside => ?_
  -- a covered bit lies in the prefix
  have covered : span.Covers (span.firstBit + k) := ⟨by omega, by omega⟩
  have last := covered.bounds.2
  have ends := part.end_le
  rw [List.length_take] at ends
  rw [Bytes.bit_take, decide_eq_true (by omega), Bool.true_and]

end ModeParameters.BitSpan
