import ModeParameters.Proofs.BitSpan.Codec

/-! # Reading and writing bit spans, exactly

A span is usable in a byte string when its coordinates are those of a field and its last bit is there;
otherwise the first of the three conditions that fails is the error. The number that is read from a
usable span is the one with the covered bits, and the byte string that is left by a write is the one
that differs in them alone. A write in place, byte after byte, comes to the same, and one that fails has
not begun. -/

namespace ModeParameters.BitSpan

variable {span : BitSpan} {bytes after : Bytes} {value length : Nat} {e : BitSpanError}

/-! ## Usable spans -/

/-- A span lies `Within` a byte string when it is well formed and its last bit is there. -/
theorem within_iff :
    span.Within length ↔ span.WellFormed ∧ span.firstBit + span.width ≤ 8 * length := by
  have ends_iff (usable : span.WellFormed) :
      span.startByte + span.touched ≤ length ↔ span.firstBit + span.width ≤ 8 * length := by
    have start := usable.startBit_le
    unfold firstBit touched
    omega
  constructor
  · intro within
    exact ⟨within.wellFormed, (ends_iff within.wellFormed).1 within.end_le⟩
  · rintro ⟨usable, ends⟩
    exact ⟨usable, (ends_iff usable).2 ends⟩

/-- Why `fit` refuses a span in a byte string of some length: the width is judged first, then the
start bit, and the end last. -/
inductive Refused (span : BitSpan) (length : Nat) : BitSpanError → Prop
  /-- No field has this width. -/
  | width (unfit : span.width = 0 ∨ 64 < span.width) :
      Refused span length (.invalidWidth span.width)
  /-- No byte has this bit. -/
  | startBit (pos : 0 < span.width) (le : span.width ≤ 64) (unfit : 7 < span.startBit) :
      Refused span length (.invalidStartBit span.startBit)
  /-- The last bit is not there. -/
  | bounds (usable : span.WellFormed) (beyond : 8 * length < span.firstBit + span.width) :
      Refused span length (.outOfBounds span.startByte span.touched length)

/-- A span is refused by `fit` for no other reason than one that is `Refused`. -/
theorem Refused.fit_eq (h : span.Refused length e) : span.fit length = .error e := by
  unfold fit
  cases h with
  | width unfit => simp [check, unfit, bind, Except.bind]
  | startBit pos le unfit =>
    simp [check, show ¬(span.width = 0 ∨ 64 < span.width) by omega, unfit, bind, Except.bind]
  | bounds usable beyond =>
    have outside : ¬ span.startByte + span.touched ≤ length := fun inside =>
      Nat.not_le.2 beyond (within_iff.1 ⟨usable, inside⟩).2
    simp [check_eq_ok_iff.2 ⟨usable, rfl⟩, outside, bind, Except.bind, throw, throwThe,
      MonadExceptOf.throw]

/-- A span that does not lie `Within` a byte string is refused. -/
theorem exists_refused (h : ¬ span.Within length) : ∃ e, span.Refused length e := by
  by_cases width : span.width = 0 ∨ 64 < span.width
  · exact ⟨_, .width width⟩
  by_cases startBit : 7 < span.startBit
  · exact ⟨_, .startBit (by omega) (by omega) startBit⟩
  have usable : span.WellFormed := ⟨by omega, by omega, by omega⟩
  exact ⟨_, .bounds usable (Nat.lt_of_not_le fun ends => h (within_iff.2 ⟨usable, ends⟩))⟩

/-- **The checks of `fit` fail** with the reason for which the span is refused. -/
theorem fit_eq_error_iff : span.fit length = .error e ↔ span.Refused length e := by
  refine ⟨fun failed => ?_, Refused.fit_eq⟩
  have outside : ¬ span.Within length := fun within => by
    rw [fit_eq_ok_of_within within] at failed
    cases failed
  obtain ⟨e', refused⟩ := exists_refused outside
  cases refused.fit_eq.symm.trans failed
  exact refused

/-! ## Reading and writing -/

/-- A read fails as `fit` does. -/
theorem read_eq_error_iff : span.read bytes = .error e ↔ span.Refused bytes.length e := by
  rw [← fit_eq_error_iff, read]
  cases span.fit bytes.length <;> simp [bind, Except.bind, pure, Except.pure]

/-- A write fails as `fit` does. -/
theorem write_eq_error_iff : span.write value bytes = .error e ↔ span.Refused bytes.length e := by
  rw [← fit_eq_error_iff, write]
  cases span.fit bytes.length <;> simp [bind, Except.bind, pure, Except.pure]

/-- The binary digits of a number that is read, the most significant one first, are the bits of the
span from `firstBit` on. -/
theorem digits_of_read {n : Nat} (h : span.read bytes = .ok n) :
    ∀ k < span.width, n.testBit (span.width - 1 - k) = bytes.bit (span.firstBit + k) := by
  intro k inside
  rw [testBit_of_read h, show span.width - 1 - (span.width - 1 - k) = k by omega]
  simp [show span.width - 1 - k < span.width by omega]

/-- A number that is read has no bits beyond the width of the span: it is less than
`1 <<< span.width`. -/
theorem lt_of_read {n : Nat} (h : span.read bytes = .ok n) : n < 1 <<< span.width := by
  rw [read_of_within (within_of_read h)] at h
  cases h
  rw [Nat.one_shiftLeft]
  exact Nat.mod_lt _ (Nat.two_pow_pos _)

/-- **A number is read** by `span.read` from a usable span exactly when its binary digits, the most
significant one first, are the bits of the span. -/
theorem read_eq_ok_iff {n : Nat} :
    span.read bytes = .ok n ↔ span.Within bytes.length ∧ n < 1 <<< span.width ∧
      ∀ k < span.width, n.testBit (span.width - 1 - k) = bytes.bit (span.firstBit + k) := by
  constructor
  · intro h
    exact ⟨within_of_read h, lt_of_read h, digits_of_read h⟩
  · rintro ⟨within, small, same⟩
    -- the number that is read has the same digits, and no others
    obtain ⟨m, done⟩ : ∃ m, span.read bytes = .ok m := ⟨_, read_of_within within⟩
    rw [done]
    congr 1
    apply Nat.eq_of_testBit_eq
    intro j
    by_cases inside : j < span.width
    · have digit := digits_of_read done (span.width - 1 - j) (by omega)
      rw [← same _ (by omega), show span.width - 1 - (span.width - 1 - j) = j by omega] at digit
      exact digit
    · rw [testBit_of_read done, decide_eq_false inside, Bool.false_and]
      rw [Nat.one_shiftLeft] at small
      have bound : n < 2 ^ j :=
        Nat.lt_of_lt_of_le small (Nat.pow_le_pow_right (by decide) (Nat.le_of_not_lt inside))
      exact (Nat.testBit_lt_two_pow bound).symm

/-- A write puts the low bits of the number into the span from `firstBit` on, the most significant
one first. -/
theorem digits_of_write (h : span.write value bytes = .ok after) :
    ∀ k < span.width, after.bit (span.firstBit + k) = value.testBit (span.width - 1 - k) := by
  intro k inside
  rw [bit_of_write h, if_pos ⟨by omega, by omega⟩, valueBit,
    show span.firstBit + k - span.firstBit = k by omega]

/-- A write leaves every bit that the span does not cover (`Covers`) as it was. -/
theorem bit_of_write_of_not_covers (h : span.write value bytes = .ok after) :
    ∀ i, ¬ span.Covers i → after.bit i = bytes.bit i := by
  intro i outside
  rw [bit_of_write h, if_neg outside]

/-- **A byte string is left by a write**, `span.write value bytes = .ok after`, exactly when it is
as long, has the low bits of the number in the span, and has all other bits as they were. -/
theorem write_eq_ok_iff :
    span.write value bytes = .ok after ↔ span.Within bytes.length ∧ after.length = bytes.length ∧
      (∀ k < span.width, after.bit (span.firstBit + k) = value.testBit (span.width - 1 - k)) ∧
      ∀ i, ¬ span.Covers i → after.bit i = bytes.bit i := by
  constructor
  · intro h
    exact ⟨within_of_write h, length_of_write h, digits_of_write h, bit_of_write_of_not_covers h⟩
  · rintro ⟨within, length, inside, outside⟩
    -- a byte string is given by its length and its bits
    have done := write_of_within within value
    rw [done]
    congr 1
    refine Bytes.ext_bit ((length_of_write done).trans length.symm) fun i _ => ?_
    by_cases covered : span.Covers i
    · obtain ⟨k, rfl⟩ := Nat.exists_eq_add_of_le covered.1
      have small : k < span.width := Nat.lt_of_add_lt_add_left covered.2
      rw [inside k small, digits_of_write done k small]
    · rw [outside i covered, bit_of_write_of_not_covers done i covered]

/-! ## Writing in place -/

/-- Stores the low bits of a number in `count` bytes of a buffer, the most significant ones first. -/
def storeBytes : Nat → Nat → Nat → StateM Bytes Unit
  | _, 0, _ => pure ()
  | start, count + 1, n => do
    modify fun buffer => buffer.set start (UInt8.ofNat (n >>> (8 * count)))
    storeBytes (start + 1) count n

/-- Writes a number to a span of a buffer in place, one touched byte after the other by
`storeBytes`. -/
def store (span : BitSpan) (value : Nat) : ExceptT BitSpanError (StateM Bytes) Unit := do
  let buffer ← get
  let count ← span.fit buffer.length
  let old := Bytes.toNat (Bytes.window buffer span.startByte count)
  let mask := ((1 <<< span.width) - 1) <<< span.shift
  storeBytes span.startByte count (blend mask old (value <<< span.shift))

/-- Bytes that `storeBytes` stores one by one overwrite those that were there. -/
theorem run_storeBytes {start count n : Nat} (h : start + count ≤ bytes.length) :
    (storeBytes start count n).run bytes =
      ((), Bytes.overwrite bytes start (Bytes.ofNat count n)) := by
  induction count generalizing start bytes with
  | zero =>
    simp only [storeBytes, Bytes.ofNat, Bytes.overwrite, List.append_nil, List.length_nil, Nat.add_zero,
      List.take_append_drop]
    rfl
  | succ count ih =>
    have step : (storeBytes start (count + 1) n).run bytes =
        (storeBytes (start + 1) count n).run
          (bytes.set start (UInt8.ofNat (n >>> (8 * count)))) := rfl
    rw [step, ih (by rw [List.length_set]; omega), Bytes.ofNat, Bytes.overwrite_set (by omega)]

/-- **A write in place**, by `store`, leaves what `write` gives, and the buffer as it was where a
write is refused. -/
theorem run_store :
    (span.store value).run.run bytes =
      ((span.write value bytes).map fun _ => (), (span.write value bytes).toOption.getD bytes) := by
  have checked : (span.store value).run.run bytes =
      (ExceptT.run (ExceptT.bind (liftM (span.fit bytes.length)) _) : StateM Bytes _).run bytes := rfl
  rw [checked, write]
  cases fit : span.fit bytes.length with
  | error e =>
    -- nothing is stored before the checks are passed
    rfl
  | ok count =>
    have bound : span.startByte + count ≤ bytes.length := (fit_eq_ok_iff.1 fit).2.2
    change (Except.ok ((storeBytes span.startByte count _).run bytes).1,
      ((storeBytes span.startByte count _).run bytes).2) = _
    rw [run_storeBytes bound]
    rfl

/-! ## The codec -/

/-- **The codec of bit spans is exact.** A number is read exactly when the span is usable, its last bit is
there and the bits of the span are the binary digits of the number, the most significant one first. A byte
string is left by a write exactly when the same holds of the span, and the byte string is as long as
before, has the low bits of the number in the span and all other bits as they were. Reads and writes
fail for the reason for which the span is refused: its width, then its start bit, then its end. A write
in place leaves what a write gives, and one that fails leaves the buffer as it was. -/
theorem codec_exact (span : BitSpan) (bytes : Bytes) (value : Nat) :
    (∀ n, span.read bytes = .ok n ↔
      span.WellFormed ∧ span.firstBit + span.width ≤ 8 * bytes.length ∧ n < 1 <<< span.width ∧
        ∀ k < span.width, n.testBit (span.width - 1 - k) = bytes.bit (span.firstBit + k)) ∧
    (∀ after, span.write value bytes = .ok after ↔
      span.WellFormed ∧ span.firstBit + span.width ≤ 8 * bytes.length ∧
        after.length = bytes.length ∧
        (∀ k < span.width,
          after.bit (span.firstBit + k) = value.testBit (span.width - 1 - k)) ∧
        ∀ i, ¬ span.Covers i → after.bit i = bytes.bit i) ∧
    (∀ e, span.read bytes = .error e ↔ span.Refused bytes.length e) ∧
    (∀ e, span.write value bytes = .error e ↔ span.Refused bytes.length e) ∧
    (span.store value).run.run bytes =
      ((span.write value bytes).map fun _ => (), (span.write value bytes).toOption.getD bytes) := by
  refine ⟨fun n => ?_, fun after => ?_, fun e => read_eq_error_iff, fun e => write_eq_error_iff,
    run_store⟩
  · rw [read_eq_ok_iff, within_iff, and_assoc]
  · rw [write_eq_ok_iff, within_iff, and_assoc]

end ModeParameters.BitSpan
