import ModeParameters.Page.Image
import ModeParameters.Proofs.BitSpan.Codec
import ModeParameters.Proofs.Page.Header

/-! # Edits of a page image, bit by bit

An edit keeps the place of the page and the length of the response, so its bits can be counted from
the start of the response throughout. A field write changes the bits that the field covers, and making
an image ready for a MODE SELECT clears the length of the mode data and the savable bit. -/

namespace ModeParameters

namespace ModeHeader

/-- Clearing the length of the mode data clears its bits, those below `8 * lengthFieldWidth`, and no
others. -/
theorem bit_clearLength (size : CommandSize) (bytes : Bytes) (i : Nat) :
    Bytes.bit (clearLength size bytes) i =
      if i < 8 * size.lengthFieldWidth then false else bytes.bit i := by
  have zeros : ∀ count k : Nat, Bytes.bit (List.replicate count 0) k = false := by
    intro count k
    simp [Bytes.bit, List.getElem?_replicate]
    split <;> simp
  rw [clearLength, Bytes.bit_append, zeros, Bytes.bit_drop, List.length_replicate]
  by_cases field : i < 8 * size.lengthFieldWidth
  · rw [if_pos field]
    split
    · rfl
    · -- the response ends within the field
      exact Bytes.bit_eq_false_of_le (by omega)
  · rw [if_neg field, if_neg (by omega)]
    by_cases long : size.lengthFieldWidth ≤ bytes.length
    · rw [Nat.min_eq_left long, show 8 * size.lengthFieldWidth + (i - 8 * size.lengthFieldWidth) = i
        by omega]
    · -- neither string has a bit there
      rw [Bytes.bit_eq_false_of_le (by omega), Bytes.bit_eq_false_of_le (by omega)]

end ModeHeader

namespace Page

/-- Changing the first byte of a string by `f` changes its bits as `f` does, and no other bits. -/
theorem bit_modifyHead (f : UInt8 → UInt8) (bytes : Bytes) (i : Nat) :
    Bytes.bit (bytes.modifyHead f) i =
      if i < 8 ∧ bytes ≠ [] then (f (bytes.getD 0 0)).toNat.testBit (7 - i) else bytes.bit i := by
  cases bytes with
  | nil => simp
  | cons byte rest =>
    rw [List.modifyHead_cons, Bytes.bit_cons, Bytes.bit_cons]
    by_cases first : i < 8
    · simp [first]
    · simp [first]

/-- The `savableBit` is the first bit of a byte. -/
theorem testBit_savableBit : ∀ k < 8, savableBit.toNat.testBit (7 - k) = decide (k = 0) := by decide

theorem testBit_not_savableBit : ∀ k < 8, (~~~savableBit).toNat.testBit (7 - k) = !decide (k = 0) := by
  decide

/-- Clearing the `savableBit` clears the first bit, and no other. -/
theorem bit_clearSavable (bytes : Bytes) (i : Nat) :
    Bytes.bit (bytes.modifyHead (· &&& ~~~savableBit)) i = if i = 0 then false else bytes.bit i := by
  rw [bit_modifyHead]
  by_cases first : i < 8 ∧ bytes ≠ []
  · rw [if_pos first, UInt8.toNat_and, Nat.testBit_and, testBit_not_savableBit i first.1]
    by_cases zero : i = 0
    · simp [zero]
    · simp [zero, Bytes.bit, Nat.div_eq_of_lt first.1, Nat.mod_eq_of_lt first.1]
  · rw [if_neg first]
    split
    · next zero =>
      -- a string without a first byte has no bit to clear
      rw [zero, not_and_or, Decidable.not_not] at first
      rcases first with absurdity | rfl
      · omega
      · exact Bytes.bit_eq_false_of_le (by simp)
    · rfl

/-- A byte that differs from another one in the `savableBit` alone, which is clear. -/
theorem getD_clearSavable {bytes bytes' : Bytes} {i : Nat} (first : bytes'.bit (8 * i) = false)
    (rest : ∀ k, 0 < k → k < 8 → bytes'.bit (8 * i + k) = bytes.bit (8 * i + k)) :
    bytes'.getD i 0 = bytes.getD i 0 &&& ~~~savableBit := by
  rw [← UInt8.toNat_inj]
  apply Nat.eq_of_testBit_eq
  intro j
  rw [UInt8.toNat_and, Nat.testBit_and]
  by_cases small : j < 8
  · have mask := testBit_not_savableBit (7 - j) (by omega)
    rw [show 7 - (7 - j) = j by omega] at mask
    rw [Bytes.testBit_getD _ _ small, Bytes.testBit_getD _ _ small, mask]
    by_cases top : j = 7
    · subst top
      simpa using first
    · rw [rest (7 - j) (by omega) (by omega), decide_eq_false (by omega), Bool.not_false,
        Bool.and_true]
  · -- neither byte has such a bit
    rw [Bytes.testBit_toNat_eq_false _ (by omega), Bytes.testBit_toNat_eq_false _ (by omega),
      Bool.false_and]

theorem headerLength_pos (page : Bytes) : 0 < headerLength page := by
  unfold headerLength
  split <;> decide

/-- Setting the `savableBit` sets the first bit of a string that has one, and no other. -/
theorem bit_setSavable (bytes : Bytes) (i : Nat) :
    Bytes.bit (bytes.modifyHead (· ||| savableBit)) i =
      if i = 0 ∧ bytes ≠ [] then true else bytes.bit i := by
  rw [bit_modifyHead]
  by_cases first : i < 8 ∧ bytes ≠ []
  · rw [if_pos first, UInt8.toNat_or, Nat.testBit_or, testBit_savableBit i first.1]
    by_cases zero : i = 0
    · simp [zero, first.2]
    · simp [zero, Bytes.bit, Nat.div_eq_of_lt first.1, Nat.mod_eq_of_lt first.1]
  · rw [if_neg first, if_neg fun set => first ⟨by omega, set.2⟩]

end Page

/-! ## Images -/

namespace BitSpan

/-- A span that starts `offset` bytes further on. -/
def shifted (span : BitSpan) (offset : Nat) : BitSpan :=
  { span with startByte := offset + span.startByte }

theorem covers_shifted {span : BitSpan} {offset i : Nat} :
    (span.shifted offset).Covers i ↔ 8 * offset ≤ i ∧ span.Covers (i - 8 * offset) := by
  unfold Covers firstBit shifted
  dsimp only
  omega

theorem valueBit_shifted {span : BitSpan} {offset : Nat} (value i : Nat) :
    (span.shifted offset).valueBit value i = span.valueBit value (i - 8 * offset) := by
  unfold valueBit firstBit shifted
  dsimp only
  rw [show i - (8 * (offset + span.startByte) + (7 - span.startBit)) =
    i - 8 * offset - (8 * span.startByte + (7 - span.startBit)) by omega]

end BitSpan

namespace PageImage

/-- Two images of the same variant with the page in the same place. -/
structure SamePlace (image image' : PageImage) : Prop where
  /-- The variant is the same. -/
  control_eq : image'.control = image.control
  /-- The page starts at the same byte. -/
  offset_eq : image'.offset = image.offset
  /-- The page has the same length. -/
  pageLength_eq : image'.pageLength = image.pageLength
  /-- The responses have the same length. -/
  length_eq : image'.response.length = image.response.length

theorem SamePlace.refl (image : PageImage) : SamePlace image image := ⟨rfl, rfl, rfl, rfl⟩

theorem SamePlace.trans {first second third : PageImage} (h : SamePlace first second)
    (h' : SamePlace second third) : SamePlace first third where
  control_eq := h'.control_eq.trans h.control_eq
  offset_eq := h'.offset_eq.trans h.offset_eq
  pageLength_eq := h'.pageLength_eq.trans h.pageLength_eq
  length_eq := h'.length_eq.trans h.length_eq

theorem samePlace_withResponse (image : PageImage) (response : Bytes)
    (h : response.length = image.response.length) : SamePlace image (image.withResponse response h) :=
  ⟨rfl, rfl, rfl, h⟩

theorem samePlace_withTail (image : PageImage) (tail : Bytes) (h : tail.length = image.tail.length) :
    SamePlace image (image.withTail tail h) :=
  samePlace_withResponse image _ _

theorem offset_le (image : PageImage) : image.offset ≤ image.response.length :=
  Nat.le_trans (Nat.le_add_right _ _) image.page_le

theorem bit_tail (image : PageImage) (i : Nat) :
    image.tail.bit i = image.response.bit (8 * image.offset + i) :=
  Bytes.bit_drop _ _ _

theorem bit_page (image : PageImage) (i : Nat) :
    image.page.bit i =
      (decide (i < 8 * image.pageLength) && image.response.bit (8 * image.offset + i)) :=
  Bytes.bit_window _ _ _ _

/-- A page that has a byte can be saved when the first bit of that byte, at `8 * image.offset`, says
so. -/
theorem isSavable_eq_bit (image : PageImage) :
    image.isSavable =
      (decide (0 < image.pageLength) && image.response.bit (8 * image.offset)) := by
  rw [isSavable, Page.isSavable_eq_bit, bit_page]
  simp

/-- Replacing the bytes from the start of the page on keeps the bits before it, those below
`8 * image.offset`. -/
theorem bit_withTail (image : PageImage) (tail : Bytes) (h : tail.length = image.tail.length)
    (i : Nat) :
    (image.withTail tail h).response.bit i =
      if i < 8 * image.offset then image.response.bit i else tail.bit (i - 8 * image.offset) := by
  have front : (image.response.take image.offset).length = image.offset := by
    rw [List.length_take, Nat.min_eq_left image.offset_le]
  rw [response_withTail, Bytes.bit_append, front, Bytes.bit_take]
  by_cases before : i < 8 * image.offset
  · simp [before]
  · simp [before]

variable {image image' : PageImage} {span : BitSpan} {value : Nat}

/-- A write to an image is a write to `image.tail`, the bytes from the start of the page on. -/
theorem write_eq_ok_iff :
    image.write span value = .ok image' ↔
      ∃ (tail : Bytes) (h : span.write value image.tail = .ok tail),
        image' = image.withTail tail (BitSpan.length_of_write h) := by
  unfold write
  split
  · next e failed =>
    constructor
    · intro h
      cases h
    · rintro ⟨tail, done, -⟩
      rw [failed] at done
      cases done
  · next tail done =>
    constructor
    · intro h
      exact ⟨tail, done, (Except.ok.inj h).symm⟩
    · rintro ⟨tail', done', rfl⟩
      rw [done] at done'
      cases done'
      rfl

theorem samePlace_of_write (h : image.write span value = .ok image') : SamePlace image image' := by
  obtain ⟨tail, done, rfl⟩ := write_eq_ok_iff.1 h
  exact samePlace_withTail _ _ _

theorem samePlace_overwrite (image : PageImage) (start : Nat) (new : Bytes) :
    SamePlace image (image.overwrite start new) := by
  unfold overwrite
  split
  · exact samePlace_withTail _ _ _
  · exact .refl image

/-- **Copying the body of another page** by `overwrite` changes the bits behind the header, as far
as both pages reach, and no others. Where one of the pages ends within the header there is nothing
to copy. -/
theorem bit_overwrite_body (image other : PageImage) (header i : Nat) :
    (image.overwrite header (Bytes.window other.page header
        (min image.pageLength other.pageLength - header))).response.bit i =
      if 8 * (image.offset + header) ≤ i ∧
          i < 8 * (image.offset + min image.pageLength other.pageLength) then
        other.page.bit (i - 8 * image.offset)
      else image.response.bit i := by
  let both := min image.pageLength other.pageLength
  have length : (Bytes.window other.page header (both - header)).length = both - header := by
    simp only [Bytes.window, List.length_take, List.length_drop, length_page, both]
    omega
  have within := image.page_le
  change (image.overwrite header (Bytes.window other.page header (both - header))).response.bit i =
    if 8 * (image.offset + header) ≤ i ∧ i < 8 * (image.offset + both) then _ else _
  unfold overwrite
  split
  · next fits =>
    rw [bit_withTail, Bytes.bit_overwrite fits, length]
    by_cases before : i < 8 * image.offset
    · rw [if_pos before, if_neg (by omega)]
    · rw [if_neg before, bit_tail, Bytes.bit_window,
        show 8 * image.offset + (i - 8 * image.offset) = i by omega]
      by_cases copied : 8 * (image.offset + header) ≤ i ∧ i < 8 * (image.offset + both)
      · rw [if_pos (by omega), if_pos copied,
          show 8 * header + (i - 8 * image.offset - 8 * header) = i - 8 * image.offset by omega,
          decide_eq_true (by omega), Bool.true_and]
      · rw [if_neg (by omega), if_neg copied]
  · next misfit =>
    -- the body of the shorter page lies within the response, so there is none
    rw [length_tail, length] at misfit
    have short : both ≤ image.pageLength := Nat.min_le_left _ _
    rw [if_neg (by omega)]

/-- **A write changes the covered bits alone**, those of the span `shifted` to the start of the
page. -/
theorem bit_of_write (h : image.write span value = .ok image') (i : Nat) :
    image'.response.bit i =
      if (span.shifted image.offset).Covers i then (span.shifted image.offset).valueBit value i
      else image.response.bit i := by
  obtain ⟨tail, done, rfl⟩ := write_eq_ok_iff.1 h
  rw [bit_withTail, BitSpan.bit_of_write done, bit_tail]
  by_cases before : i < 8 * image.offset
  · -- a field of a page never covers a bit before the page
    rw [if_pos before, if_neg]
    rw [BitSpan.covers_shifted]
    omega
  · rw [if_neg before, show 8 * image.offset + (i - 8 * image.offset) = i by omega]
    by_cases covered : span.Covers (i - 8 * image.offset)
    · rw [if_pos covered, if_pos (BitSpan.covers_shifted.2 ⟨by omega, covered⟩),
        BitSpan.valueBit_shifted]
    · rw [if_neg covered, if_neg fun h => covered (BitSpan.covers_shifted.1 h).2]

theorem samePlace_forSelect (image : PageImage) (size : CommandSize) :
    SamePlace image (image.forSelect size) :=
  (samePlace_withResponse image _ (ModeHeader.length_clearLength size image.response)).trans
    (samePlace_withTail _ _ (by simp))

/-- **A parameter list**, as `forSelect` makes it, has the bits of the image, but for the length of
the mode data and the savable bit, which are clear. -/
theorem bit_forSelect (image : PageImage) (size : CommandSize) (i : Nat) :
    (image.forSelect size).response.bit i =
      if i < 8 * size.lengthFieldWidth ∨ i = 8 * image.offset then false
      else image.response.bit i := by
  -- first the length is cleared in the whole response, then the savable bit in its tail
  let cleared := image.withResponse (ModeHeader.clearLength size image.response)
    (ModeHeader.length_clearLength size image.response)
  have bits : ∀ k, cleared.response.bit k =
      if k < 8 * size.lengthFieldWidth then false else image.response.bit k :=
    ModeHeader.bit_clearLength size image.response
  have offset : cleared.offset = image.offset := rfl
  have length : (cleared.tail.modifyHead (· &&& ~~~Page.savableBit)).length = cleared.tail.length :=
    List.length_modifyHead
  change (cleared.withTail (cleared.tail.modifyHead _) length).response.bit i = _
  rw [bit_withTail, Page.bit_clearSavable, bit_tail, bits, offset]
  by_cases before : i < 8 * image.offset
  · have elsewhere : i ≠ 8 * image.offset := by omega
    simp [before, elsewhere]
  · rw [if_neg before]
    by_cases savable : i = 8 * image.offset
    · -- the first bit of the tail
      simp [savable]
    · have behind : ¬ i - 8 * image.offset = 0 := by omega
      rw [if_neg behind, bits, show 8 * image.offset + (i - 8 * image.offset) = i by omega]
      simp [savable]

end PageImage

end ModeParameters
