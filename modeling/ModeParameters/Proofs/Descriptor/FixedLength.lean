import ModeParameters.Proofs.Descriptor.Counting
import ModeParameters.Registry.Sample

/-! # Descriptors of one length

Descriptors of one length are as many as the page declares, and at least one; each starts its length
behind the one before it. There is no layout where the count field is needed and cannot be read, and
none where more descriptors are declared than a page carries. There is none either where the id byte
of the last descriptor has no address of 64 bits, although nothing is wrong with the number then. -/

namespace ModeParameters.DescriptorBlock

open Text (wordLimit)

variable {block : DescriptorBlock} {page : Bytes} {stride count : Nat}

/-- The starts of descriptors of some length (`startsIn`) are the `fixedStarts` that are declared
for it. -/
theorem startsIn_of_fixed (regular : block.stride = .fixed stride) (pos : 0 < stride) :
    block.startsIn page = (block.fixedStarts page stride).value := by
  unfold startsIn
  rw [regular]
  cases stride with
  | zero => cases pos
  | succ => rfl

/-- Descriptors of one length of which a plausible number is declared start one behind the other, at
the `evenStarts`. -/
theorem startsIn_of_declared (regular : block.stride = .fixed stride) (pos : 0 < stride)
    (addresses : block.firstOffset + maxDescriptorCount * stride < wordLimit)
    (small : count ≤ maxDescriptorCount) (declared : block.declaredCount page stride = .ok count) :
    block.startsIn page = .ok (block.evenStarts stride count) := by
  rw [startsIn_of_fixed regular pos, value_fixedStarts, declared, Except.bind, if_neg]
  -- the last descriptor starts before the end of the greatest list
  have last : stride * (max count 1 - 1) ≤ maxDescriptorCount * stride := by
    rw [Nat.mul_comm]
    exact Nat.mul_le_mul_right stride (by omega)
  omega

/-- Descriptors of which no plausible number is declared (`declaredCount`) start nowhere. -/
theorem layout_of_undeclared (regular : block.stride = .fixed stride) (pos : 0 < stride)
    {e : DescriptorError} (failed : block.declaredCount page stride = .error e) :
    (block.layout page).value = .error e := by
  rw [value_layout, startsIn_of_fixed regular pos, value_fixedStarts, failed]
  rfl

/-- A plausible number of descriptors of one length has a layout, if their id bytes have addresses
(`IdsAddressed`). -/
theorem layout_of_declared (regular : block.stride = .fixed stride) (pos : 0 < stride)
    (addresses : block.firstOffset + maxDescriptorCount * stride < wordLimit)
    (small : count ≤ maxDescriptorCount) (declared : block.declaredCount page stride = .ok count) :
    (block.layout page).value =
      if ¬ block.IdsAddressed (block.evenStarts stride count) then
        .error (.addressOverflow block.name)
      else .ok ⟨block, block.evenStarts stride count,
        (block.evenStarts stride count).map (block.idAt? page)⟩ := by
  have few : ¬ maxDescriptorCount < (block.evenStarts stride count).length := by
    rw [length_evenStarts]
    unfold maxDescriptorCount at small ⊢
    omega
  rw [value_layout, startsIn_of_declared regular pos addresses small declared, Except.bind,
    if_neg few]

/-- The last of the `evenStarts` is the greatest: if its id byte has an address, all have. -/
theorem idsAddressed_evenStarts_iff :
    block.IdsAddressed (block.evenStarts stride count) ↔ ∀ offset, block.idOffset = some offset →
      block.firstOffset + stride * (max 1 count - 1) + offset < wordLimit := by
  constructor
  · intro addressed offset isId
    have last : block.firstOffset + stride * (max 1 count - 1) ∈ block.evenStarts stride count :=
      List.mem_map.2 ⟨max 1 count - 1, List.mem_range.2 (by omega), rfl⟩
    exact addressed _ last offset isId
  · intro last start mem offset isId
    obtain ⟨index, inside, rfl⟩ := List.mem_map.1 mem
    have before : stride * index ≤ stride * (max 1 count - 1) :=
      Nat.mul_le_mul_left stride (by rw [List.mem_range] at inside; omega)
    have address := last offset isId
    omega

/-- The id bytes of the `evenStarts` lack addresses exactly if that of the last one exceeds 64 bits. -/
theorem not_idsAddressed_evenStarts_iff :
    ¬ block.IdsAddressed (block.evenStarts stride count) ↔ ∃ offset, block.idOffset = some offset ∧
      wordLimit ≤ block.firstOffset + stride * (max 1 count - 1) + offset := by
  simp only [idsAddressed_evenStarts_iff, not_forall, Nat.not_lt, exists_prop]

/-- A plausible number of descriptors is refused exactly if the id byte of the last one has an address
of more than 64 bits. -/
theorem layout_eq_addressOverflow_iff (regular : block.stride = .fixed stride) (pos : 0 < stride)
    (addresses : block.firstOffset + maxDescriptorCount * stride < wordLimit)
    (small : count ≤ maxDescriptorCount) (declared : block.declaredCount page stride = .ok count) :
    (block.layout page).value = .error (.addressOverflow block.name) ↔
      ∃ offset, block.idOffset = some offset ∧
        wordLimit ≤ block.firstOffset + stride * (max 1 count - 1) + offset := by
  rw [layout_of_declared regular pos addresses small declared, ← not_idsAddressed_evenStarts_iff]
  split
  · next overflows => exact iff_of_true rfl overflows
  · next addressed => exact iff_of_false (fun failed => by cases failed) addressed

/-- Descriptors that go on to the end of the page lie within it, as many as `exactCount?` counts. -/
theorem end_le_of_untilPageEnd (toEnd : block.count = .untilPageEnd)
    (counted : block.exactCount? page stride = some count) {index : Nat} (inside : index < count) :
    block.firstOffset + stride * index + stride ≤ pageEnd page := by
  rw [exactCount?, toEnd] at counted
  cases counted
  rw [Int.toNat_sub] at inside
  -- `index + 1` strides fit behind the first offset, and one of them is not empty
  have fits : stride * (index + 1) ≤ pageEnd page - block.firstOffset :=
    calc stride * (index + 1) ≤ stride * ((pageEnd page - block.firstOffset) / stride) :=
          Nat.mul_le_mul_left stride inside
      _ ≤ pageEnd page - block.firstOffset := Nat.mul_div_le _ _
  have positive : 0 < stride := by
    refine Nat.pos_of_ne_zero fun zero => ?_
    rw [zero, Nat.div_zero] at inside
    cases inside
  have step : stride * (index + 1) = stride * index + stride := Nat.mul_succ stride index
  omega

/-- A plausible number of descriptors whose id bytes have addresses has a layout: the declared number of
descriptors, or one, at the `evenStarts`. -/
theorem exists_layout_of_addressed (regular : block.stride = .fixed stride) (pos : 0 < stride)
    (addresses : block.firstOffset + maxDescriptorCount * stride < wordLimit)
    (small : count ≤ maxDescriptorCount) (declared : block.declaredCount page stride = .ok count)
    (counted : block.exactCount? page stride = some count)
    (ids : ∀ offset, block.idOffset = some offset →
      block.firstOffset + stride * (max 1 count - 1) + offset < wordLimit) :
    ∃ layout, (block.layout page).value = .ok layout ∧ layout.block = block ∧
      layout.count = max 1 count ∧
      (∀ index, layout.startOf? index =
        if index < max 1 count then some (block.firstOffset + stride * index) else none) ∧
      (block.count = .untilPageEnd → 1 ≤ count → ∀ index < layout.count,
        block.firstOffset + stride * index + stride ≤ pageEnd page) := by
  have addressed := not_not.2 (idsAddressed_evenStarts_iff.2 ids)
  have laid := layout_of_declared regular pos addresses small declared
  rw [if_neg addressed] at laid
  refine ⟨_, laid, rfl, ?_, ?_, ?_⟩
  · rw [Layout.count, length_evenStarts, Nat.max_comm]
  · intro index
    rw [Layout.startOf?, getElem?_evenStarts, Nat.max_comm]
  · intro toEnd found index inside
    rw [Layout.count, length_evenStarts, Nat.max_eq_left found] at inside
    exact end_le_of_untilPageEnd toEnd counted inside

/-- **Descriptors of one length are counted exactly.** Where all descriptors are `stride` bytes long
and the addresses up to the greatest number of them fit 64 bits, the layout fails for the count field
exactly when that is needed and cannot be read (`Uncountable`), and for the number exactly when
`exactCount?`, in whole numbers, exceeds `maxDescriptorCount`. Else it fails exactly when the id byte
of the last descriptor has an address of more than 64 bits (`addressOverflow`), and where that fits
there is a layout with the declared number of descriptors, or with the nominal one when none is
declared, and they start `stride` bytes apart. Descriptors that go on to the end of the page lie within
it. A length of zero is an error. -/
theorem fixed_layout_exact (block : DescriptorBlock) (page : Bytes) :
    (block.stride = .fixed 0 → (block.layout page).value = .error (.zeroStride block.name)) ∧
    ∀ stride, block.stride = .fixed stride → 0 < stride → block.count.Narrow →
      block.firstOffset + maxDescriptorCount * stride < wordLimit →
      ((∃ cause, (block.layout page).value = .error (.countField block.name cause)) ↔
        block.Uncountable page) ∧
      ((∃ n, (block.layout page).value = .error (.implausibleCount block.name n)) ↔
        ∃ count, block.exactCount? page stride = some count ∧ maxDescriptorCount < count) ∧
      ∀ count, block.exactCount? page stride = some count → count ≤ maxDescriptorCount →
        ((block.layout page).value = .error (.addressOverflow block.name) ↔
          ∃ offset, block.idOffset = some offset ∧
            wordLimit ≤ block.firstOffset + stride * (max 1 count - 1) + offset) ∧
        ((∀ offset, block.idOffset = some offset →
            block.firstOffset + stride * (max 1 count - 1) + offset < wordLimit) →
          ∃ layout, (block.layout page).value = .ok layout ∧ layout.block = block ∧
            layout.count = max 1 count ∧
            (∀ index, layout.startOf? index =
              if index < max 1 count then some (block.firstOffset + stride * index) else none) ∧
            (block.count = .untilPageEnd → 1 ≤ count → ∀ index < layout.count,
              block.firstOffset + stride * index + stride ≤ pageEnd page)) := by
  constructor
  · intro zero
    rw [value_layout, startsIn, zero]
    rfl
  intro stride regular pos narrow addresses
  rcases declaredCount_cases page stride narrow with
    ⟨uncounted, cause, failed⟩ | ⟨count, counted, judges⟩
  · -- the count field cannot be read
    rw [layout_of_undeclared regular pos failed, ← exactCount?_eq_none_iff, uncounted]
    exact ⟨iff_of_true ⟨cause, rfl⟩ rfl, iff_of_false (by rintro ⟨_, ⟨⟩⟩) (by rintro ⟨_, ⟨⟩, _⟩),
      by rintro _ ⟨⟩⟩
  rcases Nat.lt_or_ge maxDescriptorCount count with large | small
  · -- too many are declared
    obtain ⟨n, failed⟩ := judges.refused large
    rw [layout_of_undeclared regular pos failed, ← exactCount?_eq_none_iff, counted]
    refine ⟨iff_of_false (by rintro ⟨_, ⟨⟩⟩) (Option.some_ne_none count),
      iff_of_true ⟨n, rfl⟩ ⟨count, rfl, large⟩, ?_⟩
    rintro _ ⟨⟩ small
    exact absurd large (Nat.not_lt.2 small)
  · have declared := judges.accepted small
    refine ⟨?_, ?_, ?_⟩
    · rw [layout_of_declared regular pos addresses small declared, ← exactCount?_eq_none_iff, counted]
      exact iff_of_false (by rintro ⟨cause, failed⟩; split at failed <;> cases failed)
        (Option.some_ne_none count)
    · rw [layout_of_declared regular pos addresses small declared, counted]
      refine iff_of_false (by rintro ⟨n, failed⟩; split at failed <;> cases failed) ?_
      rintro ⟨_, ⟨⟩, large⟩
      exact Nat.not_lt.2 small large
    intro count' same _
    obtain rfl : count = count' := Option.some.inj (counted.symm.trans same)
    exact ⟨layout_eq_addressOverflow_iff regular pos addresses small declared,
      exists_layout_of_addressed regular pos addresses small declared counted⟩

end ModeParameters.DescriptorBlock

/-! ## Two phys -/

namespace ModeParameters.Sample

open DescriptorBlock
open Text (wordLimit)

/-- A phy page that counts two phys and ends with their descriptors. -/
def phyPage : Bytes :=
  [0x59, 0x01, 0x00, 0x64, 0x00, 0x06, 0x00, 0x02] ++ List.replicate 96 0x00

/-- The phy descriptors, as if they went on to the end of the page and had an id in their byte 1. -/
def trailingDescriptors : DescriptorBlock :=
  { phyDescriptors with count := .untilPageEnd, idOffset := some 1 }

/-- Both rules find two descriptors in `phyPage`. By that of `trailingDescriptors` they end with it. -/
theorem two_phys_laid :
    (∃ layout, (phyDescriptors.layout phyPage).value = .ok layout ∧ layout.count = 2) ∧
      ∃ layout, (trailingDescriptors.layout phyPage).value = .ok layout ∧ layout.count = 2 ∧
        ∀ index < layout.count, 8 + 48 * index + 48 ≤ pageEnd phyPage := by
  constructor
  · obtain ⟨-, -, laid⟩ := (fixed_layout_exact phyDescriptors phyPage).2 48 rfl (by decide)
      ⟨by decide, by decide⟩ (by decide)
    obtain ⟨layout, found, -, count, -⟩ := (laid 2 (by decide) (by decide)).2 nofun
    exact ⟨layout, found, count⟩
  · obtain ⟨-, -, laid⟩ := (fixed_layout_exact trailingDescriptors phyPage).2 48 rfl (by decide)
      trivial (by decide)
    obtain ⟨layout, found, -, count, -, inside⟩ := (laid 2 (by decide) (by decide)).2
      (by rintro _ ⟨⟩; decide)
    exact ⟨layout, found, count, inside rfl (by decide)⟩

/-- The phy descriptors, as if their id were in the last byte that an `idOffset` can name. -/
def unaddressedDescriptors : DescriptorBlock :=
  { phyDescriptors with idOffset := some (wordLimit - 1) }

/-- The page counts two phys, and yet there is no layout with two descriptors: the address of an id
byte, which `phyPage` does not have in any case, exceeds 64 bits. -/
theorem unaddressed_ids_refused :
    unaddressedDescriptors.exactCount? phyPage 48 = some 2 ∧
      (unaddressedDescriptors.layout phyPage).value = .error (.addressOverflow "phy descriptor") := by
  decide

end ModeParameters.Sample
