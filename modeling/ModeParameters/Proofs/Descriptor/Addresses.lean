import ModeParameters.Proofs.Descriptor.Layout

/-! # Addresses in a layout

However its descriptors are counted and however far apart they are, a layout has the first one at the
first offset, and each one behind the one before it. All that is said of the addresses of fields
follows from this. A field has its table's address in the first descriptor, and in every other one it
is as far from the start of the descriptor. -/

namespace ModeParameters

/-- A descriptor of a chain that `follow` finds has a header of at least one byte. -/
theorem ChainRule.header_pos_of_mem_follow {rule : ChainRule} {rest : Bytes} {wanted : Option Nat}
    {start : Nat} {link : Link} (h : link ∈ (rule.follow rest wanted start).1) : 0 < rule.header := by
  fun_induction follow with
  | case1 | case2 | case3 | case4 | case5 => cases h
  | case6 rest wanted start more room length read => exact header_pos_of_reported? read

/-- What holds of every layout that `DescriptorBlock.layout` gives, whatever the page says of its
descriptors. -/
structure Layout.Regular (layout : Layout) : Prop where
  /-- The first descriptor starts at the first offset. -/
  first : layout.startOf? 0 = some layout.block.firstOffset
  /-- Each descriptor starts behind the one before it: `starts` increases. -/
  increasing : layout.starts.Pairwise (· < ·)
  /-- Descriptors of one length start that far apart, at `firstOffset + stride * index`. -/
  even : ∀ stride, layout.block.stride = .fixed stride → ∀ index < layout.count,
    layout.startOf? index = some (layout.block.firstOffset + stride * index)
  /-- There are not too many descriptors: at most `maxDescriptorCount`. -/
  count_le : layout.count ≤ maxDescriptorCount

namespace DescriptorBlock

variable {block : DescriptorBlock} {page : Bytes} {layout : Layout} {starts : List Nat}

/-- A layout belongs to the block that it was found by: `layout.block = block`. -/
theorem block_of_layout (laid : (block.layout page).value = .ok layout) : layout.block = block := by
  obtain ⟨starts, -, -, -, rfl⟩ := layout_eq_ok_iff.1 laid
  rfl

/-- Evenly spaced starts, `evenStarts`, increase if there is any space. -/
theorem pairwise_evenStarts {stride : Nat} (pos : 0 < stride) (count : Nat) :
    (block.evenStarts stride count).Pairwise (· < ·) := by
  rw [evenStarts, List.pairwise_map]
  refine List.pairwise_lt_range.imp fun before => ?_
  exact Nat.add_lt_add_left (Nat.mul_lt_mul_of_pos_left before pos) _

/-- The descriptors of a chain (`chainStarts`) start one behind the other, as each has a header at
least. -/
theorem pairwise_chainStarts {lengthOffset lengthWidth : Nat}
    (h : (block.chainStarts page lengthOffset lengthWidth).value = .ok starts) :
    starts.Pairwise (· < ·) := by
  obtain ⟨areaEnd, wanted, -, rfl⟩ := starts_of_chainStarts h
  unfold linkStarts
  split
  · exact List.pairwise_singleton _ _
  · rw [List.pairwise_map]
    refine (ChainRule.pairwise_follow _ _ _ _).imp_of_mem fun {earlier later} mem _ apart => ?_
    have header := ChainRule.header_pos_of_mem_follow mem
    unfold ChainRule.endOf at apart
    omega

/-- **Every layout is `Regular`.** -/
theorem regular_of_layout (laid : (block.layout page).value = .ok layout) : layout.Regular := by
  have first := startOf?_zero laid
  obtain ⟨starts, walked, few, -, rfl⟩ := layout_eq_ok_iff.1 laid
  unfold startsIn at walked
  split at walked
  · cases walked
  · next stride pos regular =>
    obtain ⟨count, rfl⟩ := exists_evenStarts walked
    refine ⟨first, pairwise_evenStarts (Nat.pos_of_ne_zero pos) count, ?_, few⟩
    intro stride' same index inside
    cases regular.symm.trans same
    rw [Layout.count, length_evenStarts] at inside
    rw [Layout.startOf?, getElem?_evenStarts, if_pos inside]
  · next lengthOffset lengthWidth varying =>
    refine ⟨first, pairwise_chainStarts walked, ?_, few⟩
    intro stride same
    cases varying.symm.trans same

end DescriptorBlock

namespace Layout

variable {layout : Layout} {field : Field} {index : Nat}

/-- A field lies in the descriptors (`holds`) from the first offset on. -/
theorem holds_iff : layout.holds field = true ↔ layout.block.firstOffset ≤ field.span.startByte :=
  decide_eq_true_iff

/-- A field before the descriptors has an `offsetOf?` in the first one alone. -/
theorem offsetOf?_of_before (before : field.span.startByte < layout.block.firstOffset) :
    layout.offsetOf? field index = if index = 0 then some field.span.startByte else none := by
  rw [offsetOf?, if_neg (mt holds_iff.1 (Nat.not_le.2 before))]

/-- A descriptor starts somewhere (`startOf?`) exactly when there are more descriptors than come
before it. -/
theorem exists_startOf?_iff :
    (∃ start, layout.startOf? index = some start) ↔ index < layout.count := by
  rw [← Option.isSome_iff_exists, startOf?, isSome_getElem?, count]

namespace Regular

/-- There is at least one descriptor: `0 < layout.count`. -/
theorem count_pos (regular : layout.Regular) : 0 < layout.count :=
  exists_startOf?_iff.1 ⟨_, regular.first⟩

/-- A later descriptor starts behind an earlier one, `start < start'`. -/
theorem startOf?_lt (regular : layout.Regular) {earlier later start start' : Nat}
    (found : layout.startOf? earlier = some start) (found' : layout.startOf? later = some start')
    (before : earlier < later) : start < start' := by
  obtain ⟨bound, rfl⟩ := List.getElem?_eq_some_iff.1 found
  obtain ⟨bound', rfl⟩ := List.getElem?_eq_some_iff.1 found'
  exact List.pairwise_iff_getElem.1 regular.increasing earlier later bound bound' before

/-- **A field of the descriptors is equally far from the start of each**, whichever way `offsetOf?`
calculates its address. -/
theorem offsetOf?_of_inside (regular : layout.Regular)
    (inside : layout.block.firstOffset ≤ field.span.startByte) (index : Nat) :
    layout.offsetOf? field index =
      (layout.startOf? index).map (· + (field.span.startByte - layout.block.firstOffset)) := by
  rw [offsetOf?, if_pos (holds_iff.2 inside)]
  cases rule : layout.block.stride with
  | «variable» => rfl
  | fixed stride =>
    dsimp only
    by_cases bound : index < layout.count
    · -- the start of the table's field is the first offset and the distance from it
      rw [if_pos bound, regular.even stride rule index bound, Option.map_some, Option.some.injEq]
      omega
    · rw [if_neg bound, Option.eq_none_iff_forall_ne_some.2 fun start found =>
        bound (exists_startOf?_iff.1 ⟨start, found⟩), Option.map_none]

/-- In the first descriptor a field is where its table says, at `field.span.startByte`. -/
theorem offsetOf?_zero (regular : layout.Regular) (field : Field) :
    layout.offsetOf? field 0 = some field.span.startByte := by
  rcases Nat.lt_or_ge field.span.startByte layout.block.firstOffset with before | inside
  · rw [offsetOf?_of_before before, if_pos rfl]
  · rw [regular.offsetOf?_of_inside inside, regular.first, Option.map_some,
      Nat.add_sub_cancel' inside]

/-- A field of the descriptors has an address (`offsetOf?`) in each of them, and in no other one. -/
theorem exists_offsetOf?_iff (regular : layout.Regular)
    (inside : layout.block.firstOffset ≤ field.span.startByte) :
    (∃ offset, layout.offsetOf? field index = some offset) ↔ index < layout.count := by
  rw [regular.offsetOf?_of_inside inside, ← Option.isSome_iff_exists, Option.isSome_map,
    Option.isSome_iff_exists, exists_startOf?_iff]

/-- The addresses of a field of the descriptors increase with the descriptor, `offset < offset'`. -/
theorem offsetOf?_lt (regular : layout.Regular)
    (inside : layout.block.firstOffset ≤ field.span.startByte) {earlier later offset offset' : Nat}
    (found : layout.offsetOf? field earlier = some offset)
    (found' : layout.offsetOf? field later = some offset') (before : earlier < later) :
    offset < offset' := by
  rw [regular.offsetOf?_of_inside inside] at found found'
  obtain ⟨start, starts, rfl⟩ := Option.map_eq_some_iff.1 found
  obtain ⟨start', starts', rfl⟩ := Option.map_eq_some_iff.1 found'
  exact Nat.add_lt_add_right (regular.startOf?_lt starts starts' before) _

/-- A field that means something in a descriptor (`applies`) has an address there. -/
theorem exists_offsetOf?_of_applies (regular : layout.Regular)
    (applied : layout.applies field index = true) :
    ∃ offset, layout.offsetOf? field index = some offset := by
  rw [applies, Bool.and_eq_true, Bool.and_eq_true, Bool.or_eq_true, beq_iff_eq] at applied
  obtain ⟨⟨bound, inside | first⟩, -⟩ := applied
  · exact (regular.exists_offsetOf?_iff (holds_iff.1 inside)).2 (decide_eq_true_iff.1 bound)
  · rw [first]
    exact ⟨_, regular.offsetOf?_zero field⟩

end Regular

end Layout

end ModeParameters
