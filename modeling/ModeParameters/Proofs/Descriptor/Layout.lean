import ModeParameters.Descriptor.Layout
import ModeParameters.Proofs.Attempt
import ModeParameters.Proofs.Descriptor.Chain

/-! # What a layout is made of

A layout is made of the places where the descriptors start, if there are not too many of them and all
their id bytes have an address. Descriptors that report their lengths start where the chain of them
does. -/

namespace ModeParameters.DescriptorBlock

open Text (wordLimit)

variable {block : DescriptorBlock} {page : Bytes} {rule : ChainRule} {links : List Link}
  {layout : Layout}

/-- Where the descriptors of a page start, by the `StrideRule` of their block. -/
def startsIn (block : DescriptorBlock) (page : Bytes) : Except DescriptorError (List Nat) :=
  match block.stride with
  | .fixed 0 => .error (.zeroStride block.name)
  | .fixed stride => (block.fixedStarts page stride).value
  | .variable lengthOffset lengthWidth => (block.chainStarts page lengthOffset lengthWidth).value

/-- The id byte of every descriptor has an address: `start + offset` is below `wordLimit`. -/
def IdsAddressed (block : DescriptorBlock) (starts : List Nat) : Prop :=
  ∀ start ∈ starts, ∀ offset, block.idOffset = some offset → start + offset < wordLimit

theorem not_idsAddressed_iff {starts : List Nat} :
    ¬ block.IdsAddressed starts ↔
      (starts.any fun start => block.idOffset.any fun offset => wordLimit ≤ start + offset) = true := by
  simp [IdsAddressed, Option.any_eq_true]

instance (block : DescriptorBlock) (starts : List Nat) : Decidable (block.IdsAddressed starts) :=
  decidable_of_iff _ ((not_congr not_idsAddressed_iff).symm.trans not_not)

/-- What the layout of a page comes to: the starts of its descriptors (`startsIn`), judged by their
number and by the addresses of their id bytes. -/
theorem value_layout (block : DescriptorBlock) (page : Bytes) :
    (block.layout page).value = (block.startsIn page).bind fun starts =>
      if maxDescriptorCount < starts.length then .error (.implausibleCount block.name starts.length)
      else if ¬ block.IdsAddressed starts then .error (.addressOverflow block.name)
      else .ok ⟨block, starts, starts.map (block.idAt? page)⟩ := by
  unfold DescriptorBlock.layout startsIn
  rcases block.stride with (_ | stride) | ⟨lengthOffset, lengthWidth⟩
  · rfl
  -- descriptors of one length and descriptors of varying length end alike
  all_goals
    simp only [Attempt.value_bind, Attempt.value_ite, Attempt.value_throw, Attempt.value_pure,
      not_idsAddressed_iff]
    rfl

/-- **A page has a layout** exactly when its descriptors start somewhere (`startsIn`), are at most
`maxDescriptorCount`, and have id bytes with an address. -/
theorem layout_eq_ok_iff :
    (block.layout page).value = .ok layout ↔
      ∃ starts, block.startsIn page = .ok starts ∧ starts.length ≤ maxDescriptorCount ∧
        (∀ start ∈ starts, ∀ offset, block.idOffset = some offset → start + offset < wordLimit) ∧
        layout = ⟨block, starts, starts.map (block.idAt? page)⟩ := by
  simp only [value_layout, bind_eq_ok_iff, guard_eq_ok_iff, Nat.not_lt, Decidable.not_not,
    Except.ok.injEq, @eq_comm _ _ layout]
  rfl

/-! ## Descriptors of one length -/

/-- Where `count` descriptors of one length start, and the nominal one where there is none. -/
def evenStarts (block : DescriptorBlock) (stride count : Nat) : List Nat :=
  (List.range (max count 1)).map fun index => block.firstOffset + stride * index

theorem length_evenStarts (block : DescriptorBlock) (stride count : Nat) :
    (block.evenStarts stride count).length = max count 1 := by
  rw [evenStarts, List.length_map, List.length_range]

theorem getElem?_evenStarts (block : DescriptorBlock) (stride count index : Nat) :
    (block.evenStarts stride count)[index]? =
      if index < max count 1 then some (block.firstOffset + stride * index) else none := by
  rw [evenStarts, List.getElem?_map]
  split
  · next inside => rw [List.getElem?_range inside, Option.map_some]
  · next outside =>
    rw [List.getElem?_eq_none (by rw [List.length_range]; omega), Option.map_none]

/-- Where descriptors of one length start, at the `evenStarts`: the remark on their number decides
nothing. -/
theorem value_fixedStarts (block : DescriptorBlock) (page : Bytes) (stride : Nat) :
    (block.fixedStarts page stride).value =
      (block.declaredCount page stride).bind fun declared =>
        if wordLimit ≤ block.firstOffset + stride * (max declared 1 - 1) then
          .error (.addressOverflow block.name)
        else .ok (block.evenStarts stride declared) := by
  unfold fixedStarts
  simp only [Attempt.value_bind, Attempt.value_liftExcept, Attempt.value_liftLogged,
    Attempt.value_ite, Attempt.value_throw, Attempt.value_pure]
  rfl

/-- Descriptors of one length start that far apart: what `fixedStarts` gives are `evenStarts`. -/
theorem exists_evenStarts {stride : Nat} {starts : List Nat}
    (h : (block.fixedStarts page stride).value = .ok starts) :
    ∃ count, starts = block.evenStarts stride count := by
  rw [value_fixedStarts, bind_eq_ok_iff] at h
  obtain ⟨declared, -, rest⟩ := h
  obtain ⟨-, done⟩ := guard_eq_ok_iff.1 rest
  exact ⟨declared, (Except.ok.inj done).symm⟩

/-! ## Descriptors that report their lengths -/

/-- Where the descriptors of a chain start, and the nominal one where there is none. -/
def linkStarts (block : DescriptorBlock) (links : List Link) : List Nat :=
  if links = [] then [block.firstOffset] else links.map Link.start

theorem length_linkStarts (block : DescriptorBlock) (links : List Link) :
    (block.linkStarts links).length = max links.length 1 := by
  cases links with
  | nil => rfl
  | cons link rest =>
    rw [linkStarts, if_neg (List.cons_ne_nil _ _), List.length_map, List.length_cons]
    omega

/-- A chain that has a descriptor is not replaced by the nominal one in `linkStarts`. -/
theorem getElem?_linkStarts {index : Nat} {link : Link} (found : links[index]? = some link) :
    (block.linkStarts links)[index]? = some link.start := by
  have nonempty := List.ne_nil_of_mem (List.mem_of_getElem? found)
  rw [linkStarts, if_neg nonempty, List.getElem?_map, found, Option.map_some]

/-- Where descriptors of varying length start (`chainStarts`): the remarks on their chain decide
nothing. -/
theorem value_chainStarts (block : DescriptorBlock) (page : Bytes) (lengthOffset lengthWidth : Nat) :
    (block.chainStarts page lengthOffset lengthWidth).value =
      (block.chainBounds page).bind fun bounds =>
        let rule : ChainRule := ⟨lengthOffset, lengthWidth, bounds.1⟩
        if wordLimit ≤ rule.header ∨
            bounds.2 ≠ some 0 ∧ wordLimit ≤ block.firstOffset + rule.header then
          .error (.addressOverflow block.name)
        else .ok (block.linkStarts
          (rule.follow (page.drop block.firstOffset) bounds.2 block.firstOffset).1) := by
  unfold chainStarts
  simp only [Attempt.value_bind, Attempt.value_liftExcept, Attempt.value_liftLogged,
    Attempt.value_ite, Attempt.value_throw, Attempt.value_pure]
  rfl

/-- The chain of the descriptors of a page: the rule by which it is followed, and the descriptors
that `follow` finds. There is none where all descriptors have one length. -/
def chain? (block : DescriptorBlock) (page : Bytes) : Option (ChainRule × List Link) :=
  match block.stride, block.chainBounds page with
  | .variable lengthOffset lengthWidth, .ok (areaEnd, wanted) =>
    let rule : ChainRule := ⟨lengthOffset, lengthWidth, areaEnd⟩
    some (rule, (rule.follow (page.drop block.firstOffset) wanted block.firstOffset).1)
  | _, _ => none

/-- A page has a chain (`chain?`) where its descriptors report their lengths and its bounds can be
found. -/
theorem chain?_eq_some_iff :
    block.chain? page = some (rule, links) ↔
      block.stride = .variable rule.lengthOffset rule.lengthWidth ∧
        ∃ wanted, block.chainBounds page = .ok (rule.areaEnd, wanted) ∧
          links = (rule.follow (page.drop block.firstOffset) wanted block.firstOffset).1 := by
  unfold chain?
  constructor
  · intro h
    split at h
    · next lengthOffset lengthWidth areaEnd wanted stride bounds =>
      cases h
      exact ⟨stride, wanted, bounds, rfl⟩
    · cases h
  · rintro ⟨stride, wanted, bounds, rfl⟩
    rw [stride, bounds]

/-- No descriptor of a page starts before an earlier one ends, at its `endOf`. -/
theorem pairwise_of_chain? (h : block.chain? page = some (rule, links)) :
    links.Pairwise fun earlier later => rule.endOf earlier ≤ later.start := by
  obtain ⟨-, wanted, -, rfl⟩ := chain?_eq_some_iff.1 h
  exact ChainRule.pairwise_follow _ _ _ _

/-- The starts of a chain are those of its descriptors (`linkStarts`); a chain without any has the
nominal one. -/
theorem starts_of_chainStarts {lengthOffset lengthWidth : Nat} {starts : List Nat}
    (h : (block.chainStarts page lengthOffset lengthWidth).value = .ok starts) :
    ∃ areaEnd wanted, block.chainBounds page = .ok (areaEnd, wanted) ∧
      starts = block.linkStarts (ChainRule.follow ⟨lengthOffset, lengthWidth, areaEnd⟩
        (page.drop block.firstOffset) wanted block.firstOffset).1 := by
  rw [value_chainStarts, bind_eq_ok_iff] at h
  obtain ⟨⟨areaEnd, wanted⟩, found, rest⟩ := h
  obtain ⟨-, done⟩ := guard_eq_ok_iff.1 rest
  exact ⟨areaEnd, wanted, found, (Except.ok.inj done).symm⟩

/-- **A layout starts its descriptors where the chain does**: `startOf?` is `link.start` at every
descriptor of the chain. -/
theorem startOf?_of_chain? (laid : (block.layout page).value = .ok layout)
    (h : block.chain? page = some (rule, links)) {index : Nat} {link : Link}
    (found : links[index]? = some link) : layout.startOf? index = some link.start := by
  obtain ⟨starts, walked, -, -, rfl⟩ := layout_eq_ok_iff.1 laid
  obtain ⟨stride, wanted, bounds, rfl⟩ := chain?_eq_some_iff.1 h
  rw [startsIn, stride] at walked
  obtain ⟨areaEnd, wanted', bounds', rfl⟩ := starts_of_chainStarts walked
  cases bounds.symm.trans bounds'
  exact getElem?_linkStarts found

/-! ## The first descriptor -/

/-- **The first descriptor starts at the `firstOffset`** of the block, whatever the page says of the
number of its descriptors. -/
theorem startOf?_zero (laid : (block.layout page).value = .ok layout) :
    layout.startOf? 0 = some block.firstOffset := by
  obtain ⟨starts, walked, -, -, rfl⟩ := layout_eq_ok_iff.1 laid
  change starts[0]? = _
  unfold startsIn at walked
  split at walked
  · cases walked
  · obtain ⟨count, rfl⟩ := exists_evenStarts walked
    rw [getElem?_evenStarts, if_pos (by omega), Nat.mul_zero, Nat.add_zero]
  · obtain ⟨areaEnd, wanted, -, rfl⟩ := starts_of_chainStarts walked
    generalize chain : (ChainRule.follow _ _ _ _).1 = links
    cases links with
    | nil => rfl
    | cons link rest =>
      have head : (ChainRule.follow _ _ _ _).1.head? = some link := congrArg List.head? chain
      rw [getElem?_linkStarts List.getElem?_cons_zero, ChainRule.start_of_head?_follow head]

end ModeParameters.DescriptorBlock
