import ModeParameters.Descriptor.Chain

/-! # Where the descriptors of a chain lie

The descriptors of a chain follow each other without overlapping and lie within the area of the chain,
so no bit of the page belongs to two of them. -/

namespace ModeParameters

namespace ChainRule

/-- Where a descriptor ends: the `length` that it reports counts from behind its length field. -/
def endOf (rule : ChainRule) (link : Link) : Nat := link.start + rule.header + link.length

/-- Bit `i` of the page belongs to a descriptor: it lies between its `start` and its `endOf`. -/
def Holds (rule : ChainRule) (link : Link) (i : Nat) : Prop :=
  8 * link.start ≤ i ∧ i < 8 * rule.endOf link

/-- Bit `i` of the page belongs to descriptor `index` of a chain, and to no other one (`Holds`). -/
def HoldsOnly (rule : ChainRule) (links : List Link) (index i : Nat) : Prop :=
  (∃ link, links[index]? = some link ∧ rule.Holds link i) ∧
    ∀ other link, links[other]? = some link → rule.Holds link i → other = index

variable {rule : ChainRule} {rest : Bytes} {wanted : Option Nat} {start : Nat} {links : List Link}

/-- Every descriptor of a chain that `follow` finds lies between the start of the chain and the end
of the area. -/
theorem bounds_of_mem_follow {link : Link} (h : link ∈ (rule.follow rest wanted start).1) :
    start ≤ link.start ∧ rule.endOf link ≤ rule.areaEnd := by
  fun_induction follow with
  | case1 | case2 | case3 | case4 | case5 => cases h
  | case6 rest wanted start more room length read small fits further ih =>
    rcases List.mem_cons.1 h with rfl | later
    · exact ⟨Nat.le_refl _, Nat.not_lt.1 fits⟩
    · -- the rest of the chain starts where this descriptor ends
      obtain ⟨start_le, end_le⟩ := ih later
      exact ⟨by omega, end_le⟩

/-- The first descriptor of a chain starts where the chain does: `link.start = start`. -/
theorem start_of_head?_follow {link : Link} (h : (rule.follow rest wanted start).1.head? = some link) :
    link.start = start := by
  fun_induction follow with
  | case1 | case2 | case3 | case4 | case5 => cases h
  | case6 =>
    cases h
    rfl

/-- **No descriptor of a chain starts before an earlier one ends**, at its `endOf`. -/
theorem pairwise_follow (rule : ChainRule) (rest : Bytes) (wanted : Option Nat) (start : Nat) :
    (rule.follow rest wanted start).1.Pairwise fun earlier later =>
      rule.endOf earlier ≤ later.start := by
  fun_induction follow with
  | case1 | case2 | case3 | case4 | case5 => exact List.Pairwise.nil
  | case6 rest wanted start more room length read small fits further ih =>
    exact List.Pairwise.cons (fun later mem => (bounds_of_mem_follow mem).1) ih

/-- Descriptors that do not overlap are met in the order of the bits. -/
theorem index_le_of_holds (apart : links.Pairwise fun earlier later =>
      rule.endOf earlier ≤ later.start) {index other i : Nat} {link link' : Link}
    (found : links[index]? = some link) (found' : links[other]? = some link')
    (behind : 8 * link.start ≤ i) (holds : rule.Holds link' i) : index ≤ other := by
  refine Nat.le_of_not_lt fun before => ?_
  obtain ⟨bound, rfl⟩ := List.getElem?_eq_some_iff.1 found
  obtain ⟨bound', rfl⟩ := List.getElem?_eq_some_iff.1 found'
  have ends : rule.endOf links[other] ≤ links[index].start :=
    List.pairwise_iff_getElem.1 apart other index bound' bound before
  have last := holds.2
  omega

/-- A bit of a descriptor (`Holds`) belongs to that descriptor alone (`HoldsOnly`). -/
theorem holdsOnly_of_holds (apart : links.Pairwise fun earlier later =>
      rule.endOf earlier ≤ later.start) {index i : Nat} {link : Link}
    (found : links[index]? = some link) (holds : rule.Holds link i) : rule.HoldsOnly links index i :=
  ⟨⟨link, found, holds⟩, fun _ _ found' holds' => Nat.le_antisymm
    (index_le_of_holds apart found' found holds'.1 holds)
    (index_le_of_holds apart found found' holds.1 holds')⟩

end ChainRule

end ModeParameters
