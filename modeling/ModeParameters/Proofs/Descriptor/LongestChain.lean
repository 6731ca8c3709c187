import ModeParameters.Proofs.Descriptor.Counting
import ModeParameters.Registry.Sample

/-! # The longest chain of descriptors

Descriptors that report their lengths are those of the longest chain that lies in the area of the page
and has no more descriptors than the page counts. The chain is defined without the walk that finds it:
one descriptor starts where the one before it ends, and each has a length field and an end in the area.
The walk then finds the one chain of which every other one is a beginning. -/

namespace ModeParameters

open Text (wordLimit)

namespace ChainRule

variable {rule : ChainRule} {page : Bytes} {limit : Option Nat} {start next length : Nat}
  {links others : List Link}

/-- A descriptor of this length is at `start`: it reports the length, and lies within the area. -/
structure Fits (rule : ChainRule) (page : Bytes) (start length : Nat) : Prop where
  /-- The length field holds the length, as `numberAt?` reads it. -/
  reported : page.numberAt? (start + rule.lengthOffset) rule.lengthWidth = some length
  /-- The length is one that a descriptor may report: at most `maxDescriptorLength`. -/
  small : length ≤ maxDescriptorLength
  /-- The descriptor ends within the area. -/
  ends : start + rule.header + length ≤ rule.areaEnd

/-- The descriptors from `start` up to `next`, each where the one before it ends. -/
inductive Chain (rule : ChainRule) (page : Bytes) : Nat → List Link → Nat → Prop
  /-- No descriptor leads nowhere. -/
  | nil (start : Nat) : Chain rule page start [] start
  /-- A descriptor is followed by the chain from its end on. -/
  | cons {start length next : Nat} {links : List Link} : rule.Fits page start length →
      Chain rule page (start + rule.header + length) links next →
      Chain rule page start (⟨start, length⟩ :: links) next

/-- Why a chain does not go on at `start`. -/
inductive Stops (rule : ChainRule) (page : Bytes) (start : Nat) : Prop
  /-- The length field does not end within the area. -/
  | noRoom : rule.areaEnd < start + rule.header → Stops rule page start
  /-- The reported length is above `maxDescriptorLength`. -/
  | oversized {length : Nat} :
      page.numberAt? (start + rule.lengthOffset) rule.lengthWidth = some length →
      maxDescriptorLength < length → Stops rule page start
  /-- The descriptor does not end within the area. -/
  | cut {length : Nat} :
      page.numberAt? (start + rule.lengthOffset) rule.lengthWidth = some length →
      rule.areaEnd < start + rule.header + length → Stops rule page start

/-- A chain of at most `limit` descriptors that goes on until it has as many, or no other one fits
(`Stops`). -/
structure Longest (rule : ChainRule) (page : Bytes) (limit : Option Nat) (start : Nat)
    (links : List Link) : Prop where
  /-- It is a chain, and something ends it. -/
  ended : ∃ next, rule.Chain page start links next ∧
    (limit = some links.length ∨ rule.Stops page next)
  /-- It has no more descriptors than are wanted. -/
  within : ∀ n, limit = some n → links.length ≤ n

/-- Where a chain `Stops`, no descriptor fits. -/
theorem Stops.not_fits (stops : rule.Stops page start) : ¬ rule.Fits page start length := by
  rintro ⟨reported, small, ends⟩
  cases stops with
  | noRoom outside => omega
  | oversized found large =>
    cases reported.symm.trans found
    omega
  | cut found outside =>
    cases reported.symm.trans found
    omega

/-- A chain advances by a header at least for each of its descriptors: by
`links.length * rule.header` or more. -/
theorem Chain.header_le (chain : rule.Chain page start links next) :
    start + links.length * rule.header ≤ next := by
  induction chain with
  | nil => exact Nat.le_of_eq (by rw [List.length_nil, Nat.zero_mul, Nat.add_zero])
  | cons _ _ ih =>
    rw [List.length_cons, Nat.succ_mul]
    omega

/-- A chain that has a descriptor ends within the area: `next ≤ rule.areaEnd`. -/
theorem Chain.next_le (chain : rule.Chain page start links next) (found : links ≠ []) :
    next ≤ rule.areaEnd := by
  induction chain with
  | nil => exact absurd rfl found
  | @cons start length next links fits chain ih =>
    by_cases last : links = []
    · subst last
      cases chain
      exact fits.ends
    · exact ih last

/-- So a chain has no more descriptors than headers would fit between `start` and `rule.areaEnd`. -/
theorem Chain.length_mul_header_le (chain : rule.Chain page start links next) :
    links.length * rule.header ≤ rule.areaEnd - start := by
  by_cases none : links = []
  · rw [none, List.length_nil, Nat.zero_mul]
    exact Nat.zero_le _
  · have reached := chain.header_le
    have inside := chain.next_le none
    omega

/-! ## Only one chain is the longest -/

/-- One descriptor more is within a `limit` that wants one, if the others are within what is left of
it. -/
theorem succ_le_limit_iff {count : Nat} :
    (∀ n, limit = some n → count + 1 ≤ n) ↔
      limit ≠ some 0 ∧ ∀ n, limit.map (· - 1) = some n → count ≤ n := by
  cases limit with
  | none => simp
  | some wanted =>
    simp only [Option.some.injEq, forall_eq', Option.map_some, ne_eq]
    omega

/-- A `Longest` chain that wants a descriptor, where one fits, has it and goes on from its end. -/
theorem Longest.uncons (longest : rule.Longest page limit start links) (more : limit ≠ some 0)
    (fits : rule.Fits page start length) :
    ∃ further, links = ⟨start, length⟩ :: further ∧
      rule.Longest page (limit.map (· - 1)) (start + rule.header + length) further := by
  obtain ⟨⟨next, chain, ended⟩, within⟩ := longest
  cases chain with
  | nil =>
    rcases ended with complete | stops
    · exact absurd complete more
    · exact absurd fits stops.not_fits
  | @cons _ reportedLength _ further fits' chain =>
    cases fits.reported.symm.trans fits'.reported
    refine ⟨further, rfl, ⟨next, chain, ended.imp_left ?_⟩, (succ_le_limit_iff.1 within).2⟩
    rintro rfl
    rfl

/-- **Every chain is a beginning of the longest one**, `others <+: links`, if it has no more
descriptors than are wanted. -/
theorem Chain.prefix_of_longest (chain : rule.Chain page start others next)
    (within : ∀ n, limit = some n → others.length ≤ n)
    (longest : rule.Longest page limit start links) : others <+: links := by
  induction chain generalizing limit links with
  | nil => exact List.nil_prefix
  | cons fits chain ih =>
    obtain ⟨more, within⟩ := succ_le_limit_iff.1 within
    obtain ⟨further, rfl, rest⟩ := longest.uncons more fits
    exact List.cons_prefix_cons.2 ⟨rfl, ih within rest⟩

/-- There is one `Longest` chain. -/
theorem Longest.unique (longest : rule.Longest page limit start links)
    (longest' : rule.Longest page limit start others) : links = others := by
  obtain ⟨next, chain, -⟩ := longest.ended
  obtain ⟨next', chain', -⟩ := longest'.ended
  exact (chain.prefix_of_longest longest.within longest').eq_of_length_le
    (chain'.prefix_of_longest longest'.within longest).length_le

/-! ## The walk finds it -/

/-- A descriptor that `Fits` and is wanted makes the longest chain from its end on one longer. -/
theorem Longest.cons (more : limit ≠ some 0) (fits : rule.Fits page start length)
    (longest : rule.Longest page (limit.map (· - 1)) (start + rule.header + length) links) :
    rule.Longest page limit start (⟨start, length⟩ :: links) := by
  obtain ⟨⟨next, chain, ended⟩, within⟩ := longest
  refine ⟨⟨next, .cons fits chain, ended.imp_left ?_⟩, succ_le_limit_iff.2 ⟨more, within⟩⟩
  intro complete
  obtain ⟨wanted, rfl, count⟩ := Option.map_eq_some_iff.1 complete
  rw [List.length_cons, ← count, Nat.sub_add_cancel (Nat.pos_of_ne_zero (mt (congrArg some) more))]

/-- A length field in the page (`reported?`) is read as the number in its bytes. -/
theorem reported?_drop_eq (room : start + rule.header ≤ page.length) :
    rule.reported? (page.drop start) =
      page.numberAt? (start + rule.lengthOffset) rule.lengthWidth := by
  rw [reported?_drop room]
  refine Option.ext fun length => ?_
  rw [← DescriptorBlock.readField_eq_ok_iff]
  cases DescriptorBlock.readField page (start + rule.lengthOffset) rule.lengthWidth <;>
    simp [Except.toOption]

/-- **The walk finds the longest chain**: what `follow` gives is `Longest`, in a page that holds the
area and with length fields of one to eight bytes. -/
theorem longest_follow (rule : ChainRule) (inPage : rule.areaEnd ≤ page.length)
    (readable : 0 < rule.lengthWidth ∧ rule.lengthWidth ≤ 8) (limit : Option Nat) (start : Nat) :
    rule.Longest page limit start (rule.follow (page.drop start) limit start).1 := by
  have reported {start : Nat} (room : ¬ rule.areaEnd < start + rule.header) :=
    reported?_drop_eq (Nat.le_trans (Nat.not_lt.1 room) inPage)
  generalize rest : page.drop start = bytes
  fun_induction follow with
  | case1 => exact ⟨⟨_, .nil _, .inl rfl⟩, fun n _ => Nat.zero_le n⟩
  | case2 rest limit start more outside =>
    exact ⟨⟨_, .nil _, .inr (.noRoom outside)⟩, fun n _ => Nat.zero_le n⟩
  | case3 _ limit start more room unread =>
    rw [← rest, reported room, Bytes.numberAt?_eq_none_iff] at unread
    refine absurd ⟨readable.1, readable.2, ?_⟩ unread
    unfold header at room
    omega
  | case4 _ limit start more room length read large =>
    rw [← rest, reported room] at read
    exact ⟨⟨_, .nil _, .inr (.oversized read large)⟩, fun n _ => Nat.zero_le n⟩
  | case5 _ limit start more room length read small outside =>
    rw [← rest, reported room] at read
    exact ⟨⟨_, .nil _, .inr (.cut read outside)⟩, fun n _ => Nat.zero_le n⟩
  | case6 _ limit start more room length read small inside further ih =>
    rw [← rest, reported room] at read
    refine .cons more ⟨read, Nat.not_lt.1 small, Nat.not_lt.1 inside⟩ (ih ?_)
    rw [← rest, List.drop_drop, Nat.add_assoc]

end ChainRule

namespace DescriptorBlock

variable {block : DescriptorBlock} {page : Bytes} {lengthOffset lengthWidth areaEnd : Nat}
  {limit : Option Nat} {links : List Link}

/-- Where the descriptors of a page must end and how many of them it counts, if it does, in whole
numbers without bound, where `chainBounds` has limits. A number below zero counts as zero. -/
def exactBounds? (block : DescriptorBlock) (page : Bytes) : Option (Nat × Option Nat) :=
  match block.count with
  | .byteLength offset width extra =>
    (page.numberAt? offset width).map fun length : Nat =>
      (min (block.firstOffset + ((length : Int) - extra).toNat) (pageEnd page), none)
  | .counted offset width increment =>
    (page.numberAt? offset width).map fun stored : Nat =>
      (pageEnd page, some ((stored : Int) + increment).toNat)
  | .untilPageEnd => some (pageEnd page, none)

/-- The length fields and the id bytes of all descriptors that can start in the page have addresses,
below `wordLimit`. -/
structure Addressed (block : DescriptorBlock) (page : Bytes) (lengthOffset lengthWidth : Nat) :
    Prop where
  /-- The first length field ends at an address. -/
  header : block.firstOffset + (lengthOffset + lengthWidth) < wordLimit
  /-- The last id byte has an address. -/
  id : ∀ offset, block.idOffset = some offset →
    max block.firstOffset page.length + offset < wordLimit

/-- The area of the descriptors (`exactBounds?`) lies in the page. -/
theorem areaEnd_le_of_exactBounds? (bounds : block.exactBounds? page = some (areaEnd, limit)) :
    areaEnd ≤ page.length := by
  have inPage := pageEnd_le_length page
  unfold exactBounds? at bounds
  split at bounds
  · obtain ⟨length, -, found⟩ := Option.map_eq_some_iff.1 bounds
    cases found
    exact Nat.le_trans (Nat.min_le_right _ _) inPage
  · obtain ⟨stored, -, found⟩ := Option.map_eq_some_iff.1 bounds
    cases found
    exact inPage
  · cases bounds
    exact inPage

/-- **What bounds the chain of a page** (`chainBounds`): nothing where its count field cannot be
read, and else the exact end of its area and the exact number of descriptors, unless there are too
many. -/
theorem chainBounds_cases (page : Bytes) (narrow : block.count.Narrow) :
    (block.Uncountable page ∧ block.exactBounds? page = none ∧
      ∃ cause, block.chainBounds page = .error (.countField block.name cause)) ∨
    ¬ block.Uncountable page ∧ ∃ areaEnd limit, block.exactBounds? page = some (areaEnd, limit) ∧
      ((∃ count, limit = some count ∧ maxDescriptorCount < count ∧
          ∃ n, block.chainBounds page = .error (.implausibleCount block.name n)) ∨
        (∀ count, limit = some count → count ≤ maxDescriptorCount) ∧
          block.chainBounds page = .ok (areaEnd, limit)) := by
  -- the field that is needed is the one for descriptors of one byte
  rw [← @exactCount?_eq_none_iff block page 1]
  have declared := declaredCount_cases page 1 narrow
  unfold exactCount? at declared ⊢
  unfold exactBounds? chainBounds
  cases rule : block.count with
  | untilPageEnd => exact .inr ⟨nofun, _, _, rfl, .inr ⟨nofun, rfl⟩⟩
  | byteLength offset width extra =>
    dsimp only
    rcases block.readCountField_cases page offset width with
      ⟨none, cause, failed⟩ | ⟨length, found, read⟩
    · rw [none, failed]
      exact .inl ⟨rfl, rfl, cause, rfl⟩
    · rw [found, read]
      refine .inr ⟨nofun, _, _, rfl, .inr ⟨nofun, ?_⟩⟩
      rw [Int.toNat_sub]
      rfl
  | counted offset width increment =>
    rw [rule] at declared
    dsimp only at declared ⊢
    rcases declared with ⟨none, cause, failed⟩ | ⟨count, counted, judges⟩
    · rw [Option.map_eq_none_iff] at none
      rw [none, failed]
      exact .inl ⟨rfl, rfl, cause, rfl⟩
    · obtain ⟨stored, found, rfl⟩ := Option.map_eq_some_iff.1 counted
      rw [found]
      refine .inr ⟨nofun, _, _, rfl, ?_⟩
      rcases Nat.lt_or_ge maxDescriptorCount ((stored : Int) + increment).toNat with large | small
      · obtain ⟨n, failed⟩ := judges.refused large
        exact .inl ⟨_, rfl, large, n, by rw [failed]; rfl⟩
      · refine .inr ⟨?_, by rw [judges.accepted small]; rfl⟩
        rintro _ ⟨⟩
        exact small

/-- The descriptors found in the area of a page have id bytes with an address (`IdsAddressed`). -/
theorem Addressed.idsAddressed (addressed : block.Addressed page lengthOffset lengthWidth)
    (inPage : areaEnd ≤ page.length)
    (within : ∀ link ∈ links, (⟨lengthOffset, lengthWidth, areaEnd⟩ : ChainRule).endOf link ≤ areaEnd) :
    block.IdsAddressed (block.linkStarts links) := by
  intro start mem offset isId
  have last := addressed.id offset isId
  unfold linkStarts at mem
  split at mem
  · obtain rfl := List.mem_singleton.1 mem
    omega
  · obtain ⟨link, found, rfl⟩ := List.mem_map.1 mem
    have ends := within link found
    unfold ChainRule.endOf at ends
    omega

/-- A chain whose bounds are found makes a layout, unless it has more than `maxDescriptorCount`
descriptors. -/
theorem layout_of_bounds (varying : block.stride = .variable lengthOffset lengthWidth)
    (addressed : block.Addressed page lengthOffset lengthWidth) (inPage : areaEnd ≤ page.length)
    (bounds : block.chainBounds page = .ok (areaEnd, limit))
    (walked : links = (ChainRule.follow ⟨lengthOffset, lengthWidth, areaEnd⟩
      (page.drop block.firstOffset) limit block.firstOffset).1) :
    (block.layout page).value =
      if maxDescriptorCount < links.length then .error (.implausibleCount block.name links.length)
      else .ok ⟨block, block.linkStarts links, (block.linkStarts links).map (block.idAt? page)⟩ := by
  have header := addressed.header
  have started : block.startsIn page = .ok (block.linkStarts links) := by
    rw [startsIn, varying]
    dsimp only
    rw [value_chainStarts, bounds, walked]
    refine if_neg ?_
    unfold ChainRule.header
    dsimp only
    omega
  have ids : block.IdsAddressed (block.linkStarts links) := by
    refine addressed.idsAddressed inPage fun link mem => ?_
    rw [walked] at mem
    exact (ChainRule.bounds_of_mem_follow mem).2
  rw [value_layout, started, Except.bind, if_neg (not_not.2 ids), length_linkStarts]
  -- the nominal descriptor is not one too many
  by_cases large : maxDescriptorCount < links.length
  · have count : max links.length 1 = links.length := by
      unfold maxDescriptorCount at large
      omega
    rw [count]
  · have few : ¬ maxDescriptorCount < max links.length 1 := by
      unfold maxDescriptorCount at large ⊢
      omega
    rw [if_neg large, if_neg few]

/-- More than `maxDescriptorCount` descriptors are counted, or the longest chain has more. -/
def Overfull (block : DescriptorBlock) (page : Bytes) (lengthOffset lengthWidth : Nat) : Prop :=
  ∃ areaEnd limit, block.exactBounds? page = some (areaEnd, limit) ∧
    ((∃ count, limit = some count ∧ maxDescriptorCount < count) ∨
      ∃ links, (⟨lengthOffset, lengthWidth, areaEnd⟩ : ChainRule).Longest page limit
        block.firstOffset links ∧ maxDescriptorCount < links.length)

/-- A chain whose bounds (`chainBounds`) cannot be found has no layout. -/
theorem layout_of_unbounded (varying : block.stride = .variable lengthOffset lengthWidth)
    {e : DescriptorError} (failed : block.chainBounds page = .error e) :
    (block.layout page).value = .error e := by
  rw [value_layout, startsIn, varying]
  dsimp only
  rw [value_chainStarts, failed]
  rfl

/-- What the layout of a chain comes to: the count field cannot be read (`Uncountable`), or there
are too many descriptors (`Overfull`), or they are those of the longest chain. -/
theorem chain_layout_cases (varying : block.stride = .variable lengthOffset lengthWidth)
    (readable : 1 ≤ lengthWidth ∧ lengthWidth ≤ 8) (narrow : block.count.Narrow)
    (addressed : block.Addressed page lengthOffset lengthWidth) :
    (block.Uncountable page ∧ ¬ block.Overfull page lengthOffset lengthWidth ∧
      ∃ cause, (block.layout page).value = .error (.countField block.name cause)) ∨
    (¬ block.Uncountable page ∧ block.Overfull page lengthOffset lengthWidth ∧
      ∃ n, (block.layout page).value = .error (.implausibleCount block.name n)) ∨
    ¬ block.Uncountable page ∧ ¬ block.Overfull page lengthOffset lengthWidth ∧
      ∃ areaEnd limit links, block.exactBounds? page = some (areaEnd, limit) ∧
        (⟨lengthOffset, lengthWidth, areaEnd⟩ : ChainRule).Longest page limit block.firstOffset
          links ∧
        (block.layout page).value =
          .ok ⟨block, block.linkStarts links, (block.linkStarts links).map (block.idAt? page)⟩ := by
  rcases chainBounds_cases page narrow with ⟨unreadable, unbounded, cause, failed⟩ |
    ⟨counted, areaEnd, limit, exact, ⟨count, limited, large, n, failed⟩ | ⟨small, bounds⟩⟩
  · -- the count field cannot be read, so there are no bounds to exceed
    refine .inl ⟨unreadable, ?_, cause, layout_of_unbounded varying failed⟩
    rintro ⟨areaEnd, limit, exact, -⟩
    cases unbounded.symm.trans exact
  · exact .inr (.inl ⟨counted, ⟨areaEnd, limit, exact, .inl ⟨count, limited, large⟩⟩, n,
      layout_of_unbounded varying failed⟩)
  have inPage := areaEnd_le_of_exactBounds? exact
  have longest := ChainRule.longest_follow ⟨lengthOffset, lengthWidth, areaEnd⟩ inPage readable
    limit block.firstOffset
  have laid := layout_of_bounds varying addressed inPage bounds rfl
  split at laid
  · next large =>
    exact .inr (.inl ⟨counted, ⟨areaEnd, limit, exact, .inr ⟨_, longest, large⟩⟩, _, laid⟩)
  · next few =>
    refine .inr (.inr ⟨counted, ?_, areaEnd, limit, _, exact, longest, laid⟩)
    rintro ⟨areaEnd', limit', exact', exceeded⟩
    cases exact.symm.trans exact'
    rcases exceeded with ⟨count, limited, large⟩ | ⟨links, longest', large⟩
    · exact Nat.not_lt.2 (small count limited) large
    · -- any other longest chain is the one that was found
      rw [longest'.unique longest] at large
      exact few large

/-- **Descriptors of varying length are those of the longest chain.** Where length fields have one to
eight bytes and all addresses fit 64 bits, a layout starts its descriptors where the longest chain in
the bounds of the page does, or at the first offset when that chain has none. Every chain in these
bounds is a beginning of the longest one, and their number is limited by the headers that fit the
area. There is no layout exactly when the count field is needed and cannot be read, when more
descriptors are counted than a page carries, or when the longest chain has more. -/
theorem chain_layout_exact (varying : block.stride = .variable lengthOffset lengthWidth)
    (readable : 1 ≤ lengthWidth ∧ lengthWidth ≤ 8) (narrow : block.count.Narrow)
    (addressed : block.Addressed page lengthOffset lengthWidth) :
    (∀ layout, (block.layout page).value = .ok layout → layout.block = block ∧
      ∃ areaEnd limit links, block.exactBounds? page = some (areaEnd, limit) ∧
        let rule : ChainRule := ⟨lengthOffset, lengthWidth, areaEnd⟩
        rule.Longest page limit block.firstOffset links ∧
        layout.starts = block.linkStarts links ∧
        links.length * rule.header ≤ areaEnd - block.firstOffset ∧
        ∀ others next, rule.Chain page block.firstOffset others next →
          (∀ n, limit = some n → others.length ≤ n) → others <+: links) ∧
    ((∃ cause, (block.layout page).value = .error (.countField block.name cause)) ↔
      block.Uncountable page) ∧
    ((∃ n, (block.layout page).value = .error (.implausibleCount block.name n)) ↔
      block.Overfull page lengthOffset lengthWidth) ∧
    ((∃ e, (block.layout page).value = .error e) ↔
      block.Uncountable page ∨ block.Overfull page lengthOffset lengthWidth) := by
  rcases chain_layout_cases varying readable narrow addressed with
    ⟨unreadable, bounded, cause, laid⟩ | ⟨counted, overfull, n, laid⟩ |
    ⟨counted, bounded, areaEnd, limit, links, exact, longest, laid⟩
  · rw [laid]
    exact ⟨nofun, iff_of_true ⟨cause, rfl⟩ unreadable, iff_of_false (by rintro ⟨_, ⟨⟩⟩) bounded,
      iff_of_true ⟨_, rfl⟩ (.inl unreadable)⟩
  · rw [laid]
    exact ⟨nofun, iff_of_false (by rintro ⟨_, ⟨⟩⟩) counted, iff_of_true ⟨n, rfl⟩ overfull,
      iff_of_true ⟨_, rfl⟩ (.inr overfull)⟩
  · rw [laid]
    refine ⟨?_, iff_of_false (by rintro ⟨_, ⟨⟩⟩) counted, iff_of_false (by rintro ⟨_, ⟨⟩⟩) bounded,
      iff_of_false (by rintro ⟨_, ⟨⟩⟩) (not_or_intro counted bounded)⟩
    rintro _ ⟨⟩
    obtain ⟨next, chain, -⟩ := longest.ended
    exact ⟨rfl, areaEnd, limit, links, exact, longest, rfl, chain.length_mul_header_le,
      fun others next chain within => chain.prefix_of_longest within longest⟩

end DescriptorBlock

end ModeParameters

/-! ## Two enhanced phys -/

namespace ModeParameters.Sample

open DescriptorBlock

/-- A phy page that counts two phys, with descriptors of 4 and of 8 bytes. -/
def enhancedPhyPage : Bytes :=
  [0x59, 0x03, 0x00, 0x10, 0x00, 0x06, 0x00, 0x02,
   0x00, 0x09, 0x00, 0x00,
   0x00, 0x0A, 0x00, 0x04, 0x00, 0x00, 0x00, 0x00]

/-- Both descriptors of `enhancedPhyPage` are those of the longest chain. -/
theorem two_phys_chained :
    (enhancedPhyDescriptors.layout enhancedPhyPage).value =
        .ok ⟨enhancedPhyDescriptors, [8, 12], [none, none]⟩ ∧
      ∃ links, (⟨2, 2, 20⟩ : ChainRule).Longest enhancedPhyPage (some 2) 8 links ∧
        [8, 12] = enhancedPhyDescriptors.linkStarts links := by
  have laid : (enhancedPhyDescriptors.layout enhancedPhyPage).value =
      .ok ⟨enhancedPhyDescriptors, [8, 12], [none, none]⟩ := by decide +kernel
  have bounds : enhancedPhyDescriptors.exactBounds? enhancedPhyPage = some (20, some 2) := by decide
  obtain ⟨of_laid, -⟩ := @chain_layout_exact enhancedPhyDescriptors enhancedPhyPage 2 2 rfl
    ⟨by decide, by decide⟩ ⟨by decide, by decide⟩ ⟨by decide, nofun⟩
  obtain ⟨-, areaEnd, limit, links, bounds', longest, starts, -⟩ := of_laid _ laid
  cases bounds.symm.trans bounds'
  exact ⟨laid, links, longest, starts⟩

end ModeParameters.Sample
