import ModeParameters.Proofs.Editor.Reports

/-! # How far a field of a descriptor reaches

Where descriptors report their own lengths, the field of a binding starts in the descriptor that the
binding names and goes on from there. A field that ends within its descriptor touches no other one,
whether it is set or reported. Only the end of the page is checked, though: a field that is longer than
what is left of its descriptor goes on in the next one. -/

namespace ModeParameters

namespace DescriptorBlock

/-- The field of a binding is in `link`, a descriptor of the chain of a page. -/
structure Places (block : DescriptorBlock) (page : Bytes) (binding : Binding) (rule : ChainRule)
    (links : List Link) (link : Link) : Prop where
  /-- The descriptors of the page are those of the chain: `rule` says how their lengths are read. -/
  chain_eq : block.chain? page = some (rule, links)
  /-- The field is one of the descriptors, not of the page before them. -/
  firstOffset_le : block.firstOffset ≤ binding.field.span.startByte
  /-- The descriptor is the one that `binding.descriptorIndex` names. -/
  link_eq : links[binding.descriptorIndex]? = some link

/-- A field ends within a descriptor. -/
def EndsIn (block : DescriptorBlock) (rule : ChainRule) (link : Link) (field : Field) : Prop :=
  field.span.startByte - block.firstOffset + field.span.touched ≤ rule.header + link.length

end DescriptorBlock

namespace Editor

variable {σ : Type} {editor : Editor} {device : Device σ} {key : PageKey}
  {wanted : List PageControl} {state : σ} {images : PageImages} {current : PageImage}
  {plan : PagePlan} {binding : Binding} {block : DescriptorBlock} {rule : ChainRule}
  {links : List Link} {link : Link}

section

variable (planned : (editor.plan key (editor.entryOf key) current).value = .ok plan)
  (described : (editor.entryOf key).bind PageEntry.descriptors = some block)
  (places : block.Places current.page binding rule links link)
include planned described places

/-- The field of a binding is `startByte - firstOffset` bytes behind the start of its descriptor, as
its table says. -/
theorem offsetOf?_of_places :
    plan.offsetOf? binding.field binding.descriptorIndex =
      some (link.start + (binding.field.span.startByte - block.firstOffset)) := by
  obtain ⟨layout?, found, rfl⟩ := plan_eq_ok_iff.1 planned
  rw [PageEntry.layoutOf, described] at found
  obtain ⟨layout, laid, rfl⟩ := map_eq_ok_iff.1 found
  have own := DescriptorBlock.block_of_layout laid
  have start := DescriptorBlock.startOf?_of_chain? laid places.chain_eq places.link_eq
  have inside : layout.block.firstOffset ≤ binding.field.span.startByte := by
    rw [own]
    exact places.firstOffset_le
  change layout.offsetOf? binding.field binding.descriptorIndex = _
  rw [(DescriptorBlock.regular_of_layout laid).offsetOf?_of_inside inside, start, own,
    Option.map_some]

/-- The field of a binding touches bytes from its start in the descriptor on, `span.touched` of
them. -/
theorem bounds_of_places {i : Nat} (covered : plan.Covers binding i) :
    8 * (link.start + (binding.field.span.startByte - block.firstOffset)) ≤ i ∧
      i < 8 * (link.start + (binding.field.span.startByte - block.firstOffset) +
        binding.field.span.touched) := by
  obtain ⟨span, found, covers⟩ := covered
  rw [PagePlan.spanOf?, offsetOf?_of_places planned described places, Option.map_some] at found
  cases found
  exact covers.bounds

/-- The field of a binding touches no descriptor before its own, at `binding.descriptorIndex`. -/
theorem index_le_of_places {i : Nat} (covered : plan.Covers binding i) {other : Nat} {link' : Link}
    (found : links[other]? = some link') (holds : rule.Holds link' i) :
    binding.descriptorIndex ≤ other := by
  have bounds := bounds_of_places planned described places covered
  exact ChainRule.index_le_of_holds (DescriptorBlock.pairwise_of_chain? places.chain_eq)
    places.link_eq found (by omega) holds

/-- A field that `EndsIn` its descriptor touches no other one. -/
theorem holdsOnly_of_places (ends : block.EndsIn rule link binding.field) {i : Nat}
    (covered : plan.Covers binding i) : rule.HoldsOnly links binding.descriptorIndex i := by
  have bounds := bounds_of_places planned described places covered
  have holds : rule.Holds link i := by
    unfold DescriptorBlock.EndsIn at ends
    unfold ChainRule.Holds ChainRule.endOf
    omega
  exact ChainRule.holdsOnly_of_holds (DescriptorBlock.pairwise_of_chain? places.chain_eq)
    places.link_eq holds

end

/-- **A field that ends within its descriptor stays in it.** Bits that a change makes of the
response, but for the length of the mode data and the savable bit, are bits that a binding of the
request `Covers`. Its field, if it is one of a descriptor that reports its length (`Places`), lies
behind the start of this descriptor, before the end of the page unless that is waived, and in no
earlier descriptor; and if it `EndsIn` its descriptor, all its bits are of this descriptor alone.
What is then reported of the field in any variant is made of bits of this descriptor as well. -/
theorem descriptor_frame (editor : Editor) (device : Device σ) (request : Request) (state : σ) :
    (∀ parameters,
      Produces (Session.effect (editor.writeFields device request) state) parameters →
      ∃ images current plan,
        editor.Planned device request.page ((Operation.writeFields request).wanted editor.config) state
          images current plan ∧
        (∀ i, parameters.bit i ≠ current.response.bit i →
          i < 8 * editor.config.size.lengthFieldWidth ∨ i = 8 * current.offset ∨
            ∃ binding ∈ request.bindings, binding.action ≠ .query ∧ 8 * current.offset ≤ i ∧
              plan.Covers binding (i - 8 * current.offset)) ∧
        ∀ binding ∈ request.bindings, binding.action ≠ .query → ∀ block rule links link,
          (editor.entryOf request.page).bind PageEntry.descriptors = some block →
          block.Places current.page binding rule links link → ∀ i, plan.Covers binding i →
            8 * link.start ≤ i ∧
            (editor.config.flexible = false → i < 8 * current.pageLength) ∧
            (∀ other link', links[other]? = some link' → rule.Holds link' i →
              binding.descriptorIndex ≤ other) ∧
            (block.EndsIn rule link binding.field →
              rule.HoldsOnly links binding.descriptorIndex i)) ∧
    ∀ reports, (Session.effect (editor.readFields device request) state).result = .ok reports →
      ∃ images current plan,
        editor.Planned device request.page ((Operation.readFields request).wanted editor.config) state
          images current plan ∧
        List.Forall₂ (fun binding report => ∀ block rule links link,
          (editor.entryOf request.page).bind PageEntry.descriptors = some block →
          block.Places current.page binding rule links link →
          block.EndsIn rule link binding.field → ∀ control value, report.value control = some value →
            ∃ image, images.get control = some image ∧ ∀ j < binding.field.span.width,
              ∃ i, rule.HoldsOnly links binding.descriptorIndex i ∧
                value.value.testBit j = image.tail.bit i) request.bindings reports := by
  constructor
  · intro parameters produced
    obtain ⟨images, current, plan, changed, planned, folded, rfl⟩ := planned_of_produces produced
    refine ⟨images, current, plan, planned,
      fun i differs => PagePlan.exists_covers_of_bit_ne folded differs, ?_⟩
    intro binding mem sets block rule links link described places i covered
    have bounds := bounds_of_places planned.planned described places covered
    refine ⟨by omega, fun strict => ?_, fun other link' => ?_, fun ends => ?_⟩
    · obtain ⟨layout, -, rfl⟩ := plan_eq_ok_iff.1 planned.planned
      exact PagePlan.lt_of_covers folded strict mem sets covered
    · exact index_le_of_places planned.planned described places covered
    · exact holdsOnly_of_places planned.planned described places ends covered
  · intro reports done
    obtain ⟨images, current, plan, fetched, present, planned, reported⟩ :=
      result_readFields_iff.1 done
    refine ⟨images, current, plan, ⟨fetched, present, planned⟩, reported.imp ?_⟩
    intro binding report made block rule links link described places ends control value shown
    obtain ⟨image, got, bits⟩ := PagePlan.exists_covers_of_reportBinding made shown
    refine ⟨image, got, fun j inside => ?_⟩
    obtain ⟨i, covered, bit⟩ := bits j inside
    exact ⟨i, holdsOnly_of_places planned described places ends covered, bit⟩

end Editor

/-! ## A sample -/

namespace Sample

/-- The current values of a sample device with phy descriptors, as they are read with the six-byte
commands. -/
def phyImage (descriptors : Bytes) : PageImage where
  control := .current
  response := [UInt8.ofNat (11 + descriptors.length), 0x00, 0x00, 0x00, 0x59, 0x03, 0x00,
    UInt8.ofNat (4 + descriptors.length), 0x00, 0x06, 0x00, 0x02] ++ descriptors
  offset := 4
  pageLength := 8 + descriptors.length
  page_le := by simp; omega

/-- Descriptors of 16 and of 24 bytes. The capabilities, bytes 12 to 15, fill the end of the first
one. -/
def longDescriptors : Bytes :=
  [0x00, 0x09, 0x00, 0x0C, 0x00, 0x00, 0x00, 0x00, 0x00, 0x00, 0x00, 0x00, 0x11, 0x22, 0x33, 0x44,
   0x00, 0x0A, 0x00, 0x14, 0x00, 0x00, 0x00, 0x00, 0x00, 0x00, 0x00, 0x00, 0x55, 0x66, 0x77, 0x88,
   0x00, 0x00, 0x00, 0x00, 0x00, 0x00, 0x00, 0x00]

/-- Descriptors of 4 and of 24 bytes. The first one has no room for capabilities. -/
def shortDescriptors : Bytes :=
  [0x00, 0x09, 0x00, 0x00,
   0x00, 0x0A, 0x00, 0x14, 0x00, 0x00, 0x00, 0x00, 0x11, 0x22, 0x33, 0x44, 0x55, 0x66, 0x77, 0x88,
   0x00, 0x00, 0x00, 0x00, 0x00, 0x00, 0x00, 0x00]

/-- The capabilities of the first phy, as a request asks for them. -/
def capabilities (action : Action) : Binding :=
  ⟨capabilitiesField, action, none, none, none⟩

/-- A request of the capabilities of the first phy. -/
def capabilitiesRequest (action : Action) : Request :=
  ⟨enhancedPhyControl.key, [capabilities action]⟩

theorem chain?_longDescriptors :
    enhancedPhyDescriptors.chain? (phyImage longDescriptors).page =
      some (⟨2, 2, 48⟩, [⟨8, 12⟩, ⟨24, 20⟩]) := by
  decide +kernel

theorem chain?_shortDescriptors :
    enhancedPhyDescriptors.chain? (phyImage shortDescriptors).page =
      some (⟨2, 2, 36⟩, [⟨8, 0⟩, ⟨12, 20⟩]) := by
  decide +kernel

theorem places_longDescriptors (action : Action) :
    enhancedPhyDescriptors.Places (phyImage longDescriptors).page (capabilities action)
      ⟨2, 2, 48⟩ [⟨8, 12⟩, ⟨24, 20⟩] ⟨8, 12⟩ :=
  ⟨chain?_longDescriptors, Nat.le_of_ble_eq_true rfl, rfl⟩

theorem places_shortDescriptors (action : Action) :
    enhancedPhyDescriptors.Places (phyImage shortDescriptors).page (capabilities action)
      ⟨2, 2, 36⟩ [⟨8, 0⟩, ⟨12, 20⟩] ⟨8, 0⟩ :=
  ⟨chain?_shortDescriptors, Nat.le_of_ble_eq_true rfl, rfl⟩

theorem endsIn_longDescriptors (action : Action) :
    enhancedPhyDescriptors.EndsIn ⟨2, 2, 48⟩ ⟨8, 12⟩ (capabilities action).field := by
  change 20 - 8 + BitSpan.touched ⟨20, 7, 32⟩ ≤ 2 + 2 + 12
  decide

/-- The editor `sixByteEditor` knows the descriptors of the phys, and fetches their page as it
is. -/
theorem described_enhancedPhyControl :
    (sixByteEditor.entryOf enhancedPhyControl.key).bind PageEntry.descriptors =
      some enhancedPhyDescriptors := by
  decide +kernel

theorem fetch_longDescriptors :
    (Session.effect (sixByteEditor.fetch MemoryDevice.device enhancedPhyControl.key [.current])
      (phyDevice longDescriptors)).result =
        .ok { current := some (phyImage longDescriptors) } := by
  decide +kernel

/-- With the page of the `longDescriptors` only the current image is planned. -/
theorem current_of_planned {images : PageImages} {current : PageImage} {plan : PagePlan}
    (planned : sixByteEditor.Planned MemoryDevice.device enhancedPhyControl.key [.current]
      (phyDevice longDescriptors) images current plan) :
    images = { current := some (phyImage longDescriptors) } ∧
      current = phyImage longDescriptors := by
  obtain rfl := Except.ok.inj (planned.fetched.symm.trans fetch_longDescriptors)
  exact ⟨rfl, (Option.some.inj planned.present).symm⟩

/-- Capabilities at the end of a descriptor are changed and reported within this descriptor. -/
theorem long_descriptor_contained :
    let rule : ChainRule := ⟨2, 2, 48⟩
    let links : List Link := [⟨8, 12⟩, ⟨24, 20⟩]
    let binding := capabilities (.set 0xAABBCCDD)
    enhancedPhyDescriptors.Places (phyImage longDescriptors).page binding rule links ⟨8, 12⟩ ∧
      enhancedPhyDescriptors.EndsIn rule ⟨8, 12⟩ binding.field ∧
      (Session.effect (sixByteEditor.writeFields MemoryDevice.device
        (capabilitiesRequest (.set 0xAABBCCDD))) (phyDevice longDescriptors)).result =
          .ok (.written 52) ∧
      (∃ plan : PagePlan, plan.Covers binding 160 ∧
        ∀ i, plan.Covers binding i → i < 8 * 48 ∧ rule.HoldsOnly links 0 i) ∧
      (Session.effect (sixByteEditor.readFields MemoryDevice.device
        (capabilitiesRequest .query)) (phyDevice longDescriptors)).result =
          .ok [phyReport capabilitiesField 0 0x11223344] ∧
        ∀ j < 32, ∃ i, rule.HoldsOnly links 0 i ∧
          Nat.testBit 0x11223344 j = (phyImage longDescriptors).tail.bit i := by
  intro rule links binding
  have read : (Session.effect (sixByteEditor.readFields MemoryDevice.device
      (capabilitiesRequest .query)) (phyDevice longDescriptors)).result =
        .ok [phyReport capabilitiesField 0 0x11223344] := by
    decide +kernel
  refine ⟨places_longDescriptors _, endsIn_longDescriptors _, by decide +kernel, ?_, read, ?_⟩
  · let written : Bytes := [0x00, 0x00, 0x00, 0x00, 0x59, 0x03, 0x00, 0x2C, 0x00, 0x06, 0x00, 0x02,
      0x00, 0x09, 0x00, 0x0C, 0x00, 0x00, 0x00, 0x00, 0x00, 0x00, 0x00, 0x00, 0xAA, 0xBB, 0xCC, 0xDD] ++
      longDescriptors.drop 16
    have produced : Editor.Produces (Session.effect (sixByteEditor.writeFields MemoryDevice.device
        (capabilitiesRequest (.set 0xAABBCCDD))) (phyDevice longDescriptors)) written :=
      .inr ⟨⟨.six, false, written⟩, by decide +kernel, rfl⟩
    obtain ⟨images, current, plan, planned, changed, frame⟩ :=
      (Editor.descriptor_frame sixByteEditor MemoryDevice.device
        (capabilitiesRequest (.set 0xAABBCCDD)) (phyDevice longDescriptors)).1 written produced
    obtain ⟨-, rfl⟩ := current_of_planned planned
    refine ⟨plan, ?_, fun i covered => ?_⟩
    · -- the first bit of the capabilities is set by the change
      rcases changed 192 (by decide +kernel) with length | savable | ⟨_, mem, -, -, covered⟩
      · exact absurd length (by decide)
      · exact absurd savable (by decide)
      · obtain rfl := List.mem_singleton.1 mem
        exact covered
    · obtain ⟨-, within, -, only⟩ := frame binding (List.mem_singleton_self _) nofun _ _ _ _
        described_enhancedPhyControl (places_longDescriptors _) i covered
      exact ⟨within rfl, only (endsIn_longDescriptors _)⟩
  · intro j inside
    obtain ⟨images, current, plan, planned, reported⟩ :=
      (Editor.descriptor_frame sixByteEditor MemoryDevice.device
        (capabilitiesRequest .query) (phyDevice longDescriptors)).2 _ read
    obtain ⟨rfl, rfl⟩ := current_of_planned planned
    cases reported with
    | cons first none =>
      obtain ⟨image, got, bits⟩ := first _ _ _ _ described_enhancedPhyControl
        (places_longDescriptors _) (endsIn_longDescriptors _) .current _ rfl
      cases got
      exact bits j inside

/-- **The end of a descriptor is not checked.** With `shortDescriptors`, capabilities for which
their descriptor has no room are set in the next one, in strict mode too, and what is reported for
them is read from the next one. -/
theorem short_descriptor_overrun :
    let rule : ChainRule := ⟨2, 2, 36⟩
    let links : List Link := [⟨8, 0⟩, ⟨12, 20⟩]
    let page := (phyImage shortDescriptors).page
    let binding := capabilities (.set 0xAABBCCDD)
    let written : Bytes := [0x00, 0x00, 0x00, 0x00, 0x59, 0x03, 0x00, 0x20, 0x00, 0x06, 0x00, 0x02,
      0x00, 0x09, 0x00, 0x00, 0x00, 0x0A, 0x00, 0x14, 0x00, 0x00, 0x00, 0x00, 0xAA, 0xBB, 0xCC, 0xDD] ++
      shortDescriptors.drop 16
    let write := Session.effect (sixByteEditor.writeFields MemoryDevice.device
      (capabilitiesRequest (.set 0xAABBCCDD))) (phyDevice shortDescriptors)
    sixByteEditor.config.flexible = false ∧
      enhancedPhyDescriptors.Places page binding rule links ⟨8, 0⟩ ∧ binding.descriptorIndex = 0 ∧
      (Session.effect (sixByteEditor.fetch MemoryDevice.device enhancedPhyControl.key [.current])
        (phyDevice shortDescriptors)).result = .ok { current := some (phyImage shortDescriptors) } ∧
      write.result = .ok (.written 40) ∧ Command.select ⟨.six, false, written⟩ ∈ write.issued ∧
      (∃ i, written.bit (8 * 4 + i) ≠ page.bit i ∧ rule.HoldsOnly links 1 i) ∧
      (Session.effect (sixByteEditor.readFields MemoryDevice.device
        (capabilitiesRequest .query)) (phyDevice shortDescriptors)).result =
          .ok [phyReport capabilitiesField 0 0x11223344] ∧
        BitSpan.read ⟨20, 7, 32⟩ page = .ok 0x11223344 ∧
        ∀ i, (⟨20, 7, 32⟩ : BitSpan).Covers i → rule.HoldsOnly links 1 i := by
  intro rule links page binding written write
  -- the second descriptor takes bytes 12 to 35
  have second : ∀ i, 8 * 12 ≤ i → i < 8 * 36 → rule.HoldsOnly links 1 i := fun i first last =>
    ChainRule.holdsOnly_of_holds (DescriptorBlock.pairwise_of_chain? chain?_shortDescriptors) rfl
      ⟨first, last⟩
  refine ⟨rfl, places_shortDescriptors _, rfl, by decide +kernel, by decide +kernel, by decide +kernel,
    ⟨160, by decide +kernel, second _ (by decide) (by decide)⟩, by decide +kernel,
    by decide +kernel, fun i covered => ?_⟩
  have bounds := covered.bounds
  have touched : BitSpan.touched ⟨20, 7, 32⟩ = 4 := rfl
  refine second i ?_ ?_
  all_goals
    dsimp only at bounds
    omega

end Sample

end ModeParameters
