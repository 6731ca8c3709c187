import ModeParameters.Proofs.Editor.Reports

/-! # Setting fields and reading them back

On a conforming device what was set is what is read. The two halves meet at the page that the device
holds after the write: the first says which bits it has, the second says that a request is reported
from these bits. -/

namespace ModeParameters.Editor

variable {σ : Type} {editor : Editor} {device : Device σ} {state after : σ} {request : Request}
  {held : σ → PageControl → Option ModeData} {steady : σ → Prop} {data : ModeData}
  {layout : Option Layout}

/-! ## The page after a write -/

/-- The page in parameters that were made from mode data: it stands where it stood, at
`data.offset`, and its bits are those of the page as far as no binding set them. -/
theorem page_of_parameters {plan : PagePlan} {size : CommandSize} {key : PageKey}
    {bindings : List Binding} {parameters : Bytes} (wellFormed : data.WellFormed size key)
    (length : parameters.length = data.bytes.length)
    (bits : ∀ i, parameters.bit i =
      if i < 8 * size.lengthFieldWidth ∨ i = 8 * data.offset then false
      else (plan.lastBitSet? data.offset i bindings).getD (data.bytes.bit i)) :
    ModeHeader.pageOffsetAt size parameters = data.offset ∧
      (parameters.drop data.offset).length = data.page.length ∧
      ∀ i, 0 < i → Bytes.bit (parameters.drop data.offset) i =
        (plan.lastBitSet? 0 i bindings).getD (data.page.bit i) := by
  have header := wellFormed.headerLength_le_offset
  have field := size.lengthFieldWidth_le_headerLength
  refine ⟨?_, ?_, fun i positive => ?_⟩
  · -- the length of the block descriptors is neither cleared nor set
    rw [← wellFormed.offset_eq]
    apply ModeHeader.pageOffsetAt_congr
    intro i behind inHeader
    rw [bits, if_neg (by omega), PagePlan.lastBitSet?_before (by omega), Option.getD_none]
  · rw [List.length_drop, length, data.length_bytes]
    omega
  · -- a bit of the page, but the first one, lies behind the length field
    rw [Bytes.bit_drop, bits, if_neg (by omega), PagePlan.lastBitSet?_add, data.bit_page]

/-- A page of the same length whose header no binding set can replace the page, as `Replaces`
says. -/
theorem replaces_of_bits {plan : PagePlan} {bindings : List Binding} {page new : Bytes}
    (body : ∀ binding ∈ bindings, ∀ i, plan.Covers binding i → 8 * Page.headerLengthAt page 0 ≤ i)
    (length : new.length = page.length)
    (bits : ∀ i, 0 < i → new.bit i = (plan.lastBitSet? 0 i bindings).getD (page.bit i)) :
    Page.Replaces new page where
  length_eq := length
  sameHeader k positive inHeader := by
    have unset : plan.lastBitSet? 0 k bindings = none := by
      apply PagePlan.lastBitSet?_eq_none
      intro binding mem covered
      have behind := body binding mem k covered
      omega
    rw [show 8 * 0 + k = k by omega, bits k positive, unset, Option.getD_none]

/-- A device that `Conforms` and accepts such parameters holds the page with these bits
afterwards. -/
theorem page_after_select {size : CommandSize} {withoutBlockDescriptors : Bool} {key : PageKey}
    {plan : PagePlan} {bindings : List Binding} (write : SelectRequest)
    (conforms : device.Conforms size withoutBlockDescriptors key held steady) (calm : steady state)
    (holds : held state .current = some data) (form : write.size = size)
    (body : ∀ binding ∈ bindings, ∀ i, plan.Covers binding i →
      8 * Page.headerLengthAt data.page 0 ≤ i)
    (length : write.parameters.length = data.bytes.length)
    (bits : ∀ i, write.parameters.bit i =
      if i < 8 * size.lengthFieldWidth ∨ i = 8 * data.offset then false
      else (plan.lastBitSet? data.offset i bindings).getD (data.bytes.bit i))
    (accepted : (device.select write state).1 = .ok ()) :
    steady (device.select write state).2 ∧
      ∃ data', held (device.select write state).2 .current = some data' ∧
        data'.page.length = data.page.length ∧
        ∀ i, data'.page.bit i = (plan.lastBitSet? 0 i bindings).getD (data.page.bit i) := by
  have wellFormed := conforms.wellFormed state calm _ _ holds
  obtain ⟨offset, page_length, page_bits⟩ := page_of_parameters wellFormed length bits
  have replaces := replaces_of_bits body page_length page_bits
  rw [← offset] at replaces page_length page_bits
  obtain ⟨later, data', stored, kept⟩ :=
    conforms.stores state calm write data form holds replaces accepted
  refine ⟨later, data', stored, kept.length_eq.trans page_length, fun i => ?_⟩
  by_cases savable : i = 0
  · -- the device keeps its savable bit, and no binding sets a bit of the header
    have unset : plan.lastBitSet? 0 0 bindings = none := by
      apply PagePlan.lastBitSet?_eq_none
      intro binding mem covered
      have behind := body binding mem 0 covered
      have positive : 0 < Page.headerLengthAt data.page 0 := Page.headerLengthAt_pos
      omega
    rw [savable, kept.savable_eq, unset, Option.getD_none]
  · rw [kept.bit_eq i (by omega), page_bits i (by omega)]

/-- **The page after a write** has the bits that `lastBitSet?` gives, and its own where that is
`none`; the bindings that set were all located within it. -/
theorem page_after_write
    (conforms : device.Conforms editor.config.size editor.config.withoutBlockDescriptors request.page
      held steady)
    (calm : steady state) (holds : held state .current = some data)
    (laid : PageEntry.layoutOf (editor.entryOf request.page) data.page = .ok layout)
    (body : ∀ binding ∈ request.bindings, ∀ i,
      (editor.planOf request.page layout data.page).Covers binding i →
        8 * Page.headerLengthAt data.page 0 ≤ i)
    {length : Nat} {issued : List Command}
    (written : Session.effect (editor.writeFields device request) state =
      ⟨.ok (.written length), issued, after⟩) :
    let plan := editor.planOf request.page layout data.page
    steady after ∧
      (∃ data', held after .current = some data' ∧ data'.page.length = data.page.length ∧
        ∀ i, data'.page.bit i =
          (plan.lastBitSet? 0 i request.bindings).getD (data.page.bit i)) ∧
      ∀ binding ∈ request.bindings, ∀ value, binding.action = .set value →
        ∃ start, (plan.locate binding.field binding.label binding.descriptorIndex).value = .ok start ∧
          BitSpan.Within { binding.field.span with startByte := start } data.page.length := by
  intro plan
  rcases edit_cases editor device request.page ((Operation.writeFields request).wanted editor.config)
    (editor.applyRequest request) state with
    ⟨e, failed, -⟩ | ⟨images, current, changed, fetched, present, applied, done⟩
  · cases (congrArg Effect.result written).symm.trans failed
  · have finished := written.symm.trans done
    -- what was fetched is what the device holds
    obtain ⟨data', current', holds', present', shows⟩ := shows_of_fetch conforms calm fetched
    obtain rfl : data' = data := Option.some.inj (holds'.symm.trans holds)
    obtain rfl : current' = current := Option.some.inj (present'.symm.trans present)
    obtain ⟨plan', planned, folded⟩ := applyRequest_eq_ok_iff.1 applied
    obtain ⟨layout', laid', rfl⟩ := (plan_of_shows shows).1 planned
    obtain rfl : layout' = layout := Except.ok.inj (laid'.symm.trans laid)
    -- the parameters carry the changed page, and the device accepted them
    obtain ⟨length_eq, bits⟩ := PagePlan.bit_parameters folded editor.config.size
    rw [shows.response_eq] at length_eq
    simp only [shows.response_eq, shows.offset_eq] at bits
    obtain ⟨still, same⟩ := held_after_fetch conforms calm
      ((Operation.writeFields request).wanted editor.config)
    obtain ⟨accepted, final⟩ := accepted_of_written (congrArg Effect.result finished).symm
    have after_eq : after = _ := (congrArg Effect.final finished).trans final
    have holds_still : held (Session.effect (editor.fetch device request.page
        ((Operation.writeFields request).wanted editor.config)) state).final .current = some data' := by
      rw [same]
      exact holds
    obtain ⟨later, page⟩ := page_after_select
      (editor.selectRequest (changed.forSelect editor.config.size).response) conforms still holds_still
      rfl body length_eq bits accepted
    rw [after_eq]
    refine ⟨later, page, fun binding mem value sets => ?_⟩
    obtain ⟨start, located, within⟩ := PagePlan.located_of_foldlM folded binding mem value sets
    rw [shows.tail_eq] at within
    exact ⟨start, located, within⟩

/-! ## The values after a write -/

/-- A binding that set its field gets the number that it set, `FieldValue.ofNat` of it in the width
of the field. -/
theorem gets_of_set {plan plan' : PagePlan} {bindings : List Binding} {binding : Binding}
    {page page' : Bytes} {value start : Nat} (same : plan.SamePlaces plan')
    (apart : bindings.Pairwise plan.Apart) (mem : binding ∈ bindings)
    (sets : binding.action = .set value)
    (located : (plan.locate binding.field binding.label binding.descriptorIndex).value = .ok start)
    (within : BitSpan.Within { binding.field.span with startByte := start } page'.length)
    (bits : ∀ i, page'.bit i = (plan.lastBitSet? 0 i bindings).getD (page.bit i)) :
    plan'.Gets page' binding
      (.ofNat (value % (1 <<< binding.field.span.width)) binding.field.span.width) := by
  refine ⟨start, same.locate_iff.2 located, Field.valueIn?_eq_some_iff.2 ⟨_, ?_, rfl⟩⟩
  refine BitSpan.read_of_bits within fun i covered => ?_
  -- every covered bit has its last word from this binding
  have set := PagePlan.bitSet?_of_covers sets (PagePlan.spanOf?_of_locate located) covered
  rw [bits, PagePlan.lastBitSet?_of_apart apart mem set, Option.getD_some]

/-- A binding that is `Apart` from all that set gets the value that it got before. -/
theorem gets_of_apart {plan plan' : PagePlan} {bindings : List Binding} {binding : Binding}
    {page page' : Bytes} {value : FieldValue} (same : plan.SamePlaces plan')
    (apart : ∀ set ∈ bindings, plan.Apart set binding) (length : page'.length = page.length)
    (bits : ∀ i, page'.bit i = (plan.lastBitSet? 0 i bindings).getD (page.bit i))
    (got : plan.Gets page binding value) : plan'.Gets page' binding value := by
  refine got.congr same length fun i covered => ?_
  have unset : plan.lastBitSet? 0 i bindings = none := by
    apply PagePlan.lastBitSet?_eq_none
    intro set mem sets
    exact apart set mem i ⟨sets, covered⟩
  rw [bits, unset, Option.getD_none]

/-- Lists that match a third one match each other, element by element. -/
theorem forall₂_zip_left {α β γ : Type} {R : α → β → Prop} {S : α → γ → Prop} {xs : List α}
    {ys : List β} {zs : List γ} (h : List.Forall₂ R xs ys) (h' : List.Forall₂ S xs zs) :
    List.Forall₂ (fun pair z => R pair.1 pair.2 ∧ S pair.1 z) (xs.zip ys) zs := by
  induction h generalizing zs with
  | nil =>
    cases h'
    exact .nil
  | cons first _ ih =>
    cases h' with
    | cons second others => exact .cons ⟨first, second⟩ (ih others)

/-! ## The reports after a write -/

/-- A page whose descriptors have the same `startsOf` has the fields where they were. -/
theorem samePlaces_of_startsOf {key : PageKey} {page page' : Bytes}
    (laid : PageEntry.layoutOf (editor.entryOf key) page = .ok layout)
    (length : page'.length = page.length)
    (unmoved : PageEntry.startsOf (editor.entryOf key) page' =
      PageEntry.startsOf (editor.entryOf key) page) :
    ∃ layout', PageEntry.layoutOf (editor.entryOf key) page' = .ok layout' ∧
      (editor.planOf key layout page).SamePlaces (editor.planOf key layout' page') := by
  rw [PageEntry.startsOf, PageEntry.startsOf, laid] at unmoved
  obtain ⟨layout', laid', starts⟩ := map_eq_ok_iff.1 unmoved
  refine ⟨layout', laid', ?_⟩
  unfold planOf
  rw [length]
  exact PageEntry.samePlaces_of_starts laid laid' starts _ _ _

section

variable (request) {plan : PagePlan} {page : Bytes}
  (conforms : device.Conforms editor.config.size editor.config.withoutBlockDescriptors request.page
    held steady)
  (calm : steady state) (holds : held state .current = some data)
  (shorter : editor.config.allVariants = true → ∀ control other,
    held state control = some other → other.bytes.length ≤ data.bytes.length)
  (laid : PageEntry.layoutOf (editor.entryOf request.page) data.page = .ok layout)
  (same : plan.SamePlaces (editor.planOf request.page layout data.page))
include conforms calm holds shorter laid same

/-- Fields that were set are reported with the numbers that were set, each cut to its width by
`FieldValue.ofNat`. -/
theorem reports_of_set (sets : ∀ binding ∈ request.bindings, binding.action ≠ .query)
    (apart : request.bindings.Pairwise plan.Apart)
    (bits : ∀ i, data.page.bit i = (plan.lastBitSet? 0 i request.bindings).getD (page.bit i))
    (located : ∀ binding ∈ request.bindings, ∀ value, binding.action = .set value → ∃ start,
      (plan.locate binding.field binding.label binding.descriptorIndex).value = .ok start ∧
        BitSpan.Within { binding.field.span with startByte := start } data.page.length) :
    ∃ reports, (Session.effect (editor.readFields device request) state).result = .ok reports ∧
      List.Forall₂ (fun binding report => ∀ value, binding.action = .set value →
        report.current =
          some (.ofNat (value % (1 <<< binding.field.span.width)) binding.field.span.width))
        request.bindings reports := by
  have gets : ∀ binding ∈ request.bindings, ∀ value, binding.action = .set value →
      (editor.planOf request.page layout data.page).Gets data.page binding
        (.ofNat (value % (1 <<< binding.field.span.width)) binding.field.span.width) := by
    intro binding mem value set
    obtain ⟨start, place, within⟩ := located binding mem value set
    exact gets_of_set same apart mem set place within bits
  have each : ∀ binding ∈ request.bindings, ∃ value,
      (editor.planOf request.page layout data.page).Gets data.page binding value := by
    intro binding mem
    cases action : binding.action with
    | query => exact absurd action (sets binding mem)
    | set value => exact ⟨_, gets binding mem value action⟩
  obtain ⟨reports, done, reported⟩ := readFields_of_gets request conforms calm holds shorter laid each
  refine ⟨reports, done, ?_⟩
  have both := (List.forall₂_and_left _ _).2 ⟨gets, reported⟩
  refine both.imp fun binding report ⟨set, current⟩ value action => ?_
  obtain ⟨value', filled, got⟩ := current
  rw [filled, (set value action).unique got]

/-- Fields that had values are reported again, with the same values where they are `Apart` from
those that were set. -/
theorem reports_of_apart {bindings : List Binding} {before : List FieldReport}
    (length : data.page.length = page.length)
    (bits : ∀ i, data.page.bit i = (plan.lastBitSet? 0 i bindings).getD (page.bit i))
    (old : List.Forall₂ (fun binding report => ∃ value, report.current = some value ∧
      plan.Gets page binding value) request.bindings before) :
    ∃ reports, (Session.effect (editor.readFields device request) state).result = .ok reports ∧
      List.Forall₂ (fun (pair : Binding × FieldReport) report =>
        (∀ set ∈ bindings, plan.Apart set pair.1) → report.current = pair.2.current)
        (request.bindings.zip before) reports := by
  have had : ∀ binding ∈ request.bindings, ∃ value, plan.Gets page binding value :=
    of_forall₂_left (old.imp fun binding report ⟨value, _, got⟩ => ⟨value, got⟩)
  have each : ∀ binding ∈ request.bindings, ∃ value,
      (editor.planOf request.page layout data.page).Gets data.page binding value := by
    intro binding mem
    obtain ⟨value, got⟩ := had binding mem
    exact got.exists_of_length same length
  obtain ⟨reports, done, reported⟩ := readFields_of_gets request conforms calm holds shorter laid each
  refine ⟨reports, done, (forall₂_zip_left old reported).imp fun pair report both alone => ?_⟩
  obtain ⟨⟨value, was_filled, got⟩, value', filled, got'⟩ := both
  rw [was_filled, filled, (gets_of_apart same alone length bits got).unique got']

end

/-- **Set, then get.** On a device that `Conforms`, bindings are set that share no bit, leave the
page header alone and do not move the descriptors. Then a request for the same fields is reported
with the numbers that were set, each cut to the width of its field. And a request that was reported
before the write is reported after it, with the same current value in every field that is `Apart`
from those set. Where all variants are reported, this holds as long as none of them is longer than
the current values. -/
theorem set_then_get
    (conforms : device.Conforms editor.config.size editor.config.withoutBlockDescriptors request.page
      held steady)
    (calm : steady state) (holds : held state .current = some data)
    (laid : PageEntry.layoutOf (editor.entryOf request.page) data.page = .ok layout)
    (sets : ∀ binding ∈ request.bindings, binding.action ≠ .query)
    (apart : request.bindings.Pairwise (editor.planOf request.page layout data.page).Apart)
    (body : ∀ binding ∈ request.bindings, ∀ i,
      (editor.planOf request.page layout data.page).Covers binding i →
        8 * Page.headerLengthAt data.page 0 ≤ i)
    {length : Nat} {issued : List Command}
    (written : Session.effect (editor.writeFields device request) state =
      ⟨.ok (.written length), issued, after⟩)
    (starts : ∀ data', held after .current = some data' →
      PageEntry.startsOf (editor.entryOf request.page) data'.page =
        PageEntry.startsOf (editor.entryOf request.page) data.page)
    (shorter : editor.config.allVariants = true → ∀ data' control other,
      held after .current = some data' → held after control = some other →
        other.bytes.length ≤ data'.bytes.length) :
    (∃ reports, (Session.effect (editor.readFields device request) after).result = .ok reports ∧
      List.Forall₂ (fun binding report => ∀ value, binding.action = .set value →
        report.current =
          some (.ofNat (value % (1 <<< binding.field.span.width)) binding.field.span.width))
        request.bindings reports) ∧
    ∀ (others : List Binding) (earlier : σ) (reads : List SenseRequest) (before : List FieldReport),
      steady earlier → device.afterReads reads earlier = state →
      (Session.effect (editor.readFields device ⟨request.page, others⟩) earlier).result = .ok before →
      ∃ reports, (Session.effect (editor.readFields device ⟨request.page, others⟩) after).result =
          .ok reports ∧
        List.Forall₂ (fun (pair : Binding × FieldReport) report =>
          (∀ set ∈ request.bindings,
            (editor.planOf request.page layout data.page).Apart set pair.1) →
          report.current = pair.2.current) (others.zip before) reports := by
  obtain ⟨later, ⟨data', holds', length_eq, bits⟩, located⟩ :=
    page_after_write conforms calm holds laid body written
  -- the fields are where they were
  obtain ⟨layout', laid', same⟩ := samePlaces_of_startsOf laid length_eq (starts data' holds')
  have fits : editor.config.allVariants = true → ∀ control other,
      held after control = some other → other.bytes.length ≤ data'.bytes.length :=
    fun all control other there => shorter all data' control other holds' there
  constructor
  · rw [← length_eq] at located
    exact reports_of_set request conforms later holds' fits laid' same sets apart bits located
  · intro others earlier reads before calm_earlier read_earlier was
    obtain ⟨-, held_earlier⟩ := conforms.keeps_afterReads calm_earlier reads
    obtain ⟨data'', layout'', holds'', laid'', old⟩ :=
      gets_of_readFields ⟨request.page, others⟩ conforms calm_earlier was
    -- the earlier reports are of the page that the write found
    rw [← held_earlier, read_earlier, holds] at holds''
    cases holds''
    obtain rfl : layout'' = layout := Except.ok.inj (laid''.symm.trans laid)
    exact reports_of_apart ⟨request.page, others⟩ conforms later holds' fits laid' same length_eq bits old

end ModeParameters.Editor

/-! ## A sample -/

namespace ModeParameters.Sample

/-- A device whose default values of the caching page are longer than the current ones. -/
def longDefaultDevice : MemoryDevice where
  identity := cachingDevice.identity
  pages := [((.current, caching.key), [0x88, 0x02, 0x04, 0x00]),
    ((.default, caching.key), [0x88, 0x06, 0x01, 0x00, 0x00, 0x00, 0xFF, 0xFF])]

/-- A request to clear one bit of the caching page. -/
def clearRequest : Request :=
  ⟨caching.key, [⟨.ofSpan caching.key ⟨2, 2, 1⟩, .set 0, none, none, none⟩]⟩

/-- A request to clear the bit of `clearRequest` and to set the high four bits of the next byte to a
number that is too wide for them. -/
def pairRequest : Request :=
  ⟨caching.key, [⟨.ofSpan caching.key ⟨2, 2, 1⟩, .set 0, none, none, none⟩,
    ⟨.ofSpan caching.key ⟨3, 7, 4⟩, .set 26, none, none, none⟩]⟩

/-- A request for the length byte of the caching page. -/
def lengthRequest : Request :=
  ⟨caching.key, [⟨.ofSpan caching.key ⟨1, 7, 8⟩, .query, none, none, none⟩]⟩

theorem page?_longDefaultDevice {control : PageControl} {page : Bytes}
    (present : longDefaultDevice.page? control caching.key = some page) :
    page = [0x88, 0x02, 0x04, 0x00] ∨
      page = [0x88, 0x06, 0x01, 0x00, 0x00, 0x00, 0xFF, 0xFF] := by
  cases control with
  | current => exact .inl (Option.some.inj present).symm
  | default => exact .inr (Option.some.inj present).symm
  | changeable => cases present
  | saved => cases present

theorem longDefaultDevice_steady :
    MemoryDevice.Steady .six false caching.key longDefaultDevice := by
  constructor
  · intro control page present
    rcases page?_longDefaultDevice present with rfl | rfl
    · exact ⟨by decide, by decide, by decide, by decide⟩
    · exact ⟨by decide, by decide, by decide, by decide⟩
  · intro control page present
    rcases page?_longDefaultDevice present with rfl | rfl
    · decide
    · decide
  · intro control page present
    rcases page?_longDefaultDevice present with rfl | rfl
    · decide
    · decide
  · intro page present
    cases present
    decide
  · intro page present
    cases present
    decide

/-- A field without a descriptor covers the bits of its span, those that `BitSpan.Covers` says. -/
theorem covers_ofSpan {plan : PagePlan} {key : PageKey} {span : BitSpan} {action : Action}
    {i : Nat} (flat : plan.layout = none) :
    plan.Covers ⟨.ofSpan key span, action, none, none, none⟩ i ↔ span.Covers i := by
  have found : plan.spanOf? ⟨.ofSpan key span, action, none, none, none⟩ = some span := by
    rw [PagePlan.spanOf?, PagePlan.offsetOf?, flat]
    rfl
  rw [PagePlan.Covers, found]
  constructor
  · rintro ⟨span', same, covered⟩
    cases same
    exact covered
  · intro covered
    exact ⟨span, rfl, covered⟩

/-- Fields without a descriptor are `Apart` if the span of one ends before that of the other. -/
theorem apart_ofSpan {plan : PagePlan} {key : PageKey} {span span' : BitSpan}
    {action action' : Action} (flat : plan.layout = none)
    (disjoint : span.firstBit + span.width ≤ span'.firstBit ∨
      span'.firstBit + span'.width ≤ span.firstBit) :
    plan.Apart ⟨.ofSpan key span, action, none, none, none⟩
      ⟨.ofSpan key span', action', none, none, none⟩ := by
  intro i ⟨covered, covered'⟩
  have bits := (covers_ofSpan flat).1 covered
  have bits' := (covers_ofSpan flat).1 covered'
  unfold BitSpan.Covers at bits bits'
  omega

/-- The fields of `pairRequest` share no bit with the length byte. -/
theorem pairRequest_apart {plan : PagePlan} (flat : plan.layout = none) :
    ∀ set ∈ pairRequest.bindings, ∀ binding ∈ lengthRequest.bindings, plan.Apart set binding := by
  intro set mem binding mem'
  obtain rfl := List.mem_singleton.1 mem'
  rcases List.mem_pair.1 mem with rfl | rfl
  · exact apart_ofSpan flat (by decide)
  · exact apart_ofSpan flat (by decide)

/-- The fields of `pairRequest` leave the header of the page alone. -/
theorem pairRequest_body (editor : Editor) :
    ∀ binding ∈ pairRequest.bindings, ∀ i,
      (editor.planOf pairRequest.page none [0x88, 0x02, 0x04, 0x00]).Covers binding i →
        8 * Page.headerLengthAt [0x88, 0x02, 0x04, 0x00] 0 ≤ i := by
  intro binding mem i covered
  have header : Page.headerLengthAt [0x88, 0x02, 0x04, 0x00] 0 = 2 := by decide
  rcases List.mem_pair.1 mem with rfl | rfl
  · have first : 21 ≤ i := ((covers_ofSpan rfl).1 covered).1
    omega
  · have first : 24 ≤ i := ((covers_ofSpan rfl).1 covered).1
    omega

/-- The current values that `readFields` reports for a request. -/
def currentValues (editor : Editor) (request : Request) (device : MemoryDevice) :
    Except Error (List (Option FieldValue)) :=
  (Session.effect (editor.readFields MemoryDevice.device request) device).result.map
    (List.map FieldReport.current)

/-- Both fields of `pairRequest` are read back from the sample device, the one that was set to 26 as the
10 that its four bits hold, and the length byte of the page is what it was. -/
theorem cleared_then_read :
    let write := Session.effect (sixByteEditor.writeFields MemoryDevice.device pairRequest)
      longDefaultDevice
    write.result = .ok (.written 8) ∧
      currentValues sixByteEditor pairRequest write.final =
        .ok [some (.ofNat 0 1), some (.ofNat 10 4)] ∧
      currentValues sixByteEditor lengthRequest longDefaultDevice = .ok [some (.ofNat 2 8)] ∧
      currentValues sixByteEditor lengthRequest write.final = .ok [some (.ofNat 2 8)] := by
  intro write
  have written : Session.effect (sixByteEditor.writeFields MemoryDevice.device pairRequest)
      longDefaultDevice = ⟨.ok (.written 8), write.issued, write.final⟩ := rfl
  have starts : ∀ data', MemoryDevice.held .six false caching.key write.final .current = some data' →
      PageEntry.startsOf (sixByteEditor.entryOf caching.key) data'.page = .ok none := by
    intro data' stored
    cases stored
    rfl
  obtain ⟨back, others⟩ := Editor.set_then_get (MemoryDevice.conforms .six false caching.key)
    longDefaultDevice_steady rfl rfl (by decide)
    (List.pairwise_pair.2 (apart_ofSpan rfl (by decide))) (pairRequest_body sixByteEditor) written
    starts (fun all => by cases all)
  have was : currentValues sixByteEditor lengthRequest longDefaultDevice =
      .ok [some (.ofNat 2 8)] := by
    decide +kernel
  refine ⟨rfl, ?_, was, ?_⟩
  · obtain ⟨reports, done, reported⟩ := back
    cases reported with
    | cons first rest =>
      cases rest with
      | cons second none =>
        cases none
        refine map_eq_ok_iff.2 ⟨_, done, ?_⟩
        rw [List.map_cons, List.map_cons, List.map_nil, first 0 rfl, second 26 rfl]
        rfl
  · obtain ⟨reports, read, reported⟩ := map_eq_ok_iff.1 was
    obtain ⟨before, rfl, same⟩ := List.map_eq_singleton_iff.1 reported
    obtain ⟨reports, done, unchanged⟩ :=
      others lengthRequest.bindings longDefaultDevice [] _ longDefaultDevice_steady rfl read
    cases unchanged with
    | cons first none =>
      cases none
      have kept := first fun set mem =>
        pairRequest_apart rfl set mem _ (List.mem_singleton_self _)
      refine map_eq_ok_iff.2 ⟨_, done, ?_⟩
      rw [List.map_singleton, kept, ← same]

/-- The editor with the six-byte commands that reports every variant of a field. -/
def allVariantsEditor : Editor := ⟨registry, { size := .six, allVariants := true }, none⟩

/-- **The other variants matter** where `allVariants` is set: the bit is cleared on the same device,
under the same conditions, but it is not reported afterwards, since the default values do not fit
what is allocated for the current ones. -/
theorem cleared_then_refused :
    let write := Session.effect (allVariantsEditor.writeFields MemoryDevice.device clearRequest)
      longDefaultDevice
    let held := MemoryDevice.held .six false caching.key
    let steady := MemoryDevice.Steady .six false caching.key
    ∃ data, MemoryDevice.device.Conforms .six false caching.key held steady ∧
      steady longDefaultDevice ∧ held longDefaultDevice .current = some data ∧
      PageEntry.layoutOf (allVariantsEditor.entryOf caching.key) data.page = .ok none ∧
      (∀ binding ∈ clearRequest.bindings, binding.action ≠ .query) ∧
      clearRequest.bindings.Pairwise (allVariantsEditor.planOf caching.key none data.page).Apart ∧
      (∀ binding ∈ clearRequest.bindings, ∀ i,
        (allVariantsEditor.planOf caching.key none data.page).Covers binding i →
          8 * Page.headerLengthAt data.page 0 ≤ i) ∧
      write.result = .ok (.written 8) ∧
      (∀ data', held write.final .current = some data' →
        PageEntry.startsOf (allVariantsEditor.entryOf caching.key) data'.page =
          PageEntry.startsOf (allVariantsEditor.entryOf caching.key) data.page) ∧
      (Session.effect (allVariantsEditor.readFields MemoryDevice.device clearRequest)
        write.final).result = .error (.response (.exceedsAllocation caching.key 12 8)) := by
  intro write held steady
  refine ⟨_, MemoryDevice.conforms _ _ _, longDefaultDevice_steady, rfl, rfl, by decide,
    List.pairwise_singleton _ _, ?_, rfl, ?_, ?_⟩
  · intro binding mem
    exact pairRequest_body _ binding (List.mem_cons.2 (.inl (List.mem_singleton.1 mem)))
  · intro data' stored
    cases stored
    rfl
  · decide +kernel

end ModeParameters.Sample
