import ModeParameters.Proofs.Descriptor.Counting
import ModeParameters.Proofs.Editor.Acceptance

/-! # Addresses that are no 64-bit numbers

The end of a field is compared with the end of the page without a sum that could be too large. The
start of a field in a later descriptor, though, is itself a sum: of the byte that the binding says and of
how far the descriptor is from the first one. For descriptors like those of the port pages this is the
only sum on the way to a field that can exceed 64 bits, and it does so only for bindings that say one of
the last bytes of the address space. Every other field that is not in the page is refused as such. -/

namespace ModeParameters

open Text (wordLimit)

/-! ## Descriptors of port pages -/

namespace DescriptorBlock

/-- Descriptors like those of the port pages: from byte 8 on, of 48 bytes each or each with a length
of its own. The offsets of length fields and of ids are such that they can be added to a place in a
page without reaching `wordLimit`. -/
structure PortShaped (block : DescriptorBlock) : Prop where
  /-- The first one starts at byte 8. -/
  firstOffset_eq : block.firstOffset = 8
  /-- They have 48 bytes, or report their lengths. -/
  stride : block.stride = .fixed 48 ∨ ∃ lengthOffset lengthWidth,
    block.stride = .variable lengthOffset lengthWidth ∧ 8 + (lengthOffset + lengthWidth) < wordLimit
  /-- The id byte of a descriptor in the first `0x10000` bytes has an address. -/
  idOffset : ∀ offset, block.idOffset = some offset → 0x10000 + offset ≤ wordLimit

/-- The phy descriptors are `PortShaped`. -/
example : Sample.phyDescriptors.PortShaped := ⟨rfl, .inl rfl, nofun⟩

/-- So are the enhanced ones. -/
example : Sample.enhancedPhyDescriptors.PortShaped := ⟨rfl, .inr ⟨2, 2, rfl, by decide⟩, nofun⟩

/-- An error of a count: it cannot be read (`countField`), or it is too large
(`implausibleCount`). -/
def OfCount (block : DescriptorBlock) (e : DescriptorError) : Prop :=
  (∃ cause, e = .countField block.name cause) ∨ ∃ count, e = .implausibleCount block.name count

variable {block : DescriptorBlock} {page : Bytes} {starts : List Nat} {name : String}

theorem not_ofCount_addressOverflow : ¬ block.OfCount (.addressOverflow name) := by
  rintro (⟨_, other⟩ | ⟨_, other⟩) <;> cases other

/-- A count is found that a page may have, or the error is `OfCount`. -/
def Counts (block : DescriptorBlock) (x : Except DescriptorError Nat) : Prop :=
  (∃ count ≤ maxDescriptorCount, x = .ok count) ∨ ∃ e, x = .error e ∧ block.OfCount e

/-- Counting descriptors by `declaredCount` takes no sum of addresses. -/
theorem counts_declaredCount (block : DescriptorBlock) (page : Bytes) (stride : Nat) :
    block.Counts (block.declaredCount page stride) := by
  have judged (count : Nat) : block.Counts (if maxDescriptorCount < count then
      .error (.implausibleCount block.name count) else .ok count) := by
    split
    · exact .inr ⟨_, rfl, .inr ⟨_, rfl⟩⟩
    · next few => exact .inl ⟨count, Nat.not_lt.1 few, rfl⟩
  unfold declaredCount
  cases block.count with
  | untilPageEnd => exact judged _
  | byteLength offset width | counted offset width =>
    dsimp only
    rcases block.readCountField_cases page offset width with ⟨-, cause, failed⟩ | ⟨n, -, read⟩
    · rw [failed]
      exact .inr ⟨_, rfl, .inl ⟨cause, rfl⟩⟩
    · rw [read]
      exact judged _

/-- The area of a chain (`chainBounds`) lies in the page, or there is none for the count. -/
theorem chainBounds_outcome (block : DescriptorBlock) (page : Bytes) :
    (∃ areaEnd ≤ page.length, ∃ wanted, block.chainBounds page = .ok (areaEnd, wanted)) ∨
      ∃ e, block.chainBounds page = .error e ∧ block.OfCount e := by
  have inPage := pageEnd_le_length page
  unfold chainBounds
  cases block.count with
  | untilPageEnd => exact .inl ⟨_, inPage, none, rfl⟩
  | byteLength offset width extra =>
    dsimp only
    rcases block.readCountField_cases page offset width with ⟨-, cause, failed⟩ | ⟨n, -, read⟩
    · rw [failed]
      exact .inr ⟨_, rfl, .inl ⟨cause, rfl⟩⟩
    · rw [read]
      exact .inl ⟨_, Nat.le_trans (Nat.min_le_right _ _) inPage, none, rfl⟩
  | counted offset width increment =>
    dsimp only
    rcases block.counts_declaredCount page 1 with ⟨count, -, read⟩ | ⟨e, failed, counting⟩
    · rw [read]
      exact .inl ⟨_, inPage, some count, rfl⟩
    · rw [failed]
      exact .inr ⟨e, rfl, counting⟩

/-- **Port descriptors start within the first 65536 bytes** (`startsIn`), or are not found for their
count. -/
theorem PortShaped.startsIn_outcome (shaped : block.PortShaped) (short : page.length < 0x10000) :
    (∃ starts, block.startsIn page = .ok starts ∧ ∀ start ∈ starts, start < 0x10000) ∨
      ∃ e, block.startsIn page = .error e ∧ block.OfCount e := by
  unfold startsIn
  rcases shaped.stride with even | ⟨lengthOffset, lengthWidth, varying, header⟩
  · rw [even]
    change (∃ starts, (block.fixedStarts page 48).value = .ok starts ∧ _) ∨
      ∃ e, (block.fixedStarts page 48).value = .error e ∧ _
    rw [value_fixedStarts]
    rcases block.counts_declaredCount page 48 with ⟨count, few, read⟩ | ⟨e, failed, counting⟩
    · rw [read, Except.bind, if_neg]
      · refine .inl ⟨_, rfl, fun start mem => ?_⟩
        obtain ⟨index, inside, rfl⟩ := List.mem_map.1 mem
        rw [List.mem_range] at inside
        rw [shaped.firstOffset_eq]
        unfold maxDescriptorCount at few
        omega
      · rw [shaped.firstOffset_eq]
        unfold maxDescriptorCount at few
        unfold wordLimit
        omega
    · rw [failed]
      exact .inr ⟨e, rfl, counting⟩
  · rw [varying]
    dsimp only
    rw [value_chainStarts]
    rcases block.chainBounds_outcome page with
      ⟨areaEnd, inPage, wanted, bounds⟩ | ⟨e, failed, counting⟩
    · rw [bounds, Except.bind]
      dsimp only
      rw [if_neg]
      · refine .inl ⟨_, rfl, fun start mem => ?_⟩
        unfold linkStarts at mem
        split at mem
        · rw [List.mem_singleton.1 mem, shaped.firstOffset_eq]
          decide
        · -- a descriptor of the chain ends within its area
          obtain ⟨link, found, rfl⟩ := List.mem_map.1 mem
          have ends := (ChainRule.bounds_of_mem_follow found).2
          unfold ChainRule.endOf at ends
          dsimp only at ends
          omega
      · rw [shaped.firstOffset_eq]
        unfold ChainRule.header
        dsimp only
        omega
    · rw [failed]
      exact .inr ⟨e, rfl, counting⟩

/-- The layout of `PortShaped` descriptors has them in the first 65536 bytes, and takes no sum that
is too large for an address. -/
theorem PortShaped.layout_outcome (shaped : block.PortShaped) (short : page.length < 0x10000) :
    (∃ layout, (block.layout page).value = .ok layout ∧ ∀ start ∈ layout.starts, start < 0x10000) ∨
      ∃ e, (block.layout page).value = .error e ∧ block.OfCount e := by
  rw [value_layout]
  rcases shaped.startsIn_outcome short with ⟨starts, found, near⟩ | ⟨e, failed, counting⟩
  · rw [found, Except.bind]
    by_cases few : maxDescriptorCount < starts.length
    · rw [if_pos few]
      exact .inr ⟨_, rfl, .inr ⟨_, rfl⟩⟩
    · have addressed : block.IdsAddressed starts := fun start mem offset given => by
        have := near start mem
        have := shaped.idOffset offset given
        omega
      rw [if_neg few, if_neg (not_not.2 addressed)]
      exact .inl ⟨_, rfl, near⟩
  · rw [failed]
    exact .inr ⟨e, rfl, counting⟩

end DescriptorBlock

namespace Layout

variable {layout : Layout} {field : Field} {index : Nat}

/-- Every descriptor of a `Regular` layout starts at the first offset or behind it. -/
theorem Regular.firstOffset_le (regular : layout.Regular) {start : Nat}
    (found : layout.startOf? index = some start) : layout.block.firstOffset ≤ start := by
  rcases Nat.eq_zero_or_pos index with rfl | later
  · cases regular.first.symm.trans found
    exact Nat.le_refl _
  · exact Nat.le_of_lt (regular.startOf?_lt regular.first found later)

/-- Where the start of a field in a descriptor (`offsetOf?`) is too large for an address, though the
one in its table is not: it lies as far behind that as the descriptor behind the first one. -/
theorem Regular.overflows_iff (regular : layout.Regular) (word : field.span.startByte < wordLimit) :
    (∃ offset, layout.offsetOf? field index = some offset ∧ wordLimit ≤ offset) ↔
      layout.block.firstOffset ≤ field.span.startByte ∧
        ∃ start, layout.startOf? index = some start ∧
          wordLimit ≤ field.span.startByte + (start - layout.block.firstOffset) := by
  rcases Nat.lt_or_ge field.span.startByte layout.block.firstOffset with before | inside
  · rw [offsetOf?_of_before before]
    refine iff_of_false ?_ fun h => absurd h.1 (Nat.not_le.2 before)
    rintro ⟨offset, placed, far⟩
    split at placed
    · cases placed
      omega
    · cases placed
  · rw [regular.offsetOf?_of_inside inside, and_iff_right inside]
    constructor
    · rintro ⟨offset, placed, far⟩
      obtain ⟨start, found, rfl⟩ := Option.map_eq_some_iff.1 placed
      exact ⟨start, found, by omega⟩
    · rintro ⟨start, found, far⟩
      have := regular.firstOffset_le found
      exact ⟨_, by rw [found, Option.map_some], by omega⟩

end Layout

/-! ## Bindings without an address -/

namespace PagePlan

variable {plan : PagePlan} {binding : Binding} {bindings : List Binding} {bound : Nat}

/-- The start of the field of a binding, by `offsetOf?`, is no 64-bit number. -/
def Overflows (plan : PagePlan) (binding : Binding) : Prop :=
  ∃ start, plan.offsetOf? binding.field binding.descriptorIndex = some start ∧ wordLimit ≤ start

/-- The list `bindings` is `before ++ binding :: after`, where the plan `Accepts` every binding of
`before` and does not accept `binding`. -/
def RefusesFirst (plan : PagePlan) (bound : Nat) (bindings : List Binding) (binding : Binding) : Prop :=
  ∃ before after, bindings = before ++ binding :: after ∧
    (∀ earlier ∈ before, plan.Accepts bound earlier) ∧ ¬ plan.Accepts bound binding

/-- Bindings are judged by the one that the plan `RefusesFirst`, with its `refusal` as the error. -/
theorem judgements_eq_refusal_iff {e : Error} :
    plan.judgements bound bindings = .error e ↔
      ∃ binding, plan.RefusesFirst bound bindings binding ∧ e = plan.refusal binding := by
  rw [judgements_eq_error_iff]
  constructor
  · rintro ⟨before, binding, after, split, accepted, refused, same⟩
    exact ⟨binding, ⟨before, after, split, accepted, refused⟩, same⟩
  · rintro ⟨binding, ⟨before, after, split, accepted, refused⟩, same⟩
    exact ⟨before, binding, after, split, accepted, refused, same⟩

/-- The `refusal` of a binding says that an address is too large exactly where that of its field is
(`Overflows`). -/
theorem refusal_eq_overflow_iff {name : String} :
    plan.refusal binding = .response (.descriptor plan.key (.addressOverflow name)) ↔
      plan.Overflows binding ∧ name = plan.descriptorName := by
  unfold refusal Overflows
  cases plan.offsetOf? binding.field binding.descriptorIndex with
  | none => simp
  | some start =>
    dsimp only
    by_cases fits : start < wordLimit
    · simp [fits, beyondPage]
    · simp [fits, Nat.not_lt.1 fits, eq_comm]

/-- A binding whose descriptor is not there is refused as `descriptorIndexOutOfRange`. -/
theorem refusal_of_missing
    (missing : plan.offsetOf? binding.field binding.descriptorIndex = none) :
    plan.refusal binding = .item (.descriptorIndexOutOfRange binding.label plan.key
      binding.descriptorIndex plan.count) := by
  unfold refusal
  rw [missing]

/-- A binding whose field has an address is refused as `fieldBeyondPage`, with that address. -/
theorem refusal_of_addressed {start : Nat} (fits : start < wordLimit)
    (placed : plan.offsetOf? binding.field binding.descriptorIndex = some start) :
    plan.refusal binding =
      .response (.fieldBeyondPage binding.label plan.key start plan.length) := by
  unfold refusal
  rw [placed]
  exact if_pos fits

end PagePlan

namespace Editor

variable {σ α : Type} {editor : Editor} {device : Device σ} {key : PageKey} {state : σ}
  {images : PageImages} {current : PageImage} {plan : PagePlan}

/-- The descriptors of a page, if it has any, are `DescriptorBlock.PortShaped`. -/
def PortShaped (editor : Editor) (key : PageKey) : Prop :=
  ∀ block, (editor.entryOf key).bind PageEntry.descriptors = some block → block.PortShaped

/-- A page that was fetched is shorter than `0x10000` bytes. -/
theorem length_page_lt_of_fetch {wanted : List PageControl}
    (fetched : (Session.effect (editor.fetch device key wanted) state).result = .ok images)
    (present : images.current = some current) : current.page.length < 0x10000 := by
  have longest : editor.config.size.maxAllocation < 0x10000 := by
    cases editor.config.size <;> decide
  have transferred := length_tail_le_of_fetch fetched present
  have inside := current.page_le
  rw [PageImage.length_tail] at transferred
  rw [PageImage.length_page]
  omega

/-- The layout of a page with `PortShaped` descriptors has them in the first 65536 bytes, or the
count is at fault. -/
theorem layoutOf_outcome (shaped : editor.PortShaped key) {page : Bytes}
    (short : page.length < 0x10000) :
    (∃ layout?, PageEntry.layoutOf (editor.entryOf key) page = .ok layout? ∧
        ∀ layout, layout? = some layout → layout.Regular ∧ layout.block.firstOffset = 8 ∧
          ∀ start ∈ layout.starts, start < 0x10000) ∨
      ∃ e, PageEntry.layoutOf (editor.entryOf key) page = .error e ∧
        ∀ name, e ≠ .addressOverflow name := by
  unfold PageEntry.layoutOf
  cases described : (editor.entryOf key).bind PageEntry.descriptors with
  | none => exact .inl ⟨none, rfl, nofun⟩
  | some block =>
    dsimp only
    have port := shaped block described
    rcases port.layout_outcome short with ⟨layout, laid, near⟩ | ⟨e, failed, counting⟩
    · refine .inl ⟨some layout, by rw [laid]; rfl, ?_⟩
      rintro _ ⟨⟩
      refine ⟨DescriptorBlock.regular_of_layout laid, ?_, near⟩
      rw [DescriptorBlock.block_of_layout laid, port.firstOffset_eq]
    · refine .inr ⟨e, by rw [failed]; rfl, ?_⟩
      rintro name rfl
      exact DescriptorBlock.not_ofCount_addressOverflow counting

/-- **Where the start of a field `Overflows`**: only in a later descriptor, as the start that the
binding says is a 64-bit number. It is then one of the last bytes of the address space. -/
theorem Planned.overflows_iff {wanted : List PageControl} (shaped : editor.PortShaped key)
    (planned : editor.Planned device key wanted state images current plan) {binding : Binding}
    (word : binding.field.span.startByte < wordLimit) :
    plan.Overflows binding ↔ ∃ layout start, plan.layout = some layout ∧
      8 ≤ binding.field.span.startByte ∧ layout.startOf? binding.descriptorIndex = some start ∧
      start < 0x10000 ∧ wordLimit ≤ binding.field.span.startByte + (start - 8) := by
  obtain ⟨layout?, found, rfl⟩ := plan_eq_ok_iff.1 planned.planned
  have short := length_page_lt_of_fetch planned.fetched planned.present
  rcases layoutOf_outcome shaped short with ⟨_, found', near⟩ | ⟨e, failed, -⟩
  · cases found.symm.trans found'
    cases layout? with
    | none =>
      -- without descriptors the field is where the binding says
      refine iff_of_false ?_ (by rintro ⟨_, _, ⟨⟩, -⟩)
      rintro ⟨start, placed, far⟩
      change (if _ then _ else _) = _ at placed
      split at placed
      · cases placed
        omega
      · cases placed
    | some layout =>
      obtain ⟨regular, first, near⟩ := near layout rfl
      refine (regular.overflows_iff word).trans ?_
      rw [first]
      constructor
      · rintro ⟨inside, start, found, far⟩
        exact ⟨layout, start, rfl, inside, found, near start (List.mem_of_getElem? found), far⟩
      · rintro ⟨_, start, ⟨⟩, inside, found, -, far⟩
        exact ⟨inside, start, found, far⟩
  · cases found.symm.trans failed

/-! ## Operations that locate bindings -/

/-- What an operation comes to that fetches a page, makes its plan, and goes on by this plan with
`use`. -/
def byPlan (editor : Editor) (device : Device σ) (key : PageKey) (wanted : List PageControl)
    (state : σ) (use : PageImages → PageImage → PagePlan → Except Error α) : Except Error α :=
  (Session.effect (editor.fetch device key wanted) state).result.bind fun images =>
    (currentOf key images).bind fun current =>
      ((editor.plan key (editor.entryOf key) current).value.mapError Error.response).bind fun plan =>
        use images current plan

/-- Fields are reported `byPlan` of their page. -/
theorem result_readFields (editor : Editor) (device : Device σ) (request : Request) (state : σ) :
    (Session.effect (editor.readFields device request) state).result =
      editor.byPlan device request.page ((Operation.readFields request).wanted editor.config) state
        fun images _ plan => (request.bindings.mapM (plan.reportBinding images)).value := by
  rw [effect_readFields]
  simp only [value_reportRequest]
  rfl

/-- Fields are set `byPlan` of their page. -/
theorem result_writeFields (editor : Editor) (device : Device σ) (request : Request) (state : σ) :
    let wanted := (Operation.writeFields request).wanted editor.config
    let fetched := Session.effect (editor.fetch device request.page wanted) state
    (Session.effect (editor.writeFields device request) state).result =
      editor.byPlan device request.page wanted state fun images current plan =>
        (request.bindings.foldlM (plan.apply images) current).value.bind fun changed =>
          (editor.commitEffect device request.page current.isSavable
            (changed.forSelect editor.config.size).response fetched.final).result := by
  intro wanted fetched
  unfold writeFields
  rw [result_edit]
  unfold byPlan changeOf
  refine congrArg _ (funext fun images => ?_)
  cases currentOf request.page images with
  | error e => rfl
  | ok current =>
    dsimp only [Except.bind]
    rw [value_applyRequest]
    cases (editor.plan request.page (editor.entryOf request.page) current).value with
    | error e => rfl
    | ok plan =>
      dsimp only [Except.mapError, Except.bind]
      cases (request.bindings.foldlM (plan.apply images) current).value <;> rfl

/-- Where a page is planned (`Planned`), an operation goes on by its plan. -/
theorem Planned.byPlan_eq {wanted : List PageControl}
    (planned : editor.Planned device key wanted state images current plan)
    (use : PageImages → PageImage → PagePlan → Except Error α) :
    editor.byPlan device key wanted state use = use images current plan := by
  unfold byPlan
  rw [planned.fetched, Except.bind, currentOf_eq_ok_iff.2 planned.present, Except.bind,
    planned.planned]
  rfl

/-- An `addressOverflow` is not met before the page is planned. -/
theorem planned_of_overflow {wanted : List PageControl} (shaped : editor.PortShaped key)
    {use : PageImages → PageImage → PagePlan → Except Error α} {name : String}
    (h : editor.byPlan device key wanted state use =
      .error (.response (.descriptor key (.addressOverflow name)))) :
    ∃ images current plan, editor.Planned device key wanted state images current plan ∧
      use images current plan = .error (.response (.descriptor key (.addressOverflow name))) := by
  unfold byPlan at h
  rcases bind_eq_error_iff.1 h with failed | ⟨images, fetched, h⟩
  · exact (ofAnswer_of_fetch failed).elim
  rcases bind_eq_error_iff.1 h with failed | ⟨current, present, h⟩
  · unfold currentOf at failed
    split at failed <;> cases failed
  have present := currentOf_eq_ok_iff.1 present
  rcases bind_eq_error_iff.1 h with failed | ⟨plan, planned, used⟩
  · -- no plan is refused for an address
    obtain ⟨_, unplanned, same⟩ := mapError_eq_error_iff.1 failed
    rw [value_plan, map_eq_error_iff, mapError_eq_error_iff] at unplanned
    obtain ⟨cause, unlaid, rfl⟩ := unplanned
    cases same
    rcases layoutOf_outcome shaped (length_page_lt_of_fetch fetched present) with
      ⟨layout?, found, -⟩ | ⟨_, failed, other⟩
    · cases unlaid.symm.trans found
    · cases unlaid.symm.trans failed
      exact absurd rfl (other name)
  · exact ⟨images, current, plan, ⟨fetched, present, mapError_eq_ok_iff.1 planned⟩, used⟩

/-- Fields cannot be reported for the error of `judgements` on their bindings. -/
theorem Planned.reported_eq_error_iff {wanted : List PageControl} {bindings : List Binding} {e : Error}
    (planned : editor.Planned device key wanted state images current plan) :
    (bindings.mapM (plan.reportBinding images)).value = .error e ↔
      plan.judgements (plan.reach current) bindings = .error e := by
  rw [← PagePlan.verdict_reportBindings planned.length_eq planned.length_tail_lt planned.present,
    verdict_eq_error_iff]

/-- Nor can they be set, but for the bindings that only read and are not among the `setting`
ones. -/
theorem Planned.applied_eq_error_iff {wanted : List PageControl} {bindings : List Binding} {e : Error}
    (planned : editor.Planned device key wanted state images current plan) :
    (bindings.foldlM (plan.apply images) current).value = .error e ↔
      plan.judgements (plan.reach current) (PagePlan.setting bindings) = .error e := by
  rw [← PagePlan.verdict_applyBindings planned.length_eq planned.length_tail_lt, verdict_eq_error_iff]

/-- How an operation fails that locates bindings one after the other, by the binding that the plan
`RefusesFirst`. -/
structure Locates (editor : Editor) (device : Device σ) (key : PageKey) (wanted : List PageControl)
    (state : σ) (bindings : List Binding) (result : Except Error α) : Prop where
  /-- It says that an address is too large exactly where that of the first binding that is refused
  `Overflows`. -/
  overflow : ∀ name, result = .error (.response (.descriptor key (.addressOverflow name))) ↔
    ∃ images current plan binding, editor.Planned device key wanted state images current plan ∧
      plan.RefusesFirst (plan.reach current) bindings binding ∧ plan.Overflows binding ∧
      name = plan.descriptorName
  /-- It says of the first binding that is refused that its descriptor is not there, if `offsetOf?`
  finds none. -/
  missing : ∀ images current plan binding,
    editor.Planned device key wanted state images current plan →
    plan.RefusesFirst (plan.reach current) bindings binding →
    plan.offsetOf? binding.field binding.descriptorIndex = none →
      result = .error (.item (.descriptorIndexOutOfRange binding.label key binding.descriptorIndex
        plan.count))
  /-- It says of the first binding that is refused that its field ends behind the page, if that has
  an address (`start < wordLimit`). -/
  beyond : ∀ images current plan binding start,
    editor.Planned device key wanted state images current plan →
    plan.RefusesFirst (plan.reach current) bindings binding →
    plan.offsetOf? binding.field binding.descriptorIndex = some start → start < wordLimit →
      result = .error (.response (.fieldBeyondPage binding.label key start current.pageLength))

/-- An operation that goes on `byPlan` of its page locates bindings, if it fails as they are judged
and has no other use for sums of addresses. -/
theorem locates_byPlan {wanted : List PageControl} {bindings : List Binding}
    {use : PageImages → PageImage → PagePlan → Except Error α} (shaped : editor.PortShaped key)
    (judged : ∀ images current plan, editor.Planned device key wanted state images current plan →
      ∀ e, plan.judgements (plan.reach current) bindings = .error e →
        use images current plan = .error e)
    (only : ∀ images current plan, editor.Planned device key wanted state images current plan →
      ∀ e, use images current plan = .error (.response e) →
        plan.judgements (plan.reach current) bindings = .error (.response e)) :
    editor.Locates device key wanted state bindings
      (editor.byPlan device key wanted state use) := by
  have failed_of_refused : ∀ images current plan binding,
      editor.Planned device key wanted state images current plan →
      plan.RefusesFirst (plan.reach current) bindings binding →
        editor.byPlan device key wanted state use = .error (plan.refusal binding) := by
    intro images current plan binding planned refused
    rw [planned.byPlan_eq]
    exact judged images current plan planned _
      (PagePlan.judgements_eq_refusal_iff.2 ⟨binding, refused, rfl⟩)
  refine ⟨fun name => ⟨fun h => ?_, ?_⟩, ?_, ?_⟩
  · obtain ⟨images, current, plan, planned, failed⟩ := planned_of_overflow shaped h
    obtain ⟨binding, refused, same⟩ := PagePlan.judgements_eq_refusal_iff.1
      (only images current plan planned _ failed)
    rw [← planned.key_eq] at same
    obtain ⟨overflows, named⟩ := PagePlan.refusal_eq_overflow_iff.1 same.symm
    exact ⟨images, current, plan, binding, planned, refused, overflows, named⟩
  · rintro ⟨images, current, plan, binding, planned, refused, overflows, named⟩
    rw [failed_of_refused images current plan binding planned refused, ← planned.key_eq,
      PagePlan.refusal_eq_overflow_iff.2 ⟨overflows, named⟩]
  · intro images current plan binding planned refused missing
    rw [failed_of_refused images current plan binding planned refused, ← planned.key_eq,
      PagePlan.refusal_of_missing missing]
  · intro images current plan binding start planned refused placed fits
    rw [failed_of_refused images current plan binding planned refused, ← planned.key_eq,
      ← planned.length_eq, PagePlan.refusal_of_addressed fits placed]

/-- A write by `commit` fails for what the device says, or as the page cannot be saved. -/
theorem commit_ne_response {savable : Bool} {parameters : Bytes} {e : ResponseError} :
    (editor.commitEffect device key savable parameters state).result ≠ .error (.response e) := by
  unfold commitEffect
  split
  · nofun
  · split
    · nofun
    · dsimp only [written]
      split <;> nofun

/-- **When an address is too large.** On a page without descriptors, or with descriptors like those of
the port pages, an operation that reads or sets fields says that an address is too large in one case
only: the first binding that is refused is of a field in a later descriptor, and its start is no 64-bit
number there. The binding then says one of the last 65535 bytes of the address space. Otherwise the
first binding that is refused is so as its descriptor is not there or as its field ends behind the page,
with the exact place of the field; so no sum is cut to 64 bits on the way. -/
theorem address_overflow_exact (editor : Editor) (device : Device σ) (request : Request) (state : σ)
    (shaped : editor.PortShaped request.page) :
    editor.Locates device request.page ((Operation.readFields request).wanted editor.config) state
        request.bindings (Session.effect (editor.readFields device request) state).result ∧
      editor.Locates device request.page ((Operation.writeFields request).wanted editor.config) state
        (PagePlan.setting request.bindings)
        (Session.effect (editor.writeFields device request) state).result ∧
      ∀ wanted images current plan,
        editor.Planned device request.page wanted state images current plan →
        ∀ binding, binding.field.span.startByte < wordLimit →
          (plan.Overflows binding ↔ ∃ layout start, plan.layout = some layout ∧
            8 ≤ binding.field.span.startByte ∧ layout.startOf? binding.descriptorIndex = some start ∧
            start < 0x10000 ∧ wordLimit ≤ binding.field.span.startByte + (start - 8)) ∧
          (plan.Overflows binding → binding.descriptorIndex ≠ 0 ∧
            wordLimit < binding.field.span.startByte + 0x10000) := by
  refine ⟨?_, ?_, fun wanted images current plan planned binding word => ?_⟩
  · rw [result_readFields]
    exact locates_byPlan shaped (fun _ _ _ planned _ => planned.reported_eq_error_iff.2)
      fun _ _ _ planned _ => planned.reported_eq_error_iff.1
  · rw [result_writeFields]
    refine locates_byPlan shaped
      (fun _ _ _ planned _ judged => bind_eq_error_iff.2 (.inl (planned.applied_eq_error_iff.2 judged)))
      fun images current plan planned e failed => ?_
    rcases bind_eq_error_iff.1 failed with unapplied | ⟨changed, -, uncommitted⟩
    · exact planned.applied_eq_error_iff.1 unapplied
    · exact absurd uncommitted commit_ne_response
  · have exact_iff := planned.overflows_iff shaped word
    refine ⟨exact_iff, fun overflows => ⟨fun first => ?_, ?_⟩⟩
    · -- in the first descriptor the field is where the binding says
      obtain ⟨start, placed, far⟩ := overflows
      rw [first, PagePlan.offsetOf?_zero planned.planned] at placed
      cases placed
      omega
    · obtain ⟨layout, start, -, -, -, near, far⟩ := exact_iff.1 overflows
      omega

end Editor

/-! ## The end of the address space -/

namespace Sample

/-- The page of two phys, all of it zero but for what says so. -/
def twoPhys : Bytes :=
  [0x59, 0x01, 0x00, 0x64, 0x00, 0x06, 0x00, 0x02] ++ List.replicate 96 0

/-- A device with two phys. -/
def portDevice : MemoryDevice where
  identity := cachingDevice.identity
  pages := [((.current, phyControl.key), twoPhys)]

/-- Their page, as it is read with the six-byte commands. -/
def twoPhysImage : PageImage where
  control := .current
  response := [0x6B, 0x00, 0x00, 0x00] ++ twoPhys
  offset := 4
  pageLength := 104
  page_le := by decide

/-- What the sample editor plans for the page `twoPhys`. -/
def twoPhysPlan : PagePlan where
  key := phyControl.key
  layout := some ⟨phyDescriptors, [8, 56], [none, none]⟩
  length := 104
  flexible := false

/-- A byte of the second phy, by a number that counts from the first one. -/
def phyByte (startByte : Nat) (action : Action) : Binding :=
  ⟨.ofSpan phyControl.key ⟨startByte, 7, 8⟩, action, some 1, none, none⟩

theorem portShaped_phyControl : sixByteEditor.PortShaped phyControl.key := by
  have described : (sixByteEditor.entryOf phyControl.key).bind PageEntry.descriptors =
      some phyDescriptors := by
    decide +kernel
  intro block found
  cases described.symm.trans found
  exact ⟨rfl, .inl rfl, nofun⟩

theorem planned_twoPhys :
    sixByteEditor.Planned MemoryDevice.device phyControl.key [.current] portDevice
      { current := some twoPhysImage } twoPhysImage twoPhysPlan where
  fetched := by decide +kernel
  present := rfl
  planned := by decide +kernel

/-- The last byte of the second phy that has an address, `wordLimit - 1` there, is set. -/
def lastByte : Binding := phyByte 0xFFFFFFFFFFFFFFCF (.set 1)

/-- That byte is behind the page, and refused as `fieldBeyondPage`, whether it is to be reported or
set. -/
theorem last_address_refused :
    let request : Request := ⟨phyControl.key, [lastByte]⟩
    let beyond := Error.response
      (.fieldBeyondPage "18446744073709551567:7:8.1" phyControl.key 0xFFFFFFFFFFFFFFFF 104)
    sixByteEditor.PortShaped phyControl.key ∧
      (Session.effect (sixByteEditor.readFields MemoryDevice.device request) portDevice).result =
        .error beyond ∧
      (Session.effect (sixByteEditor.writeFields MemoryDevice.device request) portDevice).result =
        .error beyond := by
  intro request beyond
  obtain ⟨read, written, -⟩ := Editor.address_overflow_exact sixByteEditor MemoryDevice.device request
    portDevice portShaped_phyControl
  have label : lastByte.label = "18446744073709551567:7:8.1" := by decide +kernel
  have placed : twoPhysPlan.offsetOf? lastByte.field lastByte.descriptorIndex =
      some 0xFFFFFFFFFFFFFFFF := by
    decide
  have outside : ¬ twoPhysPlan.Accepts (twoPhysPlan.reach twoPhysImage) lastByte := by decide
  have refused : twoPhysPlan.RefusesFirst (twoPhysPlan.reach twoPhysImage) [lastByte] lastByte :=
    ⟨[], [], rfl, fun _ mem => absurd mem List.not_mem_nil, outside⟩
  have fits : 0xFFFFFFFFFFFFFFFF < wordLimit := by decide
  have unread := read.beyond _ _ _ _ _ planned_twoPhys refused placed fits
  have unwritten := written.beyond _ _ _ _ _ planned_twoPhys refused placed fits
  rw [label] at unread unwritten
  exact ⟨portShaped_phyControl, unread, unwritten⟩

/-- **The last byte of the address space.** Counted from the first phy it is a byte of the second
one that has no address. It is refused as `addressOverflow` and not as being behind the page. -/
theorem unaddressed_byte_refused :
    let overflow := Error.response (.descriptor phyControl.key (.addressOverflow "phy descriptor"))
    (Session.effect (sixByteEditor.readFields MemoryDevice.device
        ⟨phyControl.key, [phyByte 0xFFFFFFFFFFFFFFFF .query]⟩) portDevice).result =
          .error overflow ∧
      (Session.effect (sixByteEditor.writeFields MemoryDevice.device
        ⟨phyControl.key, [phyByte 0xFFFFFFFFFFFFFFFF (.set 1)]⟩) portDevice).result =
          .error overflow := by
  refine ⟨by decide +kernel, by decide +kernel⟩

end Sample

end ModeParameters
