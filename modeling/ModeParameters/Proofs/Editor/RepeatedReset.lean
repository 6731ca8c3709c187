import ModeParameters.Proofs.Device.Conforming
import ModeParameters.Proofs.Editor.Defaults

/-! # Setting a page to its defaults twice

A device that stored the page of a reset holds mode data that differs from what it held before in the
body of the page alone. Such data is accepted like the data before, the page is found in the same
place, and the bytes that differ are just those that a reset takes from the default page. So a second
reset issues the same commands, the write included. -/

namespace ModeParameters

variable {σ : Type}

/-- A device that answers reads of a page from what is `held`: with as much of the data of a variant
as was allocated, and with a refusal where it has none. No read changes what is held. -/
structure Device.AnswersFrom (device : Device σ) (size : CommandSize) (withoutBlockDescriptors : Bool)
    (key : PageKey) (held : σ → PageControl → Option Bytes) : Prop where
  /-- A variant that is held is sent as far as it was allocated. -/
  answers : ∀ state control allocation data, held state control = some data → ∃ response,
    (device.sense ⟨size, withoutBlockDescriptors, control, key, allocation⟩ state).1 = .ok response ∧
      response.received = data.take allocation
  /-- A variant that is not held is refused. -/
  refuses : ∀ state control allocation, held state control = none → ∃ cause,
    (device.sense ⟨size, withoutBlockDescriptors, control, key, allocation⟩ state).1 = .error cause
  /-- Reads change nothing of what is held. -/
  keeps : ∀ state request, held (device.sense request state).2 = held state

/-- Mode data `data'` in which a page was stored that came with parameters: the page is the one that
was written, but for the savable bit, which is that of `data` like everything around the page. -/
structure StoredIn (size : CommandSize) (data parameters data' : Bytes) : Prop where
  /-- The mode data is as long as before. -/
  length_eq : data'.length = data.length
  /-- The page has the bits of `parameters`, but for the savable one. -/
  page_eq : ∀ i, 8 * ModeHeader.pageOffsetAt size data < i →
    i < 8 * (ModeHeader.pageOffsetAt size data +
      Page.lengthAt data (ModeHeader.pageOffsetAt size data)) →
        data'.bit i = parameters.bit i
  /-- The savable bit, at `8 * pageOffsetAt`, and the bits outside the page are as before. -/
  rest_eq : ∀ i, i ≤ 8 * ModeHeader.pageOffsetAt size data ∨
    8 * (ModeHeader.pageOffsetAt size data +
      Page.lengthAt data (ModeHeader.pageOffsetAt size data)) ≤ i →
        data'.bit i = data.bit i

namespace Editor

variable {editor : Editor} {device : Device σ} {key : PageKey} {control : PageControl}
  {allocation : Nat} {data data' parameters : Bytes} {image image' current default : PageImage}
  {state after : σ}

/-! ## Data that is accepted alike -/

/-- An image that was taken from the data of a device. -/
structure TakenFrom (editor : Editor) (key : PageKey) (allocation : Nat) (data : Bytes)
    (image : PageImage) : Prop where
  /-- The data is a `WellFormedResponse`. -/
  wellFormed : editor.WellFormedResponse key allocation data
  /-- The response is made of the bytes that count, those `kept`. -/
  response_eq : image.response = kept editor.config.size allocation data
  /-- The page starts where the header says. -/
  offset_eq : image.offset = ModeHeader.pageOffsetAt editor.config.size data
  /-- The page is as long as it says. -/
  pageLength_eq : image.pageLength = Page.lengthAt image.response image.offset

/-- A response with `data.take allocation` is accepted with the image of the data. -/
theorem validate_take_iff (room : editor.config.size.headerLength ≤ allocation)
    {response : SenseResponse} (received : response.received = data.take allocation) :
    (editor.validate key control response allocation).value = .ok image ↔
      image.control = control ∧ editor.TakenFrom key allocation data image := by
  rw [validate_eq_ok_iff, received, wellFormedResponse_take_iff room, kept_take room,
    ModeHeader.pageOffsetAt_take room]
  constructor
  · rintro ⟨wellFormed, place, response, offset, length⟩
    exact ⟨place, wellFormed, response, offset, by rw [length, response, offset]⟩
  · rintro ⟨place, wellFormed, response, offset, length⟩
    exact ⟨wellFormed, place, response, offset, by rw [length, response, offset]⟩

namespace TakenFrom

variable (taken : editor.TakenFrom key allocation data image)
include taken

theorem length_response :
    image.response.length = keptLength editor.config.size allocation data := by
  rw [taken.response_eq, kept, List.length_take, Nat.min_eq_left taken.wellFormed.kept_le]

theorem headerLength_le_offset : editor.config.size.headerLength ≤ image.offset := by
  rw [taken.offset_eq]
  exact ModeHeader.headerLength_le_pageOffsetAt _ _

/-- The response has the bits of the data as far as it goes. -/
theorem bit_response {i : Nat} (h : i < 8 * image.response.length) :
    image.response.bit i = data.bit i := by
  rw [taken.length_response] at h
  rw [taken.response_eq, bit_kept h]

/-- The page ends behind its header. -/
theorem header_le_pageLength :
    Page.headerLengthAt image.response image.offset ≤ image.pageLength :=
  taken.pageLength_eq ▸ Page.headerLengthAt_le_lengthAt

/-- The page has the header that stands at its place. -/
theorem headerLength_page :
    Page.headerLength image.page = Page.headerLengthAt image.response image.offset := by
  have header := taken.header_le_pageLength
  have positive : 0 < Page.headerLengthAt image.response image.offset := Page.headerLengthAt_pos
  rw [Page.headerLength, Page.hasSubpageFormat_eq_bit, PageImage.bit_page,
    decide_eq_true (by omega), Bool.true_and, Page.headerLengthAt, Page.subpageFormatAt]

/-- The page is as long in the response as in the data, by `lengthAt` in either. -/
theorem lengthAt_data :
    Page.lengthAt data (ModeHeader.pageOffsetAt editor.config.size data) = image.pageLength := by
  have header := taken.header_le_pageLength
  have within := image.page_le
  rw [← taken.offset_eq, taken.pageLength_eq]
  refine Page.SameHeader.lengthAt_eq fun k _ inHeader => ?_
  rw [taken.bit_response (by omega)]

/-- **Data that agrees up to the end of the page header** is accepted alike, with the page in the
same place (`SamePlace`). -/
theorem congr (length : data'.length = data.length)
    (same : ∀ i < 8 * (image.offset + Page.headerLengthAt image.response image.offset),
      data'.bit i = data.bit i) :
    ∃ image', image.SamePlace image' ∧ editor.TakenFrom key allocation data' image' ∧
      Page.headerLength image'.page = Page.headerLength image.page := by
  have behind := taken.headerLength_le_offset
  have header := taken.header_le_pageLength
  have within := image.page_le
  have total : ModeHeader.totalLengthAt editor.config.size data' =
      ModeHeader.totalLengthAt editor.config.size data :=
    ModeHeader.totalLengthAt_congr fun i _ => same i (by omega)
  have offset : ModeHeader.pageOffsetAt editor.config.size data' = image.offset :=
    (ModeHeader.pageOffsetAt_congr fun i _ _ => same i (by omega)).trans taken.offset_eq.symm
  have keeps : keptLength editor.config.size allocation data' = image.response.length := by
    rw [taken.length_response, keptLength, total, ← keptLength]
  have arrived : image.response.length ≤ data'.length := by
    rw [length, taken.length_response]
    exact taken.wellFormed.kept_le
  have bytes : (kept editor.config.size allocation data').length = image.response.length := by
    rw [kept, List.length_take, keeps, Nat.min_eq_left arrived]
  have headers : Page.SameHeader image.response image.offset
      (kept editor.config.size allocation data') image.offset := by
    intro k _ inHeader
    rw [bit_kept (by omega), same _ (by omega), taken.bit_response (by omega)]
  have held : Page.HeldAt key image.response image.offset := by
    rw [taken.response_eq, taken.offset_eq]
    exact taken.wellFormed.page_held
  have held' : Page.HeldAt key (kept editor.config.size allocation data') image.offset :=
    held.congr headers (by rw [bytes])
  let image' : PageImage :=
    ⟨image.control, kept editor.config.size allocation data', image.offset, _, held'.length_le⟩
  have taken' : editor.TakenFrom key allocation data' image' := by
    refine ⟨⟨?_, ?_, keeps ▸ arrived, offset.symm ▸ held'⟩, rfl, offset.symm, rfl⟩
    · rw [length]
      exact taken.wellFormed.header_le
    · rw [total]
      exact taken.wellFormed.total_le
  refine ⟨image', ⟨rfl, rfl, ?_, bytes⟩, taken', ?_⟩
  · rw [taken.pageLength_eq]
    exact headers.lengthAt_eq
  · rw [taken'.headerLength_page, taken.headerLength_page]
    exact headers.headerLengthAt_eq

end TakenFrom

/-! ## What a reset leaves -/

/-- A reset takes bit `i` from the default page: one of the body of the current page that the
default page reaches. -/
def Copies (current default : PageImage) (i : Nat) : Prop :=
  8 * (current.offset + Page.headerLength current.page) ≤ i ∧
    i < 8 * (current.offset + min current.pageLength default.pageLength)

/-- Away from the body, where no bit `Copies`, what a device holds after it stored a reset is what
it held before. -/
theorem bit_of_stored (taken : editor.TakenFrom key allocation data current)
    (stored : StoredIn editor.config.size data
      ((withBody current default).forSelect editor.config.size).response data')
    {i : Nat} (elsewhere : ¬ Copies current default i) : data'.bit i = data.bit i := by
  have behind := taken.headerLength_le_offset
  have field := editor.config.size.lengthFieldWidth_le_headerLength
  have within := current.page_le
  have page := taken.lengthAt_data
  have place := taken.offset_eq
  have apart : ¬(8 * (current.offset + Page.headerLength current.page) ≤ i ∧
    i < 8 * (current.offset + min current.pageLength default.pageLength)) := elsewhere
  by_cases inPage : 8 * current.offset < i ∧ i < 8 * (current.offset + current.pageLength)
  · -- the page was written as it had been read
    rw [stored.page_eq i (by omega) (by omega), bit_withBody_forSelect, if_neg (by omega),
      if_neg apart, taken.bit_response (by omega)]
  · exact stored.rest_eq i (by omega)

/-- **The image of a stored reset** is in the same place, and `withBody` makes the same parameters
of it. -/
theorem exists_image_of_stored (taken : editor.TakenFrom key allocation data current)
    (stored : StoredIn editor.config.size data
      ((withBody current default).forSelect editor.config.size).response data') :
    ∃ current', current'.control = current.control ∧
      editor.TakenFrom key allocation data' current' ∧ current'.isSavable = current.isSavable ∧
      ((withBody current' default).forSelect editor.config.size).response =
        ((withBody current default).forSelect editor.config.size).response := by
  have positive := Page.headerLength_pos current.page
  have header := taken.headerLength_page
  have fits := taken.header_le_pageLength
  have within := current.page_le
  have unmoved {i : Nat} (elsewhere : ¬ Copies current default i) : data'.bit i = data.bit i :=
    bit_of_stored taken stored elsewhere
  obtain ⟨current', place, taken', header'⟩ := taken.congr stored.length_eq fun i inHeader =>
    unmoved fun copied => by
      have from_body : 8 * (current.offset + Page.headerLength current.page) ≤ i := copied.1
      omega
  have bits {i : Nat} (elsewhere : ¬ Copies current default i) :
      current'.response.bit i = current.response.bit i := by
    by_cases inside : i < 8 * current.response.length
    · rw [taken'.bit_response (place.length_eq.symm ▸ inside), taken.bit_response inside,
        unmoved elsewhere]
    · -- both responses end before the bit
      have length := place.length_eq
      rw [Bytes.bit_eq_false_of_le (by omega), Bytes.bit_eq_false_of_le (by omega)]
  refine ⟨current', place.control_eq, taken', ?_, ?_⟩
  · rw [PageImage.isSavable_eq_bit, PageImage.isSavable_eq_bit, place.pageLength_eq,
      place.offset_eq, bits fun copied => by
        have from_body : 8 * (current.offset + Page.headerLength current.page) ≤ _ := copied.1
        omega]
  · refine Bytes.ext_bit ?_ fun i _ => ?_
    · rw [(PageImage.samePlace_forSelect _ _).length_eq, (PageImage.samePlace_forSelect _ _).length_eq,
        withBody, withBody, (PageImage.samePlace_overwrite _ _ _).length_eq,
        (PageImage.samePlace_overwrite _ _ _).length_eq, place.length_eq]
    · rw [bit_withBody_forSelect, bit_withBody_forSelect, place.offset_eq, place.pageLength_eq, header']
      split
      · rfl
      · split
        · rfl
        · next elsewhere => exact bits elsewhere

/-! ## The reads of a second reset -/

section

variable {held : σ → PageControl → Option Bytes}
  (known : device.AnswersFrom editor.config.size editor.config.withoutBlockDescriptors key held)
include known

/-- The probe allocates what the current values declare, `headerLength` at least and no more than
can be transferred. -/
theorem probedAllocation_eq_ok_iff :
    editor.probedAllocation device key state = .ok allocation ↔
      ∃ data, held state .current = some data ∧ editor.config.size.headerLength ≤ data.length ∧
        allocation = min (max editor.config.size.headerLength
          (ModeHeader.totalLengthAt editor.config.size data)) editor.config.size.maxAllocation := by
  rw [probedAllocation, judgeProbe_eq_ok_iff]
  cases there : held state .current with
  | none =>
    obtain ⟨cause, refused⟩ :=
      known.refuses state .current editor.config.size.headerLength there
    simp [probeRequest, senseRequest, refused]
  | some data =>
    obtain ⟨response, answer, received⟩ :=
      known.answers state .current editor.config.size.headerLength data there
    have first : (device.sense (editor.probeRequest key) state).1 = .ok response := answer
    -- what arrived is a header exactly where the data has one
    have total := ModeHeader.totalLengthAt_take (Nat.le_refl editor.config.size.headerLength) data
    have arrived : editor.config.size.headerLength ≤
        (data.take editor.config.size.headerLength).length ↔
          editor.config.size.headerLength ≤ data.length := by
      rw [List.length_take]
      omega
    simp only [first, Except.ok.injEq, exists_eq_left', received, total, arrived, Option.some.injEq]

/-- The current values that are held are accepted as the image that is `TakenFrom` them. -/
theorem judge_current_iff (room : editor.config.size.headerLength ≤ allocation)
    (there : held state .current = some data) :
    editor.judge key allocation .current
        (device.sense (editor.senseRequest key .current allocation) state).1 = .ok (some image) ↔
      image.control = .current ∧ editor.TakenFrom key allocation data image := by
  obtain ⟨response, answer, received⟩ := known.answers state .current allocation data there
  rw [judge_current_eq_ok_iff, ← validate_take_iff room received]
  simp [senseRequest, answer]

/-- A variant of which the same is `held` in another state is judged alike there. -/
theorem judge_congr (same : held after control = held state control) {found : Option PageImage}
    (judged : editor.judge key allocation control
      (device.sense (editor.senseRequest key control allocation) state).1 = .ok found) :
    editor.judge key allocation control
      (device.sense (editor.senseRequest key control allocation) after).1 = .ok found := by
  cases there : held state control with
  | none =>
    obtain ⟨cause, refused⟩ := known.refuses state control allocation there
    obtain ⟨cause', refused'⟩ := known.refuses after control allocation (same.trans there)
    have first : (device.sense (editor.senseRequest key control allocation) state).1 =
        .error cause := refused
    have second : (device.sense (editor.senseRequest key control allocation) after).1 =
        .error cause' := refused'
    rw [first, judge] at judged
    rw [second, judge]
    split at judged
    · cases judged
    · next other => rw [if_neg other, judged]
  | some data =>
    obtain ⟨response, answer, received⟩ := known.answers state control allocation data there
    obtain ⟨response', answer', received'⟩ :=
      known.answers after control allocation data (same.trans there)
    have first : (device.sense (editor.senseRequest key control allocation) state).1 =
        .ok response := answer
    have second : (device.sense (editor.senseRequest key control allocation) after).1 =
        .ok response' := answer'
    -- a response is judged by what arrived of it
    have alike : editor.validate key control response' allocation =
        editor.validate key control response allocation := by
      unfold validate
      rw [received, received']
    rw [first, judge] at judged
    rw [second, judge, alike, judged]

/-- **The fetch of a second reset** has the same allocation and the same default page, and current
values of which `withBody` makes the same parameters. -/
theorem fetch_after_stored
    (fetched : (Session.effect (editor.fetch device key [.current, .default]) state).result =
      .ok { current := some current, default := some default })
    (there : held state .current = some data) (there' : held after .current = some data')
    (unchanged : held after .default = held state .default)
    (stored : StoredIn editor.config.size data
      ((withBody current default).forSelect editor.config.size).response data') :
    ∃ allocation current', editor.probedAllocation device key state = .ok allocation ∧
      editor.probedAllocation device key after = .ok allocation ∧
      (Session.effect (editor.fetch device key [.current, .default]) after).result =
        .ok { current := some current', default := some default } ∧
      current'.isSavable = current.isSavable ∧
      ((withBody current' default).forSelect editor.config.size).response =
        ((withBody current default).forSelect editor.config.size).response := by
  obtain ⟨allocation, allocated, _, _, judged, judged', same⟩ := fetch_defaults_eq_ok_iff.1 fetched
  cases same
  obtain ⟨_, same, length, sized⟩ := (probedAllocation_eq_ok_iff known).1 allocated
  cases there.symm.trans same
  have room : editor.config.size.headerLength ≤ allocation := by
    have transfers : editor.config.size.headerLength ≤ editor.config.size.maxAllocation := by
      cases editor.config.size <;> decide
    omega
  have probed (start : σ) : held (editor.probedState device key start) = held start :=
    known.keeps start _
  obtain ⟨place, taken⟩ := (judge_current_iff known room (congrFun (probed state) _ ▸ there)).1 judged
  obtain ⟨current', place', taken', savable, again⟩ := exists_image_of_stored taken stored
  -- the header of the data is as it was, and so is the allocation
  have total : ModeHeader.totalLengthAt editor.config.size data' =
      ModeHeader.totalLengthAt editor.config.size data := by
    have behind := ModeHeader.headerLength_le_pageOffsetAt editor.config.size data
    exact ModeHeader.totalLengthAt_congr fun i _ => stored.rest_eq i (.inl (by omega))
  have allocated' : editor.probedAllocation device key after = .ok allocation :=
    (probedAllocation_eq_ok_iff known).2
      ⟨data', there', stored.length_eq.symm ▸ length, total.symm ▸ sized⟩
  have read := (judge_current_iff known room (congrFun (probed after) _ ▸ there')).2
    ⟨place'.trans place, taken'⟩
  have read' : editor.judge key allocation .default
      (device.sense (editor.senseRequest key .default allocation)
        (device.sense (editor.senseRequest key .current allocation)
          (editor.probedState device key after)).2).1 = .ok (some default) := by
    refine judge_congr known ?_ judged'
    rw [known.keeps, known.keeps, probed, probed, unchanged]
  exact ⟨allocation, current', allocated, allocated',
    fetch_defaults_eq_ok_iff.2 ⟨allocation, allocated', _, _, read, read', rfl⟩, savable, again⟩

/-- **A second reset issues the same commands** once the device has `StoredIn` its data what the
first one sent. -/
theorem issued_second_reset {request : SelectRequest}
    (wrote : Command.select request ∈
      (Session.effect (editor.restoreDefaults device key) state).issued)
    (there : held state .current = some data) (there' : held after .current = some data')
    (unchanged : held after .default = held state .default)
    (stored : StoredIn editor.config.size data request.parameters data') :
    (Session.effect (editor.restoreDefaults device key) after).issued =
      (Session.effect (editor.restoreDefaults device key) state).issued := by
  -- what the first reset fetched, and what was made of it
  obtain ⟨images, current, changed, fetched, present, applied, -, made⟩ :=
    produces_edit_iff.1 (.inr ⟨request, wrote, rfl⟩)
  obtain ⟨-, -, _, found, -, -, rfl⟩ := fetch_defaults_eq_ok_iff.1 fetched
  cases present
  rw [value_applyDefaults] at applied
  rcases found with none | default
  · cases applied
  cases applied
  rw [made] at stored
  obtain ⟨allocation, current', allocated, allocated', fetched', savable, again⟩ :=
    fetch_after_stored known fetched there there' unchanged stored
  have restored (image : PageImage) : (applyDefaults key
      { current := some image, default := some default } image).value =
        .ok (withBody image default) := value_applyDefaults key _ image
  unfold restoreDefaults
  rw [effect_edit_of_changed fetched' rfl (restored current'),
    effect_edit_of_changed fetched rfl (restored current)]
  dsimp only
  rw [issued_fetch_of_ok allocated' fetched', issued_fetch_of_ok allocated fetched, savable, again,
    issued_commit]

end

/-- **Setting a page to its defaults** `Produces` parameters exactly where both variants are fetched
and the page can be saved if it is to be; these are then the current values with the body of the
default page, as far as both pages reach (`Restores`). It fails for want of default values exactly
where the current values were accepted and the read of the default ones was refused, and then writes
nothing. And where a device holds what it was sent, with its own savable bit, a second reset issues
the same commands. -/
theorem defaults_restored (editor : Editor) (device : Device σ) (key : PageKey) (state : σ) :
    let reset := Session.effect (editor.restoreDefaults device key)
    (∀ parameters, Produces (reset state) parameters ↔ ∃ images current default,
      (Session.effect (editor.fetch device key [.current, .default]) state).result = .ok images ∧
        images.current = some current ∧ images.default = some default ∧
        (editor.config.save = true → current.isSavable = true) ∧
        Restores editor.config.size current default parameters) ∧
    (∀ key', (reset state).result = .error (.conflict (.noDefaults key')) ↔
      key' = key ∧ ∃ allocation, editor.probedAllocation device key state = .ok allocation ∧
        let read := device.sense (editor.senseRequest key .current allocation)
          (editor.probedState device key state)
        (∃ response current, read.1 = .ok response ∧
          (editor.validate key .current response allocation).value = .ok current) ∧
        ∃ cause, (device.sense (editor.senseRequest key .default allocation) read.2).1 =
          .error cause) ∧
    (∀ key', (reset state).result = .error (.conflict (.noDefaults key')) →
      ∀ request, Command.select request ∉ (reset state).issued) ∧
    ∀ held after request data data',
      device.AnswersFrom editor.config.size editor.config.withoutBlockDescriptors key held →
      Command.select request ∈ (reset state).issued →
      held state .current = some data → held after .current = some data' →
      held after .default = held state .default →
      StoredIn editor.config.size data request.parameters data' →
      (reset after).issued = (reset state).issued := by
  intro reset
  refine ⟨fun parameters => produces_restoreDefaults_iff, fun key' => ?_,
    fun key' failed request => select_notMem_of_noDefaults failed request,
    fun held after request data data' known wrote there there' unchanged stored =>
      issued_second_reset known wrote there there' unchanged stored⟩
  rw [restoreDefaults_eq_noDefaults_iff]
  refine and_congr_right fun _ => ?_
  simp only [fetch_defaults_eq_ok_iff]
  constructor
  · rintro ⟨_, ⟨allocation, allocated, _, found, judged, judged', rfl⟩, missing⟩
    cases missing
    obtain ⟨response, current, answer, accepted, -⟩ := judge_current_eq_ok_iff.1 judged
    exact ⟨allocation, allocated, ⟨response, current, answer, accepted⟩,
      (judge_eq_none_iff.1 judged').2⟩
  · rintro ⟨allocation, allocated, ⟨response, current, answer, accepted⟩, refused⟩
    exact ⟨_, ⟨allocation, allocated, current, none,
      judge_current_eq_ok_iff.2 ⟨response, current, answer, accepted, rfl⟩,
      judge_eq_none_iff.2 ⟨nofun, refused⟩, rfl⟩, rfl⟩

end Editor

/-! ## The device in memory -/

namespace MemoryDevice

/-- The mode data that a device in memory sends for a variant of a page. -/
def sent (size : CommandSize) (withoutBlockDescriptors : Bool) (key : PageKey)
    (device : MemoryDevice) (control : PageControl) : Option Bytes :=
  (device.held size withoutBlockDescriptors key control).map ModeData.bytes

/-- A device in memory answers from what it would have `sent`, in every state. -/
theorem answersFrom (size : CommandSize) (withoutBlockDescriptors : Bool) (key : PageKey) :
    device.AnswersFrom size withoutBlockDescriptors key (sent size withoutBlockDescriptors key) where
  answers state control allocation data there := by
    obtain ⟨_, holds, rfl⟩ := Option.map_eq_some_iff.1 there
    obtain ⟨page, present, rfl⟩ := Option.map_eq_some_iff.1 holds
    refine ⟨_, ?_, SenseResponse.received_transfer _ allocation⟩
    simp only [device, sense, present]
    rfl
  refuses state control allocation missing := by
    have nothing : state.page? control key = none := by
      simpa [sent, held] using missing
    refine ⟨.illegalRequest, ?_⟩
    simp only [device, sense, nothing]
  keeps state request := by
    change sent _ _ _ (sense request state).2 = _
    unfold sense
    split <;> rfl

end MemoryDevice

/-! ## A sample -/

namespace Sample

open Editor

/-- A device whose current caching page is longer than its default one. -/
def longCachingDevice : MemoryDevice where
  identity := cachingDevice.identity
  pages := [((.current, caching.key), [0x88, 0x04, 0x04, 0x11, 0x22, 0x33]),
    ((.default, caching.key), [0x08, 0x02, 0x01, 0x00])]

/-- The parameters of a reset of `longCachingDevice`: the header of its page stays, and so do the
bytes that the default page does not reach. -/
def cachingReset : SelectRequest :=
  ⟨.six, false, [0x00, 0x00, 0x00, 0x00, 0x08, 0x04, 0x01, 0x00, 0x22, 0x33]⟩

/-- The device stores what it was sent. -/
theorem storedIn_cachingReset :
    StoredIn .six [0x09, 0x00, 0x00, 0x00, 0x88, 0x04, 0x04, 0x11, 0x22, 0x33]
      cachingReset.parameters
      [0x09, 0x00, 0x00, 0x00, 0x88, 0x04, 0x01, 0x00, 0x22, 0x33] where
  length_eq := rfl
  page_eq i after before := by
    have within : ∀ i < 80, 32 < i →
        Bytes.bit [0x09, 0x00, 0x00, 0x00, 0x88, 0x04, 0x01, 0x00, 0x22, 0x33] i =
          cachingReset.parameters.bit i := by decide
    exact within i before after
  rest_eq i outside := by
    rcases outside with front | behind
    · have within : ∀ i < 33,
          Bytes.bit [0x09, 0x00, 0x00, 0x00, 0x88, 0x04, 0x01, 0x00, 0x22, 0x33] i =
            Bytes.bit [0x09, 0x00, 0x00, 0x00, 0x88, 0x04, 0x04, 0x11, 0x22, 0x33] i := by decide
      exact within i (Nat.lt_succ_of_le front)
    · -- neither string has a bit there
      have behind : 80 ≤ i := behind
      rw [Bytes.bit_eq_false_of_le (by simpa using behind),
        Bytes.bit_eq_false_of_le (by simpa using behind)]

/-- The sample page is reset, and a second reset issues the same commands. -/
theorem caching_reset_again :
    let reset := Session.effect (sixByteEditor.restoreDefaults MemoryDevice.device caching.key)
    Command.select cachingReset ∈ (reset longCachingDevice).issued ∧
      (∃ current default, Restores .six current default cachingReset.parameters) ∧
      (reset (reset longCachingDevice).final).issued = (reset longCachingDevice).issued := by
  intro reset
  obtain ⟨produced, -, -, again⟩ :=
    defaults_restored sixByteEditor MemoryDevice.device caching.key longCachingDevice
  have wrote : Command.select cachingReset ∈ (reset longCachingDevice).issued := by decide
  obtain ⟨-, current, default, -, -, -, -, restores⟩ :=
    (produced _).1 (.inr ⟨cachingReset, wrote, rfl⟩)
  refine ⟨wrote, ⟨current, default, restores⟩, ?_⟩
  exact again _ _ cachingReset _ _ (MemoryDevice.answersFrom .six false caching.key) wrote rfl
    (by decide) (by decide) storedIn_cachingReset

end Sample

end ModeParameters
