import ModeParameters.Proofs.Device.Conforming
import ModeParameters.Proofs.Editor.Commands

/-! # Fetching from a conforming device

From a conforming device a fetch gets the data that the device holds. It succeeds where the current
values are held and no other wanted variant is longer than they are, because all variants are read
with the allocation that the current values need. -/

namespace ModeParameters

/-- An image shows mode data: its response is `data`, with the page in its place. -/
structure PageImage.Shows (image : PageImage) (data : ModeData) : Prop where
  /-- The whole data is the response. -/
  response_eq : image.response = data.bytes
  /-- The page starts behind the header and the block descriptors. -/
  offset_eq : image.offset = data.offset
  /-- The page goes on to the end. -/
  pageLength_eq : image.pageLength = data.page.length

namespace PageImage.Shows

variable {image : PageImage} {data : ModeData} (shows : image.Shows data)
include shows

theorem tail_eq : image.tail = data.page := by
  rw [PageImage.tail, shows.response_eq, shows.offset_eq, data.drop_bytes]

theorem page_eq : image.page = data.page := by
  rw [PageImage.page, Bytes.window, shows.response_eq, shows.offset_eq, shows.pageLength_eq,
    data.drop_bytes, List.take_length]

end PageImage.Shows

namespace Editor

variable {σ : Type} {editor : Editor} {device : Device σ} {key : PageKey}
  {held : σ → PageControl → Option ModeData} {steady : σ → Prop} {state : σ}
  {control : PageControl} {allocation : Nat} {data : ModeData}

/-! ## Single reads -/

/-- Data that fits its allocation counts in full: `kept` leaves it as it is. -/
theorem kept_of_wellFormed (wellFormed : data.WellFormed editor.config.size key)
    (fits : data.bytes.length ≤ allocation) :
    kept editor.config.size allocation data.bytes = data.bytes := by
  rw [kept, keptLength, wellFormed.total_eq, Nat.min_eq_left fits, List.take_length]

/-- Data that fits its allocation is a `WellFormedResponse`. -/
theorem wellFormedResponse_of_data (wellFormed : data.WellFormed editor.config.size key)
    (fits : data.bytes.length ≤ allocation) :
    editor.WellFormedResponse key allocation data.bytes where
  header_le := by
    have header := wellFormed.headerLength_le_offset
    have length := data.length_bytes
    omega
  total_le := .inl (wellFormed.total_eq.trans_le fits)
  kept_le := by
    rw [keptLength, wellFormed.total_eq]
    exact Nat.min_le_left _ _
  page_held := by
    rw [kept_of_wellFormed wellFormed fits, wellFormed.offset_eq]
    refine wellFormed.page_held.congr data.sameHeader_bytes ?_
    rw [data.length_bytes]
    omega

/-- The image that `validate` makes of data that fits its allocation shows the data. -/
theorem shows_of_validate {response : SenseResponse} {image : PageImage}
    (wellFormed : data.WellFormed editor.config.size key) (fits : data.bytes.length ≤ allocation)
    (received : response.received = data.bytes)
    (accepted : (editor.validate key control response allocation).value = .ok image) :
    image.Shows data := by
  obtain ⟨-, -, shown, offset, length⟩ := validate_eq_ok_iff.1 accepted
  rw [received, kept_of_wellFormed wellFormed fits] at shown
  rw [received, wellFormed.offset_eq] at offset
  refine ⟨shown, offset, ?_⟩
  rw [length, received, kept_of_wellFormed wellFormed fits, wellFormed.offset_eq,
    data.sameHeader_bytes.lengthAt_eq, wellFormed.length_eq]

variable (conforms : device.Conforms editor.config.size editor.config.withoutBlockDescriptors key
  held steady)
include conforms

/-- The probe allocates just `data.bytes.length`, what the current values need. -/
theorem probedAllocation_of_held (calm : steady state) (present : held state .current = some data) :
    editor.probedAllocation device key state = .ok data.bytes.length := by
  have wellFormed := conforms.wellFormed state calm _ _ present
  obtain ⟨response, answer, received⟩ :=
    conforms.answers state calm _ editor.config.size.headerLength _ present
  have header := wellFormed.headerLength_le_offset
  have length := data.length_bytes
  -- a probe answers with the header at least, and the declared length is in it
  have total : ModeHeader.totalLengthAt editor.config.size response.received = data.bytes.length := by
    rw [← wellFormed.total_eq, received]
    apply ModeHeader.totalLengthAt_congr
    intro i inHeader
    rw [Bytes.bit_take]
    simp [inHeader]
  refine judgeProbe_eq_ok_iff.2 ⟨response, answer, ?_, ?_⟩
  · rw [received, List.length_take]
    omega
  · rw [total, Nat.max_eq_right (by omega), Nat.min_eq_left wellFormed.total_le]

/-- The answers of a conforming device are what it holds, cut to the allocation, and an error where
it holds nothing. -/
theorem answer_of_held (calm : steady state) (controls : List PageControl)
    {answer : SenseAnswer}
    (mem : (control, answer) ∈ editor.variantAnswers device key allocation controls state) :
    match held state control with
    | some data => ∃ response, answer = .ok response ∧
        response.received = data.bytes.take allocation
    | none => ∃ cause, answer = .error cause := by
  induction controls generalizing state with
  | nil => cases mem
  | cons first rest ih =>
    rcases List.mem_cons.1 mem with here | later
    · cases here
      cases present : held state control with
      | some data => exact conforms.answers state calm control allocation data present
      | none => exact conforms.refuses state calm control allocation present
    · -- the reads before this one changed nothing
      obtain ⟨still, same⟩ := conforms.keeps state calm (editor.senseRequest key first allocation)
      have found := ih still later
      rw [same] at found
      exact found

/-! ## Whole fetches -/

/-- A fetch leaves the device `steady`, and changes nothing of what is `held`. -/
theorem held_after_fetch (calm : steady state) (wanted : List PageControl) :
    steady (Session.effect (editor.fetch device key wanted) state).final ∧
      held (Session.effect (editor.fetch device key wanted) state).final = held state := by
  obtain ⟨reads, -, final, -⟩ := exists_reads_fetch editor device key wanted state
  rw [final]
  exact conforms.keeps_afterReads calm _

/-- A fetch that succeeds has a current image that `Shows` what is held for `.current`. -/
theorem shows_of_fetch (calm : steady state) {wanted : List PageControl} {images : PageImages}
    (fetched : (Session.effect (editor.fetch device key wanted) state).result = .ok images) :
    ∃ data current, held state .current = some data ∧ images.current = some current ∧
      current.Shows data := by
  obtain ⟨allocation, response, image, allocated, answer, accepted, filled⟩ :=
    current_of_fetch fetched
  obtain ⟨still, same⟩ := conforms.keeps state calm (editor.probeRequest key)
  cases present : held state .current with
  | none =>
    obtain ⟨cause, refused⟩ := conforms.refuses _ still .current allocation (same ▸ present)
    cases answer.symm.trans refused
  | some data =>
    have wellFormed := conforms.wellFormed state calm _ _ present
    rw [probedAllocation_of_held conforms calm present] at allocated
    cases allocated
    obtain ⟨response', answer', received⟩ :=
      conforms.answers _ still .current data.bytes.length data (same ▸ present)
    cases answer.symm.trans answer'
    rw [List.take_length] at received
    exact ⟨data, image, rfl, filled, shows_of_validate wellFormed (Nat.le_refl _) received accepted⟩

/-- The answer of a conforming device can be used where the current values are held and whatever is
held fits the `allocation`. -/
theorem usable_of_held (calm : steady state) {controls : List PageControl} {answer : SenseAnswer}
    (mem : (control, answer) ∈ editor.variantAnswers device key allocation controls state)
    (present : held state .current = some data)
    (fits : ∀ other, held state control = some other → other.bytes.length ≤ allocation) :
    editor.Usable key allocation (control, answer) := by
  have found := answer_of_held conforms calm controls mem
  cases there : held state control with
  | none =>
    -- only a variant other than the current values can be missing
    rw [there] at found
    obtain ⟨cause, rfl⟩ := found
    rintro rfl
    rw [present] at there
    cases there
  | some other =>
    rw [there] at found
    obtain ⟨response, rfl, received⟩ := found
    rw [List.take_of_length_le (fits other there)] at received
    have wellFormed := conforms.wellFormed state calm _ _ there
    change editor.WellFormedResponse key allocation response.received
    rw [received]
    exact wellFormedResponse_of_data wellFormed (fits other there)

/-- A fetch succeeds where the current values are held and no other `wanted` variant is longer. -/
theorem exists_fetch_of_held (calm : steady state) (present : held state .current = some data)
    {wanted : List PageControl}
    (shorter : ∀ control ∈ wanted, ∀ other, held state control = some other →
      other.bytes.length ≤ data.bytes.length) :
    ∃ images, (Session.effect (editor.fetch device key wanted) state).result = .ok images := by
  obtain ⟨still, same⟩ := conforms.keeps state calm (editor.probeRequest key)
  -- the probe allocated the length of the current values, so no answer is longer
  have usable : ∀ pair ∈ editor.variantAnswers device key data.bytes.length
      (variantsToRead wanted) (editor.probedState device key state),
      editor.Usable key data.bytes.length pair := by
    rintro ⟨control, answer⟩ mem
    have read : control ∈ variantsToRead wanted := by
      rw [← map_fst_variantAnswers (variantsToRead wanted) (editor.probedState device key state)]
      exact List.mem_map.2 ⟨_, mem, rfl⟩
    refine usable_of_held conforms still mem (same ▸ present) fun other there => ?_
    rw [same] at there
    rcases mem_variantsToRead.1 read with rfl | wants
    · rw [present] at there
      cases there
      exact Nat.le_refl _
    · exact shorter control wants other there
  obtain ⟨images, collected⟩ := exists_collect_iff.2 usable
  rw [result_fetch, probedAllocation_of_held conforms calm present]
  exact ⟨images, collected⟩

end Editor

end ModeParameters
