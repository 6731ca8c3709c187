import ModeParameters.Proofs.Editor.Edits

/-! # Default values

A page is set to its defaults by copying: the current values are written back with the body of the
default page in place of their own. Nothing says that the two responses agree. Each is judged on its
own, and they may differ in the length of the page, in the block descriptors and even in the page
header; what is copied starts behind the header of the current page and ends with the shorter one. -/

namespace ModeParameters.Editor

variable {σ : Type} {editor : Editor} {device : Device σ} {key : PageKey} {state : σ}

/-! ## What is copied -/

/-- The parameters that set a page to its default values, byte by byte: those of the response with
the current values, but for the length of the mode data, the `savableBit` and the body of the
page. -/
structure Restores (size : CommandSize) (current default : PageImage) (parameters : Bytes) : Prop where
  /-- They are as long as the response. -/
  length_eq : parameters.length = current.response.length
  /-- The length of the mode data is clear, `lengthFieldWidth` bytes of it. -/
  length_clear : ∀ i < size.lengthFieldWidth, parameters.getD i 0 = 0
  /-- The first byte of the page is the one of the response with the `savableBit` clear. -/
  first_eq : parameters.getD current.offset 0 =
    current.response.getD current.offset 0 &&& ~~~Page.savableBit
  /-- The body of the page is that of the default page, as far as both pages reach. -/
  body_eq : ∀ i, Page.headerLength current.page ≤ i →
    i < min current.pageLength default.pageLength →
      parameters.getD (current.offset + i) 0 = default.page.getD i 0
  /-- Every other byte is that of the response. -/
  rest_eq : ∀ i, size.lengthFieldWidth ≤ i → i ≠ current.offset →
    ¬(current.offset + Page.headerLength current.page ≤ i ∧
      i < current.offset + min current.pageLength default.pageLength) →
        parameters.getD i 0 = current.response.getD i 0

/-- The parameters that set a page to its default values (`Restores`) are determined. -/
theorem Restores.unique {size : CommandSize} {current default : PageImage}
    {parameters parameters' : Bytes} (h : Restores size current default parameters)
    (h' : Restores size current default parameters') : parameters' = parameters := by
  have same (i : Nat) : parameters'.getD i 0 = parameters.getD i 0 := by
    by_cases field : i < size.lengthFieldWidth
    · rw [h.length_clear i field, h'.length_clear i field]
    by_cases first : i = current.offset
    · rw [first, h.first_eq, h'.first_eq]
    by_cases body : current.offset + Page.headerLength current.page ≤ i ∧
        i < current.offset + min current.pageLength default.pageLength
    · have place : current.offset + (i - current.offset) = i := by omega
      rw [← place, h.body_eq _ (by omega) (by omega), h'.body_eq _ (by omega) (by omega)]
    · rw [h.rest_eq i (by omega) first body, h'.rest_eq i (by omega) first body]
  refine List.ext_getElem (h'.length_eq.trans h.length_eq.symm) fun i inside' inside => ?_
  rw [← List.getD_eq_getElem _ 0 inside', ← List.getD_eq_getElem _ 0 inside, same]

/-- The current values with the body of the default page, which is what `applyDefaults` makes. -/
def withBody (current default : PageImage) : PageImage :=
  current.overwrite (Page.headerLength current.page)
    (Bytes.window default.page (Page.headerLength current.page)
      (min current.pageLength default.pageLength - Page.headerLength current.page))

/-- Default values are copied (`withBody`) where there are some; the remark on pages of different
lengths decides nothing. -/
theorem value_applyDefaults (key : PageKey) (images : PageImages) (current : PageImage) :
    (applyDefaults key images current).value =
      match images.default with
      | none => .error (.conflict (.noDefaults key))
      | some default => .ok (withBody current default) := by
  unfold applyDefaults
  cases images.default with
  | none => rfl
  | some default =>
    dsimp only
    split <;> rfl

/-- The bits of the parameters that set a page to its default values: `withBody`, made ready by
`forSelect`. -/
theorem bit_withBody_forSelect (current default : PageImage) (size : CommandSize) (i : Nat) :
    ((withBody current default).forSelect size).response.bit i =
      if i < 8 * size.lengthFieldWidth ∨ i = 8 * current.offset then false
      else if 8 * (current.offset + Page.headerLength current.page) ≤ i ∧
          i < 8 * (current.offset + min current.pageLength default.pageLength) then
        default.page.bit (i - 8 * current.offset)
      else current.response.bit i := by
  rw [PageImage.bit_forSelect, withBody, (PageImage.samePlace_overwrite current _ _).offset_eq,
    PageImage.bit_overwrite_body]

/-- **What is written** `Restores` the default values, as long as the page starts behind the length
of the mode data. -/
theorem restores_withBody {size : CommandSize} {current : PageImage}
    (behind : size.lengthFieldWidth ≤ current.offset) (default : PageImage) :
    Restores size current default ((withBody current default).forSelect size).response := by
  have positive := Page.headerLength_pos current.page
  have bits := bit_withBody_forSelect current default size
  have place := PageImage.samePlace_overwrite current (Page.headerLength current.page)
    (Bytes.window default.page (Page.headerLength current.page)
      (min current.pageLength default.pageLength - Page.headerLength current.page))
  refine ⟨((withBody current default).samePlace_forSelect size).length_eq.trans place.length_eq,
    fun i field => ?_, ?_, fun i inBody within => ?_, fun i field first body => ?_⟩
  · -- a byte with no bit set is the one behind the end of a string
    have clear : ∀ k < 8, ((withBody current default).forSelect size).response.bit (8 * i + k) =
        Bytes.bit [] (8 * 0 + k) := by
      intro k small
      rw [bits, if_pos (.inl (by omega)), Bytes.bit_eq_false_of_le (by simp)]
    exact Bytes.getD_congr clear
  · refine Page.getD_clearSavable ?_ fun k positive small => ?_
    · rw [bits, if_pos (.inr rfl)]
    · rw [bits, if_neg (by omega), if_neg (by omega)]
  · refine Bytes.getD_congr fun k small => ?_
    rw [bits, if_neg (by omega), if_pos (by omega),
      show 8 * (current.offset + i) + k - 8 * current.offset = 8 * i + k by omega]
  · refine Bytes.getD_congr fun k small => ?_
    rw [bits, if_neg (by omega), if_neg (by omega)]

/-! ## What a reset comes to -/

/-- The page of current values that were fetched starts behind the mode parameter header, of
`headerLength` bytes. -/
theorem headerLength_le_offset_of_fetch {wanted : List PageControl} {images : PageImages}
    {current : PageImage}
    (fetched : (Session.effect (editor.fetch device key wanted) state).result = .ok images)
    (present : images.current = some current) :
    editor.config.size.headerLength ≤ current.offset := by
  obtain ⟨_, response, image, -, -, accepted, filled⟩ := current_of_fetch fetched
  obtain rfl : image = current := Option.some.inj (filled.symm.trans present)
  rw [(validate_eq_ok_iff.1 accepted).2.2.2.1]
  exact ModeHeader.headerLength_le_pageOffsetAt _ _

/-- **A reset comes to parameters** (`Produces`) where both variants are fetched, and the page can
be saved if it is to be; they are then the current values with the body of the default page. -/
theorem produces_restoreDefaults_iff {parameters : Bytes} :
    Produces (Session.effect (editor.restoreDefaults device key) state) parameters ↔
      ∃ images current default,
        (Session.effect (editor.fetch device key [.current, .default]) state).result = .ok images ∧
          images.current = some current ∧ images.default = some default ∧
          (editor.config.save = true → current.isSavable = true) ∧
          Restores editor.config.size current default parameters := by
  unfold restoreDefaults
  rw [produces_edit_iff]
  have restored {images : PageImages} {current : PageImage}
      (fetched : (Session.effect (editor.fetch device key [.current, .default]) state).result =
        .ok images) (present : images.current = some current) (default : PageImage) :
      Restores editor.config.size current default
        ((withBody current default).forSelect editor.config.size).response :=
    restores_withBody (Nat.le_trans editor.config.size.lengthFieldWidth_le_headerLength
      (headerLength_le_offset_of_fetch fetched present)) default
  constructor
  · rintro ⟨images, current, changed, fetched, present, applied, savable, rfl⟩
    rw [value_applyDefaults] at applied
    cases there : images.default with
    | none =>
      rw [there] at applied
      cases applied
    | some default =>
      rw [there] at applied
      cases applied
      exact ⟨images, current, default, fetched, present, there, savable,
        restored fetched present default⟩
  · rintro ⟨images, current, default, fetched, present, there, savable, restores⟩
    refine ⟨images, current, withBody current default, fetched, present, ?_, savable,
      (restored fetched present default).unique restores⟩
    rw [value_applyDefaults, there]

/-- A reset fails with `noDefaults` exactly where default values are what the fetch does not
have. -/
theorem restoreDefaults_eq_noDefaults_iff {key' : PageKey} :
    (Session.effect (editor.restoreDefaults device key) state).result =
        .error (.conflict (.noDefaults key')) ↔
      key' = key ∧ ∃ images,
        (Session.effect (editor.fetch device key [.current, .default]) state).result = .ok images ∧
          images.default = none := by
  unfold restoreDefaults
  rw [result_edit, bind_eq_error_iff, or_iff_right (fetch_ne_conflict _ state _)]
  simp only [bind_eq_error_iff]
  constructor
  · rintro ⟨images, fetched, failed | ⟨made, -, failed⟩⟩
    · rw [changeOf, bind_eq_error_iff] at failed
      rcases failed with failed | ⟨current, -, failed⟩
      · unfold currentOf at failed
        split at failed <;> cases failed
      · rw [map_eq_error_iff, value_applyDefaults] at failed
        cases there : images.default with
        | none =>
          rw [there] at failed
          cases failed
          exact ⟨rfl, images, fetched, there⟩
        | some default =>
          rw [there] at failed
          cases failed
    · exact absurd failed (commit_ne_noDefaults _ _ _ _)
  · rintro ⟨rfl, images, fetched, missing⟩
    obtain ⟨-, -, current, -, -, -, present⟩ := current_of_fetch fetched
    refine ⟨images, fetched, .inl ?_⟩
    rw [changeOf, currentOf, present, Except.bind, map_eq_error_iff, value_applyDefaults, missing]

/-- Nothing is written by a reset that fails with `noDefaults`: no `Command.select` is issued. -/
theorem select_notMem_of_noDefaults {key' : PageKey}
    (failed : (Session.effect (editor.restoreDefaults device key) state).result =
      .error (.conflict (.noDefaults key'))) (request : SelectRequest) :
    Command.select request ∉
      (Session.effect (editor.restoreDefaults device key) state).issued := by
  intro wrote
  have produced : Produces (Session.effect (editor.restoreDefaults device key) state)
      request.parameters := .inr ⟨request, wrote, rfl⟩
  obtain ⟨images, -, default, fetched, -, there, -⟩ := produces_restoreDefaults_iff.1 produced
  obtain ⟨-, images', fetched', missing⟩ := restoreDefaults_eq_noDefaults_iff.1 failed
  cases fetched.symm.trans fetched'
  cases there.symm.trans missing

/-! ## The reads of a reset -/

/-- A reset reads the current values, then the `default` ones. -/
theorem fetch_defaults_eq_ok_iff {images : PageImages} :
    (Session.effect (editor.fetch device key [.current, .default]) state).result = .ok images ↔
      ∃ allocation, editor.probedAllocation device key state = .ok allocation ∧
        let read := device.sense (editor.senseRequest key .current allocation)
          (editor.probedState device key state)
        ∃ current default, editor.judge key allocation .current read.1 = .ok (some current) ∧
          editor.judge key allocation .default
            (device.sense (editor.senseRequest key .default allocation) read.2).1 = .ok default ∧
          images = { current := some current, default } := by
  have order : variantsToRead [.current, .default] = [.current, .default] := by decide
  rw [result_fetch, bind_eq_ok_iff, order]
  refine exists_congr fun allocation => and_congr_right fun _ => ?_
  simp only [variantAnswers, variantRequests, List.map_cons, List.map_nil, Device.answers,
    List.zip_cons_cons, List.zip_nil_right, collect_cons_eq_ok_iff]
  simp only [collect, Except.ok.injEq]
  -- each image goes to the place of its variant
  have placed {read later : SenseAnswer} {current : PageImage} {default : Option PageImage}
      (judged : editor.judge key allocation .current read = .ok (some current))
      (judged' : editor.judge key allocation .default later = .ok default) :
      (PageImages.keep {} (some current)).keep default = { current := some current, default } := by
    have first := control_of_judge judged
    cases default with
    | none => simp [PageImages.insert, first]
    | some default =>
      have second := control_of_judge judged'
      simp [PageImages.insert, first, second]
  constructor
  · rintro ⟨_, judged, default, judged', rfl⟩
    obtain ⟨-, current, -, -, rfl⟩ := judge_current_eq_ok_iff.1 judged
    exact ⟨current, default, judged, judged', placed judged judged'⟩
  · rintro ⟨current, default, judged, judged', rfl⟩
    exact ⟨_, judged, default, judged', placed judged judged'⟩

end ModeParameters.Editor
