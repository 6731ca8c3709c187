import Mathlib.Data.List.Nodup
import ModeParameters.Proofs.Editor.DryRun
import ModeParameters.Proofs.Editor.PageReports

/-! # The variants beside the current values

The mask of changeable bits, the default and the saved values are extras. They are read after the
current values, so that what is done with these is settled before, whatever the device makes of the
further reads. A change takes a remark from the mask and nothing else; a report takes its columns from
the extras, and stays the same without them. And a device that refuses an extra only leaves it empty. -/

namespace ModeParameters

/-- The images without those of the extra variants: `images.current` alone. -/
def PageImages.onlyCurrent (images : PageImages) : PageImages := { current := images.current }

/-- The images of a page of which only the current values are known. -/
def PageImages.ofCurrent (current : PageImage) : PageImages := { current := some current }

theorem PageImages.onlyCurrent_of_present {images : PageImages} {current : PageImage}
    (present : images.current = some current) : images.onlyCurrent = .ofCurrent current := by
  rw [onlyCurrent, present, ofCurrent]

/-- The report of a field without the values of the extra variants, `report.current` alone. -/
def FieldReport.onlyCurrent (report : FieldReport) : FieldReport :=
  { report with changeable := none, default := none, saved := none }

/-- The report of a page without the values of the extra variants in any of its `fields`. -/
def PageReport.onlyCurrent (report : PageReport) : PageReport :=
  { report with fields := report.fields.map FieldReport.onlyCurrent }

/-! ## Work on the current values alone -/

namespace PagePlan

variable {plan : PagePlan} {images images' : PageImages} {image : PageImage}

/-- A report of `images.onlyCurrent` is the report of all variants without the extra ones. -/
theorem report_onlyCurrent (plan : PagePlan) (images : PageImages) (field : Field) (label : String)
    (index start : Nat) :
    plan.report images.onlyCurrent field label index start =
      (plan.report images field label index start).onlyCurrent := rfl

theorem value_reportBinding_onlyCurrent (plan : PagePlan) (images : PageImages) (binding : Binding) :
    (plan.reportBinding images.onlyCurrent binding).value =
      (plan.reportBinding images binding).value.map FieldReport.onlyCurrent := by
  rw [value_reportBinding, value_reportBinding]
  cases (plan.locate binding.field binding.label binding.descriptorIndex).value with
  | error e => rfl
  | ok start =>
    -- whether there is a current value does not depend on the extra variants
    simp only [Except.bind, report_onlyCurrent]
    by_cases reported : (plan.report images binding.field binding.label binding.descriptorIndex
        start).current.isSome = true
    · rw [if_pos reported]
      exact if_pos reported
    · rw [if_neg reported]
      exact if_neg reported

theorem value_reportField_onlyCurrent (plan : PagePlan) (images : PageImages) (index : Nat)
    (field : Field) :
    (plan.reportField images.onlyCurrent index field).value =
      (plan.reportField images index field).value.map (Option.map FieldReport.onlyCurrent) := by
  rw [value_reportField, value_reportField]
  split
  · cases plan.offsetOf? field index with
    | none => rfl
    | some offset =>
      dsimp only
      cases plan.checkAddress offset with
      | error e => rfl
      | ok start =>
        simp only [Except.map, report_onlyCurrent]
        split <;> rfl
  · rfl

theorem value_reportFields_onlyCurrent (plan : PagePlan) (images : PageImages) (fields : List Field) :
    (plan.reportFields images.onlyCurrent fields).value =
      (plan.reportFields images fields).value.map (List.map FieldReport.onlyCurrent) := by
  have rows (index : Nat) :
      Attempt.value (fields.mapM (plan.reportField images.onlyCurrent index)) =
        (Attempt.value (fields.mapM (plan.reportField images index))).map
          (List.map (Option.map FieldReport.onlyCurrent)) :=
    Attempt.value_mapM_map (value_reportField_onlyCurrent plan images index) fields
  simp only [reportFields, Attempt.value_bind, Attempt.value_pure, Attempt.value_mapM_map rows]
  cases Attempt.value ((List.range plan.count).mapM fun index =>
      fields.mapM (plan.reportField images index)) with
  | error e => rfl
  | ok entries =>
    simp only [Except.map, Except.bind, Except.ok.injEq, ← List.map_flatten, List.filterMap_map,
      List.map_filterMap]
    rfl

/-- What a binding makes of an image does not depend on the other images: the mask of changeable
bits, `images.changeable`, is good for a remark alone. -/
theorem value_apply_congr (plan : PagePlan) (images images' : PageImages) (image : PageImage)
    (binding : Binding) :
    (plan.apply images' image binding).value = (plan.apply images image binding).value := by
  cases action : binding.action with
  | query => rw [apply_query action, apply_query action]
  | set value => rw [value_apply_set action, value_apply_set action]

theorem value_foldlM_apply_congr (plan : PagePlan) (images images' : PageImages) (image : PageImage)
    (bindings : List Binding) :
    (bindings.foldlM (plan.apply images') image).value =
      (bindings.foldlM (plan.apply images) image).value := by
  induction bindings generalizing image with
  | nil => rfl
  | cons binding rest ih =>
    simp only [List.foldlM_cons, Attempt.value_bind, value_apply_congr plan images images', ih]

end PagePlan

namespace Editor

variable {σ : Type} {editor : Editor} {device : Device σ} {key : PageKey} {state : σ}
  {request : Request} {wanted : List PageControl} {images : PageImages} {current : PageImage}

/-- A change is made of `current`, the current values, alone. -/
theorem value_applyRequest_congr (editor : Editor) (request : Request) (images images' : PageImages)
    (current : PageImage) :
    (editor.applyRequest request images' current).value =
      (editor.applyRequest request images current).value := by
  simp only [value_applyRequest, PagePlan.value_foldlM_apply_congr _ images images']

/-- A request is reported alike from `images.onlyCurrent`. -/
theorem value_reportRequest_onlyCurrent (editor : Editor) (request : Request) (images : PageImages)
    (current : PageImage) :
    (editor.reportRequest request images.onlyCurrent current).value =
      (editor.reportRequest request images current).value.map (List.map FieldReport.onlyCurrent) := by
  rw [value_reportRequest, value_reportRequest]
  cases (editor.plan request.page (editor.entryOf request.page) current).value with
  | error e => rfl
  | ok plan =>
    exact Attempt.value_mapM_map (PagePlan.value_reportBinding_onlyCurrent plan images)
      request.bindings

/-- A page is reported alike from `images.onlyCurrent`. -/
theorem value_reportPage_onlyCurrent (editor : Editor) (key : PageKey) (images : PageImages)
    (current : PageImage) :
    (editor.reportPage key images.onlyCurrent current).value =
      (editor.reportPage key images current).value.map PageReport.onlyCurrent := by
  rw [value_reportPage, value_reportPage]
  cases (editor.plan key (editor.entryOf key) current).value with
  | error e => rfl
  | ok plan =>
    simp only [Except.mapError, Except.bind, PagePlan.value_reportFields_onlyCurrent]
    cases (plan.reportFields images (editor.fieldsOf key)).value <;> rfl

/-! ## Fetching the current values alone -/

/-- **A fetch of all wanted variants** that succeeds begins with a fetch of `[.current]`, which
succeeds with the same image of the current values. -/
theorem fetch_onlyCurrent
    (fetched : (Session.effect (editor.fetch device key wanted) state).result = .ok images) :
    (Session.effect (editor.fetch device key [.current]) state).result = .ok images.onlyCurrent := by
  obtain ⟨allocation, response, image, allocated, answer, accepted, filled⟩ :=
    current_of_fetch fetched
  have judged : editor.judge key allocation .current (.ok response) = .ok (some image) :=
    judge_current_eq_ok_iff.2 ⟨response, image, rfl, accepted, rfl⟩
  have order : variantsToRead [.current] = [.current] := by decide
  rw [result_fetch, allocated, order]
  simp only [Except.bind, variantAnswers, variantRequests, List.map_cons, List.map_nil,
    Device.answers, answer, List.zip_cons_cons, List.zip_nil_right, collect, judged,
    PageImages.keep_some, PageImages.insert, control_of_judge judged, PageImages.onlyCurrent, filled]

/-- A device gives a fetch what it needs: the probe and the current values are answered, and what is
answered of the `wanted` variants is well formed. Of a variant that is refused nothing is said. -/
structure Serves (editor : Editor) (device : Device σ) (key : PageKey) (wanted : List PageControl)
    (state : σ) (allocation : Nat) (current : PageImage) : Prop where
  /-- The probe says how much to allocate. -/
  probed : editor.probedAllocation device key state = .ok allocation
  /-- The current values are answered and accepted. -/
  read : ∃ response, (device.sense (editor.senseRequest key .current allocation)
    (editor.probedState device key state)).1 = .ok response ∧
      (editor.validate key .current response allocation).value = .ok current
  /-- Every response among the answers is a `WellFormedResponse`. -/
  wellFormed : ∀ control response,
    (control, .ok response) ∈ editor.variantAnswers device key allocation (variantsToRead wanted)
      (editor.probedState device key state) →
        editor.WellFormedResponse key allocation response.received

/-- **A fetch succeeds** exactly where the device `Serves` it. -/
theorem exists_fetch_iff_serves :
    (∃ images, (Session.effect (editor.fetch device key wanted) state).result = .ok images ∧
        images.current = some current) ↔
      ∃ allocation, editor.Serves device key wanted state allocation current := by
  constructor
  · rintro ⟨images, fetched, present⟩
    obtain ⟨allocation, response, image, allocated, answer, accepted, filled⟩ :=
      current_of_fetch fetched
    obtain rfl : image = current := Option.some.inj (filled.symm.trans present)
    rw [result_fetch, allocated, Except.bind] at fetched
    have usable := exists_collect_iff.1 ⟨images, fetched⟩
    exact ⟨allocation, allocated, ⟨response, answer, accepted⟩,
      fun control response mem => usable (control, .ok response) mem⟩
  · rintro ⟨allocation, allocated, ⟨response, answer, accepted⟩, wellFormed⟩
    let answers := editor.variantAnswers device key allocation (variantsToRead wanted)
      (editor.probedState device key state)
    have controls : answers.map Prod.fst = variantsToRead wanted := map_fst_variantAnswers _ _
    have once : (answers.map Prod.fst).Nodup := controls ▸ nodup_variantsToRead wanted
    have first : (PageControl.current, Except.ok response) ∈ answers := by
      rw [← answer]
      exact List.mem_cons_self
    have usable : ∀ pair ∈ answers, editor.Usable key allocation pair := by
      rintro ⟨control, given⟩ mem
      rcases given with cause | given
      · -- the current values were answered, so they are not what was refused
        rintro rfl
        cases congrArg Prod.snd (List.inj_on_of_nodup_map once mem first rfl)
      · exact wellFormed control given mem
    obtain ⟨images, collected⟩ := exists_collect_iff.2 usable
    have fetched : (Session.effect (editor.fetch device key wanted) state).result = .ok images := by
      rw [result_fetch, allocated, Except.bind]
      exact collected
    have judged := get_of_collect_of_mem collected once first (PageImages.get_empty .current)
    obtain ⟨response', image, same, accepted', filled⟩ := judge_current_eq_ok_iff.1 judged
    cases same
    cases accepted.symm.trans accepted'
    exact ⟨images, fetched, filled⟩

/-! ## Reports without the extra variants -/

/-- The editor that reports fields in their current values alone: `config.allVariants` is not
set. -/
def withoutVariants (editor : Editor) : Editor :=
  { editor with config := { editor.config with allVariants := false } }

section

variable {α : Type} {inspect : PageImages → PageImage → Except Error α} {without : α → α}

/-- What `inspect` makes of the images that a fetch comes to, and of the current values among
them. -/
def inspected (editor : Editor) (device : Device σ) (key : PageKey) (wanted : List PageControl)
    (inspect : PageImages → PageImage → Except Error α) (state : σ) : Except Error α :=
  (Session.effect (editor.fetch device key wanted) state).result.bind fun images =>
    (currentOf key images).bind (inspect images)

theorem inspected_eq_ok_iff {a : α} :
    editor.inspected device key wanted inspect state = .ok a ↔
      ∃ images current, (Session.effect (editor.fetch device key wanted) state).result = .ok images ∧
        images.current = some current ∧ inspect images current = .ok a := by
  simp only [inspected, bind_eq_ok_iff, currentOf_eq_ok_iff]
  constructor
  · rintro ⟨images, fetched, current, present, made⟩
    exact ⟨images, current, fetched, present, made⟩
  · rintro ⟨images, current, fetched, present, made⟩
    exact ⟨images, fetched, current, present, made⟩

variable (settled : ∀ images current,
  inspect images.onlyCurrent current = (inspect images current).map without)
include settled

/-- What `inspect` makes of all wanted variants it makes of the current values alone as well,
`without` the extra ones. -/
theorem inspected_onlyCurrent {a : α}
    (h : editor.inspected device key wanted inspect state = .ok a) :
    editor.inspected device key [.current] inspect state = .ok (without a) := by
  obtain ⟨images, current, fetched, present, made⟩ := inspected_eq_ok_iff.1 h
  refine inspected_eq_ok_iff.2 ⟨images.onlyCurrent, current, fetch_onlyCurrent fetched, present, ?_⟩
  rw [settled, made, Except.map]

/-- Images come to something where the device `Serves` the fetch and `inspect` makes something of
the current values. -/
theorem exists_inspected_iff :
    (∃ a, editor.inspected device key wanted inspect state = .ok a) ↔
      ∃ allocation current, editor.Serves device key wanted state allocation current ∧
        ∃ a, inspect (.ofCurrent current) current = .ok a := by
  constructor
  · rintro ⟨a, h⟩
    obtain ⟨images, current, fetched, present, made⟩ := inspected_eq_ok_iff.1 h
    obtain ⟨allocation, served⟩ := exists_fetch_iff_serves.1 ⟨images, fetched, present⟩
    refine ⟨allocation, current, served, without a, ?_⟩
    rw [← PageImages.onlyCurrent_of_present present, settled, made, Except.map]
  · rintro ⟨allocation, current, served, b, made⟩
    obtain ⟨images, fetched, present⟩ := exists_fetch_iff_serves.2 ⟨allocation, served⟩
    rw [← PageImages.onlyCurrent_of_present present, settled, map_eq_ok_iff] at made
    obtain ⟨a, made, -⟩ := made
    exact ⟨a, inspected_eq_ok_iff.2 ⟨images, current, fetched, present, made⟩⟩

end

/-! ## Changes without the mask of changeable bits -/

/-- The editor that compares the bits it changes with those that can be changed, or does not, by
`config.checkChangeable`. -/
def withCheck (editor : Editor) (checkChangeable : Bool) : Editor :=
  { editor with config := { editor.config with checkChangeable } }

/-- Fields are set alike with the check and without it, but for the variants that are read:
`.changeable` is one of them only with the check. -/
theorem writeFields_withCheck (editor : Editor) (checkChangeable : Bool) (device : Device σ)
    (request : Request) :
    (editor.withCheck checkChangeable).writeFields device request =
      editor.edit device request.page
        (if checkChangeable then [.current, .changeable] else [.current])
        (editor.applyRequest request) := by
  have alike : ReadsAlike editor (editor.withCheck checkChangeable) := ⟨rfl, rfl, rfl⟩
  exact alike.edit_eq rfl rfl device request.page _ (editor.applyRequest request)

/-- An edit whose change is made writes `changed.forSelect` and nothing else. -/
theorem writes_edit_of_changed {change : PageImages → PageImage → Attempt Error PageImage}
    {changed : PageImage}
    (fetched : (Session.effect (editor.fetch device key wanted) state).result = .ok images)
    (present : images.current = some current)
    (applied : (change images current).value = .ok changed) :
    (Session.effect (editor.edit device key wanted change) state).writes =
      (editor.commitEffect device key current.isSavable
        (changed.forSelect editor.config.size).response
        (Session.effect (editor.fetch device key wanted) state).final).writes := by
  rw [effect_edit_of_changed fetched present applied, Effect.writes, List.filterMap_append]
  exact congrArg (· ++ _) (writes_fetch editor device key wanted state)

/-- There is one write of parameters at most in `commitEffect`. -/
theorem writes_commit_of_mem {savable : Bool} {parameters : Bytes} {write : SelectRequest}
    (h : write ∈ (editor.commitEffect device key savable parameters state).writes) :
    (editor.commitEffect device key savable parameters state).writes = [write] := by
  unfold commitEffect at h ⊢
  split at h
  · cases h
  · split at h
    · cases h
    · next attempted dry =>
      rw [if_neg attempted, if_neg dry]
      obtain rfl := List.mem_singleton.1 h
      rfl

section

variable {change : PageImages → PageImage → Attempt Error PageImage}
  (settled : ∀ images images' current,
    (change images' current).value = (change images current).value)
include settled

/-- An edit that is made of the current values comes to the same write, or hands the same parameters
back, when `[.current]` is all that is read. -/
theorem edit_onlyCurrent (editor : Editor) (device : Device σ) (key : PageKey)
    (wanted : List PageControl) (state : σ) :
    let full := Session.effect (editor.edit device key wanted change) state
    let plain := Session.effect (editor.edit device key [.current] change) state
    (∀ write ∈ full.writes, full.writes = [write] ∧ plain.writes = [write]) ∧
      ∀ parameters, full.result = .ok (.dryRun parameters) →
        plain.result = .ok (.dryRun parameters) := by
  intro full plain
  rcases edit_cases editor device key wanted change state with ⟨e, failed, issued⟩ |
    ⟨images, current, changed, fetched, present, applied, done : full = _⟩
  · -- an edit that fails before its write comes to nothing, since a fetch writes nothing
    have unwritten : full.writes = [] :=
      (congrArg (List.filterMap Command.select?) issued).trans
        (writes_fetch editor device key wanted state)
    refine ⟨fun write mem => ?_, fun parameters handed => ?_⟩
    · rw [unwritten] at mem
      cases mem
    · cases failed.symm.trans handed
  · have plainly := fetch_onlyCurrent fetched
    have applied' := (settled images images.onlyCurrent current).trans applied
    have done' : plain = _ := effect_edit_of_changed plainly present applied'
    have writes := writes_edit_of_changed fetched present applied
    have writes' : plain.writes = full.writes := by
      rw [writes, writes_edit_of_changed plainly present applied']
      exact congrArg (List.filterMap Command.select?) (issued_commit _ _ _ _)
    refine ⟨fun write mem => ?_, fun parameters handed => ?_⟩
    · rw [writes', and_self, writes]
      exact writes_commit_of_mem (writes ▸ mem)
    · rw [done] at handed
      rw [done']
      exact result_commit_eq_dryRun_iff.2 (result_commit_eq_dryRun_iff.1 handed)

/-- An edit that is made of the current values comes to something where the device `Serves` the
fetch, the current values can be changed, the page can be saved if it is to be, and the device
accepts the parameters if they are sent to it. -/
theorem exists_result_edit_iff :
    let fetched := Session.effect (editor.fetch device key wanted) state
    (∃ outcome, (Session.effect (editor.edit device key wanted change) state).result = .ok outcome) ↔
      ∃ allocation current changed, editor.Serves device key wanted state allocation current ∧
        (change (.ofCurrent current) current).value = .ok changed ∧
        (editor.config.save = true → current.isSavable = true) ∧
        (editor.config.dryRun = false → (device.select (editor.selectRequest
          (changed.forSelect editor.config.size).response) fetched.final).1 = .ok ()) := by
  intro fetched
  simp only [result_edit_eq_ok_iff]
  constructor
  · rintro ⟨outcome, images, current, changed, done, present, applied, committed⟩
    obtain ⟨allocation, served⟩ := exists_fetch_iff_serves.1 ⟨images, done, present⟩
    exact ⟨allocation, current, changed, served, (settled images _ current).trans applied,
      exists_result_commit_iff.1 ⟨outcome, committed⟩⟩
  · rintro ⟨allocation, current, changed, served, applied, accepted⟩
    obtain ⟨images, done, present⟩ := exists_fetch_iff_serves.2 ⟨allocation, served⟩
    obtain ⟨outcome, committed⟩ := exists_result_commit_iff.2 accepted
    exact ⟨outcome, images, current, changed, done, present, (settled _ images current).trans applied,
      committed⟩

end

/-- **The extra variants are advisory.** Whatever the device, the tables and the settings, a change
with `withCheck true` that goes on to its write, or hands its parameters back, does so with the same
parameters and the same wish to save with `withCheck false`. Fields that are reported in all
variants are reported without them too, with the same values but for those of the extra variants.
And whether a page is reported, fields are reported or a change is made is decided by the probe, the
current values and the responses to the other reads being well formed (`Serves`): that one of these
is refused decides nothing. -/
theorem extra_variants_advisory (editor : Editor) (device : Device σ) (state : σ) :
    (∀ request,
      let checked := Session.effect ((editor.withCheck true).writeFields device request) state
      let plain := Session.effect ((editor.withCheck false).writeFields device request) state
      (∀ write ∈ checked.writes, checked.writes = [write] ∧ plain.writes = [write]) ∧
        ∀ parameters, checked.result = .ok (.dryRun parameters) →
          plain.result = .ok (.dryRun parameters)) ∧
    (∀ request reports,
      (Session.effect (editor.withAllVariants.readFields device request) state).result = .ok reports →
        (Session.effect (editor.withoutVariants.readFields device request) state).result =
          .ok (reports.map FieldReport.onlyCurrent)) ∧
    (∀ key, (∃ report, (Session.effect (editor.readPage device key) state).result = .ok report) ↔
      ∃ allocation current, editor.Serves device key PageControl.all state allocation current ∧
        ∃ report, (editor.reportPage key (.ofCurrent current) current).value = .ok report) ∧
    (∀ request,
      (∃ reports, (Session.effect (editor.readFields device request) state).result = .ok reports) ↔
        ∃ allocation current, editor.Serves device request.page
            ((Operation.readFields request).wanted editor.config) state allocation current ∧
          ∃ reports, (editor.reportRequest request (.ofCurrent current) current).value =
            .ok reports) ∧
    ∀ request,
      let wanted := (Operation.writeFields request).wanted editor.config
      let fetched := Session.effect (editor.fetch device request.page wanted) state
      (∃ outcome, (Session.effect (editor.writeFields device request) state).result = .ok outcome) ↔
        ∃ allocation current changed,
          editor.Serves device request.page wanted state allocation current ∧
          (editor.applyRequest request (.ofCurrent current) current).value = .ok changed ∧
          (editor.config.save = true → current.isSavable = true) ∧
          (editor.config.dryRun = false → (device.select (editor.selectRequest
            (changed.forSelect editor.config.size).response) fetched.final).1 = .ok ()) := by
  refine ⟨fun request => ?_, fun request reports reported => ?_, fun key => ?_, fun request => ?_,
    fun request => ?_⟩
  · rw [writeFields_withCheck, writeFields_withCheck]
    exact edit_onlyCurrent (value_applyRequest_congr editor request) editor device request.page _ state
  · have alike : ReadsAlike editor editor.withoutVariants := ⟨rfl, rfl, rfl⟩
    rw [result_readFields_withAllVariants] at reported
    rw [effect_readFields, alike.fetch_eq]
    exact inspected_onlyCurrent (value_reportRequest_onlyCurrent editor request) reported
  · rw [effect_readPage]
    exact exists_inspected_iff (value_reportPage_onlyCurrent editor key)
  · rw [effect_readFields]
    exact exists_inspected_iff (value_reportRequest_onlyCurrent editor request)
  · exact exists_result_edit_iff (value_applyRequest_congr editor request)

end Editor

/-! ## A sample -/

namespace Sample

/-- The sample device refuses the mask and the saved values of its caching page. The page is written
all the same, and reported with its default values or without them. -/
theorem caching_without_mask :
    let changed (check : Bool) := Session.effect ((sixByteEditor.withCheck check).writeFields
      MemoryDevice.device ⟨caching.key, cachingBindings⟩) cachingDevice
    let write : SelectRequest := ⟨.six, false, [0x00, 0x00, 0x00, 0x00, 0x08, 0x02, 0xF4, 0x00]⟩
    let flags : Field := .ofSpan caching.key ⟨2, 7, 8⟩
    let request : Request := ⟨caching.key, [⟨flags, .query, none, none, none⟩]⟩
    let report : FieldReport := ⟨"2:7:8", flags, 0, some ⟨4, false⟩, none, some ⟨1, false⟩, none⟩
    (∀ control ∈ [PageControl.changeable, .saved],
      (MemoryDevice.device.sense (sixByteEditor.senseRequest caching.key control 8) cachingDevice).1 =
        .error .illegalRequest) ∧
      (changed true).writes = [write] ∧ (changed false).writes = [write] ∧
      (Session.effect (sixByteEditor.withAllVariants.readFields MemoryDevice.device request)
        cachingDevice).result = .ok [report] ∧
      (Session.effect (sixByteEditor.withoutVariants.readFields MemoryDevice.device request)
        cachingDevice).result = .ok [report.onlyCurrent] := by
  intro changed write flags request report
  obtain ⟨changes, reports, -⟩ :=
    Editor.extra_variants_advisory sixByteEditor MemoryDevice.device cachingDevice
  have wrote : write ∈ (changed true).writes := by decide +kernel
  have reported : (Session.effect (sixByteEditor.withAllVariants.readFields MemoryDevice.device
      request) cachingDevice).result = .ok [report] := by decide +kernel
  obtain ⟨checked, plain⟩ := (changes ⟨caching.key, cachingBindings⟩).1 write wrote
  exact ⟨by decide, checked, plain, reported, reports request [report] reported⟩

end Sample

end ModeParameters
