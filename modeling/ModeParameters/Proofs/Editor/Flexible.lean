import ModeParameters.Proofs.Editor.PageReports

/-! # Bearing faults only relaxes

An editor that bears faults of responses does everything that the same editor does without: whatever
succeeds in strict mode is done with the same commands and comes to the same, except that a field which
ends behind the page of a variant may have a value in that variant. -/

namespace ModeParameters

namespace Editor

/-- The editor that bears faults: `config.flexible` is set. -/
def relaxed (editor : Editor) : Editor :=
  { editor with config := { editor.config with flexible := true } }

end Editor

/-- The plan by which fields may end behind the page: `flexible` is set. -/
def PagePlan.relaxed (plan : PagePlan) : PagePlan := { plan with flexible := true }

variable {σ : Type} {editor : Editor} {device : Device σ} {key : PageKey} {allocation : Nat}
  {plan : PagePlan} {images : PageImages} {field : Field} {label : String} {index start : Nat}

/-- Whatever an effect `e` comes to, `e'` comes to something related by `R`, with the same commands
and the same state. -/
def Effect.KeepsSuccess {α : Type} (R : α → α → Prop) (e e' : Effect σ α) : Prop :=
  ∀ a, e.result = .ok a → ∃ a', e' = ⟨.ok a', e.issued, e.final⟩ ∧ R a a'

/-- An effect that is the same wherever another one comes to something keeps what that one comes to,
up to `Eq`. -/
theorem Effect.keepsSuccess_of_eq {α : Type} {e e' : Effect σ α}
    (same : ∀ a, e.result = .ok a → e' = e) : e.KeepsSuccess Eq e' := by
  intro a done
  refine ⟨a, ?_, rfl⟩
  rw [same a done, ← done]

/-! ## Fetching -/

namespace Editor

/-- A well-formed response is well formed for `editor.relaxed` too. -/
theorem WellFormedResponse.relaxed {received : Bytes}
    (h : editor.WellFormedResponse key allocation received) :
    editor.relaxed.WellFormedResponse key allocation received where
  header_le := h.header_le
  total_le := .inr rfl
  kept_le := h.kept_le
  page_held := h.page_held

theorem validate_relaxed {control : PageControl} {response : SenseResponse} {image : PageImage}
    (h : (editor.validate key control response allocation).value = .ok image) :
    (editor.relaxed.validate key control response allocation).value = .ok image := by
  rw [validate_eq_ok_iff] at h ⊢
  exact ⟨h.1.relaxed, h.2⟩

theorem judge_relaxed {control : PageControl} {answer : SenseAnswer} {image : Option PageImage}
    (h : editor.judge key allocation control answer = .ok image) :
    editor.relaxed.judge key allocation control answer = .ok image := by
  rcases answer with cause | response
  · exact h
  · simp only [judge, map_eq_ok_iff, mapError_eq_ok_iff] at h ⊢
    obtain ⟨image, accepted, rfl⟩ := h
    exact ⟨image, validate_relaxed accepted, rfl⟩

theorem collect_relaxed {answers : List (PageControl × SenseAnswer)} {images images' : PageImages}
    (h : editor.collect key allocation answers images = .ok images') :
    editor.relaxed.collect key allocation answers images = .ok images' := by
  induction answers generalizing images with
  | nil => exact h
  | cons pair rest ih =>
    rw [collect_cons_eq_ok_iff] at h ⊢
    obtain ⟨image, judged, collected⟩ := h
    exact ⟨image, judge_relaxed judged, ih collected⟩

/-- **A fetch that succeeds** is the same for `editor.relaxed`. -/
theorem effect_fetch_relaxed {wanted : List PageControl} {state : σ} {images : PageImages}
    (h : (Session.effect (editor.fetch device key wanted) state).result = .ok images) :
    Session.effect (editor.relaxed.fetch device key wanted) state =
      Session.effect (editor.fetch device key wanted) state := by
  rw [result_fetch, bind_eq_ok_iff] at h
  obtain ⟨allocation, allocated, collected⟩ := h
  have allocated' : editor.relaxed.probedAllocation device key state = .ok allocation := allocated
  -- strict or not, the probe and the reads are the same, and so are the answers to them
  rw [effect_fetch_of_collect allocated collected,
    effect_fetch_of_collect allocated' (collect_relaxed collected)]
  rfl

/-! ## Placing fields -/

theorem plan_relaxed {entry : Option PageEntry} {image : PageImage} {plan : PagePlan}
    (h : (editor.plan key entry image).value = .ok plan) :
    (editor.relaxed.plan key entry image).value = .ok plan.relaxed := by
  rw [plan_eq_ok_iff] at h ⊢
  obtain ⟨layout, found, rfl⟩ := h
  exact ⟨layout, found, rfl⟩

end Editor

namespace PagePlan

theorem applies_relaxed : plan.relaxed.applies = plan.applies := rfl

theorem offsetOf?_relaxed : plan.relaxed.offsetOf? = plan.offsetOf? := rfl

theorem endsBeyond_relaxed : plan.relaxed.endsBeyond = plan.endsBeyond := rfl

theorem locate_relaxed (h : (plan.locate field label index).value = .ok start) :
    (plan.relaxed.locate field label index).value = .ok start := by
  rw [locate_eq_ok_iff] at h ⊢
  exact ⟨h.1, h.2.1, fun _ => rfl⟩

/-! ## Changes -/

theorem apply_relaxed {image image' : PageImage} {binding : Binding}
    (h : (plan.apply images image binding).value = .ok image') :
    (plan.relaxed.apply images image binding).value = .ok image' := by
  cases action : binding.action with
  | query =>
    rw [apply_query action] at h ⊢
    exact h
  | set value =>
    rw [apply_set_eq_ok_iff action] at h ⊢
    obtain ⟨start, located, done⟩ := h
    exact ⟨start, locate_relaxed located, done⟩

theorem foldlM_relaxed {image image' : PageImage} {bindings : List Binding}
    (h : (bindings.foldlM (plan.apply images) image).value = .ok image') :
    (bindings.foldlM (plan.relaxed.apply images) image).value = .ok image' := by
  induction bindings generalizing image with
  | nil =>
    rw [List.foldlM_nil] at h ⊢
    exact h
  | cons binding rest ih =>
    rw [List.foldlM_cons, Attempt.value_bind_eq_ok_iff] at h ⊢
    obtain ⟨between, applied, others⟩ := h
    exact ⟨between, apply_relaxed applied, ih others⟩

end PagePlan

namespace Editor

theorem applyRequest_relaxed {request : Request} {images : PageImages} {current changed : PageImage}
    (h : (editor.applyRequest request images current).value = .ok changed) :
    (editor.relaxed.applyRequest request images current).value = .ok changed := by
  rw [applyRequest_eq_ok_iff] at h ⊢
  obtain ⟨plan, planned, applied⟩ := h
  exact ⟨plan.relaxed, plan_relaxed planned, PagePlan.foldlM_relaxed applied⟩

/-- **An edit that succeeds** is the same for `editor.relaxed`, with a `change'` that then makes the
same of the images as `change`. -/
theorem effect_edit_relaxed {wanted : List PageControl}
    {change change' : PageImages → PageImage → Attempt Error PageImage} {state : σ}
    {outcome : EditOutcome}
    (weaker : ∀ images current changed, (change images current).value = .ok changed →
      (change' images current).value = .ok changed)
    (h : (Session.effect (editor.edit device key wanted change) state).result = .ok outcome) :
    Session.effect (editor.relaxed.edit device key wanted change') state =
      Session.effect (editor.edit device key wanted change) state := by
  rw [(does_edit wanted change).effect_eq] at h ⊢
  rw [(does_edit wanted change').effect_eq]
  refine Effect.andThen_congr h (fun images fetched => effect_fetch_relaxed fetched) ?_
  intro images fetched made
  refine Effect.andThen_congr made (fun parameters changed => ?_) fun _ _ _ => rfl
  -- what the change makes of the images is handed on as it was
  obtain ⟨current, image, present, applied, same⟩ := changeOf_eq_ok_iff.1 changed
  have changed' : editor.relaxed.changeOf key change' images = .ok parameters :=
    changeOf_eq_ok_iff.2 ⟨current, image, present, weaker _ _ _ applied, same⟩
  dsimp only at changed ⊢
  rw [changed, changed']

end Editor

/-! ## Reports -/

/-- A report is extended by one of the same field, in which `value` gives something for more
variants. -/
structure FieldReport.Extends (report report' : FieldReport) : Prop where
  /-- The field is called the same. -/
  label_eq : report'.label = report.label
  /-- It is the same field. -/
  field_eq : report'.field = report.field
  /-- It is in the same descriptor. -/
  index_eq : report'.index = report.index
  /-- It has the same current value, or none in either report. -/
  current_eq : report'.current = report.current
  /-- Values of the other variants are kept. -/
  value_eq : ∀ control value, report.value control = some value → report'.value control = some value

/-- A report of a page is extended by one that is the same but for extended reports of its fields. -/
structure PageReport.Extends (report report' : PageReport) : Prop where
  /-- It is the same page. -/
  key_eq : report'.key = report.key
  /-- It has the same entry in the tables. -/
  entry_eq : report'.entry = report.entry
  /-- It can be saved alike. -/
  savable_eq : report'.savable = report.savable
  /-- It has as many descriptors. -/
  descriptorCount_eq : report'.descriptorCount = report.descriptorCount
  /-- The reports of its fields are extended one by one, in order. -/
  fields : List.Forall₂ FieldReport.Extends report.fields report'.fields

namespace PagePlan

/-- Bearing faults extends the report of a field, provided that it finds no `current` value in
addition. -/
theorem extends_relaxed
    (settled : (plan.report images field label index start).current = none →
      (plan.relaxed.report images field label index start).current = none) :
    (plan.report images field label index start).Extends
      (plan.relaxed.report images field label index start) := by
  have values : ∀ control value,
      (plan.report images field label index start).value control = some value →
        (plan.relaxed.report images field label index start).value control = some value := by
    intro control value shown
    rw [value_report, Option.bind_eq_some_iff] at shown ⊢
    obtain ⟨image, got, valued⟩ := shown
    exact ⟨image, got, PageImage.value?_of_page valued⟩
  refine ⟨rfl, rfl, rfl, ?_, values⟩
  cases current : (plan.report images field label index start).current with
  | none => exact settled current
  | some value => exact values .current value current

/-- A field for which `endsBeyond` does not hold has no `current` value in addition. -/
theorem current_relaxed {current : PageImage} (present : images.current = some current)
    (length : plan.length = current.pageLength) (within : plan.endsBeyond field start = false) :
    (plan.relaxed.report images field label index start).current =
      (plan.report images field label index start).current := by
  rw [endsBeyond, decide_eq_false_iff_not, Nat.not_lt, length] at within
  change (images.current.bind fun image => image.value? field start true) =
    images.current.bind fun image => image.value? field start plan.flexible
  rw [present, Option.bind_some, Option.bind_some]
  cases plan.flexible with
  | true => rfl
  | false => exact PageImage.value?_eq_of_within within

/-- A field that is reported in strict mode is reported where faults are borne, and a field that is left
out is left out. -/
theorem reportField_relaxed {current : PageImage} {report? : Option FieldReport}
    (present : images.current = some current) (length : plan.length = current.pageLength)
    (h : (plan.reportField images index field).value = .ok report?) :
    ∃ report?', (plan.relaxed.reportField images index field).value = .ok report?' ∧
      Option.Rel FieldReport.Extends report? report?' := by
  cases report? with
  | some entry =>
    obtain ⟨applied, start, found, address, within, rfl⟩ := reportField_eq_some_iff.1 h
    refine ⟨some _, reportField_eq_some_iff.2 ⟨applied, start, found, address, within, rfl⟩, .some ?_⟩
    exact extends_relaxed fun none => (current_relaxed present length within).trans none
  | none =>
    refine ⟨none, ?_, .none⟩
    rwa [reportField_eq_none_iff, applies_relaxed, offsetOf?_relaxed, endsBeyond_relaxed,
      ← reportField_eq_none_iff]

theorem reportFields_relaxed {current : PageImage} {fields : List Field} {reports : List FieldReport}
    (present : images.current = some current) (length : plan.length = current.pageLength)
    (h : (plan.reportFields images fields).value = .ok reports) :
    ∃ reports', (plan.relaxed.reportFields images fields).value = .ok reports' ∧
      List.Forall₂ FieldReport.Extends reports reports' := by
  obtain ⟨rows, made, done⟩ := Attempt.value_bind_eq_ok_iff.1 h
  have row {index : Nat} {entries : List (Option FieldReport)}
      (made : Attempt.value (fields.mapM (plan.reportField images index)) = .ok entries) :
      ∃ entries', Attempt.value (fields.mapM (plan.relaxed.reportField images index)) = .ok entries' ∧
        List.Forall₂ (Option.Rel FieldReport.Extends) entries entries' :=
    Attempt.exists_value_mapM_of_forall₂
      (fun field _ report? single => reportField_relaxed present length single) made
  obtain ⟨rows', made', related⟩ :=
    Attempt.exists_value_mapM_of_forall₂ (fun index _ entries reported => row reported) made
  have entries : List.Forall₂ (Option.Rel FieldReport.Extends) rows.flatten rows'.flatten :=
    List.rel_flatten related
  cases done
  refine ⟨rows'.flatten.filterMap id, Attempt.value_bind_eq_ok_iff.2 ⟨rows', made', rfl⟩, ?_⟩
  exact List.rel_filterMap (fun _ _ related => related) entries

/-- A binding for which `reportBinding` succeeds in strict mode is reported where faults are
borne. -/
theorem reportBinding_relaxed {binding : Binding} {report : FieldReport}
    (h : (plan.reportBinding images binding).value = .ok report) :
    ∃ report', (plan.relaxed.reportBinding images binding).value = .ok report' ∧
      report.Extends report' := by
  obtain ⟨start, located, rfl, reported⟩ := reportBinding_eq_ok_iff.1 h
  have extended : (plan.report images binding.field binding.label binding.descriptorIndex start).Extends
      (plan.relaxed.report images binding.field binding.label binding.descriptorIndex start) := by
    refine extends_relaxed fun none => ?_
    rw [none] at reported
    cases reported
  refine ⟨_, reportBinding_eq_ok_iff.2 ⟨start, locate_relaxed located, rfl, ?_⟩, extended⟩
  rw [extended.current_eq]
  exact reported

end PagePlan

namespace Editor

/-- Fields that `readFields` reports in strict mode are reported where faults are borne, each report
extended. -/
theorem readFields_relaxed (request : Request) (state : σ) :
    (Session.effect (editor.readFields device request) state).KeepsSuccess
      (List.Forall₂ FieldReport.Extends)
      (Session.effect (editor.relaxed.readFields device request) state) := by
  intro reports done
  obtain ⟨images, current, plan, fetched, present, planned, reported⟩ := result_readFields_iff.1 done
  have fetch := effect_fetch_relaxed fetched
  obtain ⟨reports', made, extended⟩ := Attempt.exists_value_mapM_of_forall₂
    (fun _ _ _ single => PagePlan.reportBinding_relaxed single)
    (Attempt.value_mapM_eq_ok_iff.2 reported)
  have done' : (Session.effect (editor.relaxed.readFields device request) state).result =
      .ok reports' :=
    result_readFields_iff.2 ⟨images, current, plan.relaxed, (congrArg Effect.result fetch).trans fetched,
      present, plan_relaxed planned, Attempt.value_mapM_eq_ok_iff.1 made⟩
  refine ⟨reports', ?_, extended⟩
  rw [← done', effect_readFields, effect_readFields]
  exact congrArg₂ _ (congrArg Effect.issued fetch) (congrArg Effect.final fetch)

/-- A page that `readPage` reports in strict mode is reported where faults are borne, and the report
extended. -/
theorem readPage_relaxed (key : PageKey) (state : σ) :
    (Session.effect (editor.readPage device key) state).KeepsSuccess PageReport.Extends
      (Session.effect (editor.relaxed.readPage device key) state) := by
  intro report done
  obtain ⟨images, current, plan, fields, planned, reported, rfl⟩ := result_readPage_iff.1 done
  have fetch := effect_fetch_relaxed planned.fetched
  obtain ⟨fields', reported', extended⟩ :=
    PagePlan.reportFields_relaxed planned.present planned.length_eq reported
  let report' : PageReport := ⟨key, editor.entryOf key, current.isSavable, plan.count, fields'⟩
  have done' : (Session.effect (editor.relaxed.readPage device key) state).result = .ok report' :=
    result_readPage_iff.2 ⟨images, current, plan.relaxed, fields',
      ⟨(congrArg Effect.result fetch).trans planned.fetched, planned.present,
        plan_relaxed planned.planned⟩, reported', rfl⟩
  refine ⟨report', ?_, ⟨rfl, rfl, rfl, rfl, extended⟩⟩
  rw [← done', effect_readPage, effect_readPage]
  exact congrArg₂ _ (congrArg Effect.issued fetch) (congrArg Effect.final fetch)

/-- **Bearing faults only relaxes.** Whatever the device, the tables and the other settings, an
operation that succeeds is also done by `editor.relaxed`: it issues the same commands and leaves the
device as it left it. A fetch has the same images, and a change comes to the same and writes the
same parameters. A report `Extends` to one of the same fields in the same order with the same
current values, which has every value of the other variants that was reported. -/
theorem strict_success_relaxed (editor : Editor) (device : Device σ) (state : σ) :
    (∀ key wanted, (Session.effect (editor.fetch device key wanted) state).KeepsSuccess Eq
      (Session.effect (editor.relaxed.fetch device key wanted) state)) ∧
    (∀ request, (Session.effect (editor.writeFields device request) state).KeepsSuccess Eq
      (Session.effect (editor.relaxed.writeFields device request) state)) ∧
    (∀ key, (Session.effect (editor.restoreDefaults device key) state).KeepsSuccess Eq
      (Session.effect (editor.relaxed.restoreDefaults device key) state)) ∧
    (∀ request, (Session.effect (editor.readFields device request) state).KeepsSuccess
      (List.Forall₂ FieldReport.Extends)
      (Session.effect (editor.relaxed.readFields device request) state)) ∧
    ∀ key, (Session.effect (editor.readPage device key) state).KeepsSuccess PageReport.Extends
      (Session.effect (editor.relaxed.readPage device key) state) := by
  refine ⟨fun key wanted => ?_, fun request => ?_, fun key => ?_,
    fun request => readFields_relaxed request state, fun key => readPage_relaxed key state⟩
  · exact Effect.keepsSuccess_of_eq fun images fetched => effect_fetch_relaxed fetched
  · exact Effect.keepsSuccess_of_eq fun outcome done =>
      effect_edit_relaxed (fun _ _ _ applied => applyRequest_relaxed applied) done
  · exact Effect.keepsSuccess_of_eq fun outcome done =>
      effect_edit_relaxed (fun _ _ _ applied => applied) done

end Editor

/-! ## A sample -/

namespace Sample

/-- A device whose default values of the caching page say that they end before the current ones do, and
have more bytes behind their end. -/
def trailingDevice : MemoryDevice where
  identity := cachingDevice.identity
  pages := [((.current, caching.key), [0x88, 0x06, 0x04, 0x00, 0x11, 0x22, 0x33, 0x44]),
    ((.default, caching.key), [0x88, 0x02, 0x01, 0x00, 0x55, 0x66, 0x77, 0x88])]

/-- A request for the two bytes behind the end of the default values, bytes 4 and 5. -/
def trailingRequest : Request :=
  ⟨caching.key, [⟨.ofSpan caching.key ⟨4, 7, 16⟩, .query, none, none, none⟩]⟩

/-- A strict report of these bytes is extended by their default value where faults are borne. -/
theorem trailing_report_extended :
    let strict := Session.effect (sixByteEditor.withAllVariants.readFields MemoryDevice.device
      trailingRequest) trailingDevice
    let relaxed := Session.effect (sixByteEditor.withAllVariants.relaxed.readFields MemoryDevice.device
      trailingRequest) trailingDevice
    ∃ report report', strict.result = .ok [report] ∧
      relaxed = ⟨.ok [report'], strict.issued, strict.final⟩ ∧ report.Extends report' ∧
      report.current = some ⟨0x1122, false⟩ ∧ report.default = none ∧
      report'.default = some ⟨0x5566, false⟩ := by
  intro strict relaxed
  let report : FieldReport :=
    ⟨"4:7:16", .ofSpan caching.key ⟨4, 7, 16⟩, 0, some ⟨0x1122, false⟩, none, none, none⟩
  have reported : strict.result = .ok [report] := by
    decide +kernel
  obtain ⟨reports, same, extended⟩ :=
    (Editor.strict_success_relaxed sixByteEditor.withAllVariants MemoryDevice.device
      trailingDevice).2.2.2.1 trailingRequest [report] reported
  obtain ⟨report', none, extends', rest, rfl⟩ := List.forall₂_cons_left_iff.1 extended
  obtain rfl := List.forall₂_nil_left_iff.1 rest
  refine ⟨report, report', reported, same, extends', rfl, rfl, ?_⟩
  have defaults : relaxed.result.map (List.map FieldReport.default) =
      .ok [some ⟨0x5566, false⟩] := by
    decide +kernel
  have result : relaxed.result = .ok [report'] := congrArg Effect.result same
  rw [result] at defaults
  exact List.head_eq_of_cons_eq (Except.ok.inj defaults)

end Sample

end ModeParameters
