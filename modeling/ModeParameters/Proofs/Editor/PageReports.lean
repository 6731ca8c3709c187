import ModeParameters.Proofs.Editor.Configuration
import ModeParameters.Proofs.Editor.Reports

/-! # What is reported of a whole page

The report of a page goes through the fields of the tables descriptor by descriptor, and leaves out a
field that means nothing there or is not in the page. A request for a single field is refused instead.
Unless faults are borne, the two go by the same conditions and come to the same report. -/

namespace ModeParameters

open Text (wordLimit)

/-- A report of a page has an entry for `field` in the descriptor `index`. -/
def PageReport.Lists (report : PageReport) (field : Field) (index : Nat) : Prop :=
  ∃ entry ∈ report.fields, entry.field = field ∧ entry.index = index

namespace PagePlan

/-- One of some fields `applies` in a descriptor in which it has no address, and the error
`addressOverflow` says so. -/
def Unaddressed (plan : PagePlan) (fields : List Field) (e : ResponseError) : Prop :=
  ∃ field ∈ fields, ∃ index offset, plan.applies field index = true ∧
    plan.offsetOf? field index = some offset ∧ wordLimit ≤ offset ∧
    e = .descriptor plan.key (.addressOverflow plan.descriptorName)

variable {plan : PagePlan} {images : PageImages} {field : Field} {index : Nat}

/-- What the report of one field in one descriptor comes to. -/
theorem value_reportField (plan : PagePlan) (images : PageImages) (index : Nat) (field : Field) :
    (plan.reportField images index field).value =
      if plan.applies field index then
        match plan.offsetOf? field index with
        | none => .ok none
        | some offset => (plan.checkAddress offset).map fun start =>
          if plan.endsBeyond field start then none
          else some (plan.report images field (field.labelAt index) index start)
      else .ok none := by
  unfold reportField
  by_cases applied : plan.applies field index = true
  · rw [if_neg (not_not.2 applied), if_pos applied]
    cases plan.offsetOf? field index with
    | none => rfl
    | some offset =>
      dsimp only
      rw [Attempt.value_bind, Attempt.value_liftExcept]
      cases plan.checkAddress offset with
      | error e => rfl
      | ok start =>
        -- a field behind the end is remarked upon and left out
        dsimp only [Except.bind, Except.map]
        rw [Attempt.value_ite]
        split <;> rfl
  · rw [if_pos applied, if_neg applied]
    rfl

/-- **A field is reported in a descriptor** exactly when it `applies` there and lies in the page. -/
theorem reportField_eq_some_iff {entry : FieldReport} :
    (plan.reportField images index field).value = .ok (some entry) ↔
      plan.applies field index = true ∧ ∃ start, plan.offsetOf? field index = some start ∧
        start < wordLimit ∧ plan.endsBeyond field start = false ∧
        entry = plan.report images field (field.labelAt index) index start := by
  rw [value_reportField]
  by_cases applied : plan.applies field index = true
  · rw [if_pos applied]
    cases plan.offsetOf? field index with
    | none => simp
    | some offset =>
      dsimp only
      rw [map_eq_ok_iff]
      simp only [checkAddress_eq_ok_iff, Option.some.injEq]
      constructor
      · rintro ⟨_, ⟨fits, rfl⟩, made⟩
        split at made
        · cases made
        · next within =>
          exact ⟨applied, offset, rfl, fits, Bool.eq_false_iff.2 within, (Option.some.inj made).symm⟩
      · rintro ⟨-, _, rfl, fits, within, rfl⟩
        exact ⟨offset, ⟨fits, rfl⟩, by rw [if_neg (Bool.eq_false_iff.1 within)]⟩
  · simp [applied]

/-- A field is left out of a descriptor where `applies` denies it, `offsetOf?` finds no place or it
is behind the end. -/
theorem reportField_eq_none_iff :
    (plan.reportField images index field).value = .ok none ↔
      plan.applies field index = false ∨ plan.offsetOf? field index = none ∨
        ∃ start, plan.offsetOf? field index = some start ∧ start < wordLimit ∧
          plan.endsBeyond field start = true := by
  rw [value_reportField]
  by_cases applied : plan.applies field index = true
  · rw [if_pos applied]
    cases plan.offsetOf? field index with
    | none => simp
    | some offset =>
      dsimp only
      rw [map_eq_ok_iff]
      simp only [checkAddress_eq_ok_iff, applied, Option.some.injEq]
      constructor
      · rintro ⟨_, ⟨fits, rfl⟩, left⟩
        split at left
        · next beyond => exact .inr (.inr ⟨offset, rfl, fits, beyond⟩)
        · cases left
      · rintro (⟨⟨⟩⟩ | ⟨⟨⟩⟩ | ⟨_, rfl, fits, beyond⟩)
        exact ⟨offset, ⟨fits, rfl⟩, by rw [if_pos beyond]⟩
  · simp [applied]

/-- The report of a field fails only where the field has no address, its offset being no less than
`wordLimit`. -/
theorem reportField_eq_error_iff {e : ResponseError} :
    (plan.reportField images index field).value = .error e ↔
      plan.applies field index = true ∧ ∃ offset, plan.offsetOf? field index = some offset ∧
        wordLimit ≤ offset ∧ e = .descriptor plan.key (.addressOverflow plan.descriptorName) := by
  rw [value_reportField]
  by_cases applied : plan.applies field index = true
  · rw [if_pos applied]
    cases plan.offsetOf? field index with
    | none => simp
    | some offset =>
      dsimp only
      unfold checkAddress
      by_cases fits : offset < wordLimit
      · simp [fits, Except.map]
      · simp [fits, Except.map, applied, Nat.not_lt.1 fits, @eq_comm _ e]
  · simp [applied]

/-- A field applies only in a descriptor of the page, one below `plan.count`. -/
theorem lt_count_of_applies (h : plan.applies field index = true) : index < plan.count := by
  unfold applies at h
  unfold count
  cases laid : plan.layout with
  | none =>
    rw [laid] at h
    have first : index = 0 := beq_iff_eq.1 h
    rw [first]
    exact Nat.one_pos
  | some layout =>
    rw [laid] at h
    change layout.applies field index = true at h
    rw [Layout.applies, Bool.and_eq_true, Bool.and_eq_true] at h
    exact decide_eq_true_iff.1 h.1.1

/-- A field of the page outside its descriptors, which `layout.holds` denies, applies in the first
one alone. -/
theorem eq_zero_of_applies
    (outside : ∀ layout, plan.layout = some layout → layout.holds field = false)
    (h : plan.applies field index = true) : index = 0 := by
  unfold applies at h
  cases laid : plan.layout with
  | none =>
    rw [laid] at h
    exact beq_iff_eq.1 h
  | some layout =>
    rw [laid] at h
    change layout.applies field index = true at h
    rw [Layout.applies, Bool.and_eq_true, Bool.and_eq_true, outside layout laid, Bool.false_or] at h
    exact beq_iff_eq.1 h.1.2

/-- Where `reportFields` succeeds, `reportField` does for each of the fields in each descriptor. -/
theorem exists_reportField {fields : List Field} {reports : List FieldReport}
    (h : (plan.reportFields images fields).value = .ok reports) (bound : index < plan.count)
    (mem : field ∈ fields) : ∃ report?, (plan.reportField images index field).value = .ok report? := by
  obtain ⟨rows, made, -⟩ := Attempt.value_bind_eq_ok_iff.1 h
  obtain ⟨row, made'⟩ := Attempt.exists_value_of_mapM made (List.mem_range.2 bound)
  exact Attempt.exists_value_of_mapM made' mem

/-- The reports that `reportFields` makes are those of each of the fields in each descriptor. -/
theorem mem_reportFields_iff {fields : List Field} {reports : List FieldReport}
    (h : (plan.reportFields images fields).value = .ok reports) {entry : FieldReport} :
    entry ∈ reports ↔ entry.field ∈ fields ∧
      (plan.reportField images entry.index entry.field).value = .ok (some entry) := by
  obtain ⟨rows, made, done⟩ := Attempt.value_bind_eq_ok_iff.1 h
  cases done
  simp only [List.mem_filterMap, id, exists_eq_right, List.mem_flatten,
    Attempt.mem_value_mapM_iff made, List.mem_range]
  constructor
  · rintro ⟨row, ⟨index, bound, reported⟩, mem⟩
    obtain ⟨field, listed, single⟩ := (Attempt.mem_value_mapM_iff reported).1 mem
    -- a report names its field and its descriptor
    obtain ⟨-, start, -, -, -, rfl⟩ := reportField_eq_some_iff.1 single
    exact ⟨listed, single⟩
  · rintro ⟨listed, single⟩
    have bound := lt_count_of_applies (reportField_eq_some_iff.1 single).1
    obtain ⟨row, made'⟩ := Attempt.exists_value_of_mapM made (List.mem_range.2 bound)
    exact ⟨row, ⟨_, bound, made'⟩, (Attempt.mem_value_mapM_iff made').2 ⟨_, listed, single⟩⟩

/-- A field that applies in a descriptor and for which `endsBeyond` is false is reported there. -/
theorem exists_mem_reportFields {fields : List Field} {reports : List FieldReport} {start : Nat}
    (h : (plan.reportFields images fields).value = .ok reports) (mem : field ∈ fields)
    (applied : plan.applies field index = true)
    (found : plan.offsetOf? field index = some start) (within : plan.endsBeyond field start = false) :
    ∃ entry ∈ reports, entry.field = field ∧ entry.index = index := by
  have address : start < wordLimit := by
    -- without an address there would be no reports at all
    refine Nat.lt_of_not_le fun far => ?_
    obtain ⟨report?, single⟩ := exists_reportField h (lt_count_of_applies applied) mem
    rw [reportField_eq_error_iff.2 ⟨applied, start, found, far, rfl⟩] at single
    cases single
  let entry := plan.report images field (field.labelAt index) index start
  have single : (plan.reportField images index field).value = .ok (some entry) :=
    reportField_eq_some_iff.2 ⟨applied, start, found, address, within, rfl⟩
  exact ⟨entry, (mem_reportFields_iff h).2 ⟨mem, single⟩, rfl, rfl⟩

/-- Only a field that applies and for which `endsBeyond` is false is. -/
theorem exists_mem_reportFields_iff {fields : List Field} {reports : List FieldReport}
    (h : (plan.reportFields images fields).value = .ok reports) :
    (∃ entry ∈ reports, entry.field = field ∧ entry.index = index) ↔
      field ∈ fields ∧ plan.applies field index = true ∧
        ∃ start, plan.offsetOf? field index = some start ∧ plan.endsBeyond field start = false := by
  constructor
  · rintro ⟨entry, mem, rfl, rfl⟩
    obtain ⟨listed, single⟩ := (mem_reportFields_iff h).1 mem
    obtain ⟨applied, start, found, -, within, -⟩ := reportField_eq_some_iff.1 single
    exact ⟨listed, applied, start, found, within⟩
  · rintro ⟨listed, applied, start, found, within⟩
    exact exists_mem_reportFields h listed applied found within

/-- A usable field ends within the page where the bytes that it touches, `span.touched` from its
start on, do. -/
theorem endsBeyond_eq_false_iff {start : Nat} (usable : field.span.WellFormed) :
    plan.endsBeyond field start = false ↔ start + field.span.touched ≤ plan.length := by
  rw [endsBeyond, BitSpan.byteCount_of_wellFormed usable, decide_eq_false_iff_not, Nat.not_lt]

/-- The reports of fields fail only where one of them is `Unaddressed`. -/
theorem unaddressed_of_reportFields {fields : List Field} {e : ResponseError}
    (h : (plan.reportFields images fields).value = .error e) : plan.Unaddressed fields e := by
  unfold reportFields at h
  rw [Attempt.value_bind] at h
  cases made : Attempt.value ((List.range plan.count).mapM fun index =>
      fields.mapM (plan.reportField images index)) with
  | error e' =>
    rw [made] at h
    cases h
    -- the first failure is that of one field in one descriptor
    obtain ⟨index, -, row⟩ := Attempt.exists_value_of_mapM_eq_error made
    obtain ⟨field, listed, single⟩ := Attempt.exists_value_of_mapM_eq_error row
    obtain ⟨applied, offset, found, far, same⟩ := reportField_eq_error_iff.1 single
    exact ⟨field, listed, index, offset, applied, found, far, same⟩
  | ok rows =>
    rw [made] at h
    cases h

/-- **The two ways agree on one field.** A usable field is reported with the page where it applies
and `reportBinding` succeeds, and then the reports are the same. -/
theorem reportField_iff_reportBinding {binding : Binding} {current : PageImage} {entry : FieldReport}
    (strict : plan.flexible = false) (present : images.current = some current)
    (length : plan.length = current.pageLength) (usable : binding.field.span.WellFormed) :
    (plan.reportField images binding.descriptorIndex binding.field).value = .ok (some entry) ↔
      plan.applies binding.field binding.descriptorIndex = true ∧
        (plan.reportBinding images binding).value = .ok entry := by
  rw [reportField_eq_some_iff, reportBinding_eq_ok_iff]
  simp only [locate_eq_ok_iff, strict, Bool.false_eq_true, imp_false, Bool.not_eq_true]
  refine and_congr_right fun applied => exists_congr fun start => ?_
  constructor
  · rintro ⟨found, fits, within, rfl⟩
    refine ⟨⟨found, fits, within⟩, rfl, ?_⟩
    -- a field that ends within the page has a current value
    rw [endsBeyond, BitSpan.byteCount_of_wellFormed usable, length] at within
    change (images.current.bind fun image =>
      image.value? binding.field start plan.flexible).isSome = true
    rw [present, Option.bind_some, strict, PageImage.isSome_value?_iff]
    exact ⟨usable, by simpa using within⟩
  · rintro ⟨⟨found, fits, within⟩, rfl, -⟩
    exact ⟨found, fits, within, rfl⟩

/-- So the reports with a page are, for a usable field in a descriptor in which it applies, just the
one that `reportBinding` gives. -/
theorem mem_reportFields_iff_reportBinding {fields : List Field} {reports : List FieldReport}
    {binding : Binding} {current : PageImage} {entry : FieldReport}
    (h : (plan.reportFields images fields).value = .ok reports)
    (strict : plan.flexible = false) (present : images.current = some current)
    (length : plan.length = current.pageLength) (listed : binding.field ∈ fields)
    (usable : binding.field.span.WellFormed) :
    (entry ∈ reports ∧ entry.field = binding.field ∧ entry.index = binding.descriptorIndex) ↔
      plan.applies binding.field binding.descriptorIndex = true ∧
        (plan.reportBinding images binding).value = .ok entry := by
  rw [← reportField_iff_reportBinding strict present length usable, mem_reportFields_iff h]
  constructor
  · rintro ⟨⟨-, single⟩, field, index⟩
    rwa [field, index] at single
  · intro single
    obtain ⟨-, start, -, -, -, rfl⟩ := reportField_eq_some_iff.1 single
    exact ⟨⟨listed, single⟩, rfl, rfl⟩

end PagePlan

namespace Editor

variable {σ : Type} {editor : Editor} {device : Device σ} {key : PageKey}

/-- The fields that the report of a page goes through: those of the page in the tables where
`pageEntry` looked for its entry. -/
def fieldsOf (editor : Editor) (key : PageKey) : List Field :=
  (editor.registry.table (editor.pageEntry key).value.2).fieldsOf key editor.type

/-- What is made of the images of a page: `Editor.plan`, then the reports of `fieldsOf`. -/
theorem value_reportPage (editor : Editor) (key : PageKey) (images : PageImages)
    (current : PageImage) :
    (editor.reportPage key images current).value =
      ((editor.plan key (editor.entryOf key) current).value.mapError Error.response).bind fun plan =>
        ((plan.reportFields images (editor.fieldsOf key)).value.mapError Error.response).map
          fun fields => ⟨key, editor.entryOf key, current.isSavable, plan.count, fields⟩ := by
  unfold reportPage fieldsOf entryOf
  rw [Attempt.value_bind, Attempt.value_liftLogged, Except.bind]
  rcases (editor.pageEntry key).value with ⟨entry, space⟩
  -- the remark on a page without an entry decides nothing
  simp only [Attempt.value_ite, Attempt.value_bind, Attempt.value_liftLogged, Attempt.value_adapt,
    Attempt.value_pure]
  cases (editor.plan key entry current).value with
  | error e => exact ite_self _
  | ok plan =>
    cases fields : (plan.reportFields images
        ((editor.registry.table space).fieldsOf key editor.type)).value with
    | error e => simp [Except.bind, Except.map, Except.mapError, fields]
    | ok fields' => simp [Except.bind, Except.map, Except.mapError, fields]

/-- The effect of reading a page: that of the fetch, but for the report that is made of the images. -/
theorem effect_readPage (editor : Editor) (device : Device σ) (key : PageKey) (state : σ) :
    let fetched := Session.effect (editor.fetch device key PageControl.all) state
    Session.effect (editor.readPage device key) state =
      ⟨fetched.result.bind fun images => (currentOf key images).bind fun current =>
        (editor.reportPage key images current).value, fetched.issued, fetched.final⟩ := by
  intro fetched
  unfold readPage
  rw [effect_inspect]
  simp only [Attempt.value_bind, Attempt.value_liftExcept]
  rfl

/-- A page is reported from the current values, by its plan: `readPage` succeeds where the page is
`Planned` and `reportFields` succeeds. -/
theorem result_readPage_iff {state : σ} {report : PageReport} :
    (Session.effect (editor.readPage device key) state).result = .ok report ↔
      ∃ images current plan fields,
        editor.Planned device key PageControl.all state images current plan ∧
        (plan.reportFields images (editor.fieldsOf key)).value = .ok fields ∧
        report = ⟨key, editor.entryOf key, current.isSavable, plan.count, fields⟩ := by
  simp only [effect_readPage, value_reportPage, bind_eq_ok_iff, map_eq_ok_iff, mapError_eq_ok_iff,
    currentOf_eq_ok_iff]
  constructor
  · rintro ⟨images, fetched, current, present, plan, planned, fields, reported, rfl⟩
    exact ⟨images, current, plan, fields, ⟨fetched, present, planned⟩, reported, rfl⟩
  · rintro ⟨images, current, plan, fields, ⟨fetched, present, planned⟩, reported, rfl⟩
    exact ⟨images, fetched, current, present, plan, planned, fields, reported, rfl⟩

/-- The editor that reports fields in all variants: `config.allVariants` is set. -/
def withAllVariants (editor : Editor) : Editor :=
  { editor with config := { editor.config with allVariants := true } }

/-- A request is then reported from `PageControl.all`, the variants that a whole page is reported
from. -/
theorem result_readFields_withAllVariants (editor : Editor) (device : Device σ) (request : Request)
    (state : σ) :
    (Session.effect (editor.withAllVariants.readFields device request) state).result =
      (Session.effect (editor.fetch device request.page PageControl.all) state).result.bind
        fun images => (currentOf request.page images).bind fun current =>
          (editor.reportRequest request images current).value := by
  have alike : ReadsAlike editor editor.withAllVariants := ⟨rfl, rfl, rfl⟩
  rw [effect_readFields, alike.fetch_eq]
  rfl

/-- A request for one field is reported by its one report. -/
theorem result_readField_iff {binding : Binding} {state : σ} {images : PageImages}
    {current : PageImage} {plan : PagePlan} {reports : List FieldReport}
    (planned : editor.Planned device key PageControl.all state images current plan) :
    (Session.effect (editor.withAllVariants.readFields device ⟨key, [binding]⟩) state).result =
        .ok reports ↔
      ∃ entry, (plan.reportBinding images binding).value = .ok entry ∧ reports = [entry] := by
  rw [result_readFields_withAllVariants, planned.fetched, Except.bind,
    currentOf_eq_ok_iff.2 planned.present, Except.bind, reportRequest_eq_ok_iff]
  constructor
  · rintro ⟨plan', planned', reported⟩
    obtain rfl := Except.ok.inj (planned'.symm.trans planned.planned)
    obtain ⟨entry, none, made, rest, rfl⟩ := List.forall₂_cons_left_iff.1 reported
    rw [List.forall₂_nil_left_iff.1 rest]
    exact ⟨entry, made, rfl⟩
  · rintro ⟨entry, made, rfl⟩
    exact ⟨plan, planned.planned, .cons made .nil⟩

/-- Where a page is not reported, no request of it is, unless a field of the tables is
`Unaddressed`. -/
theorem readFields_of_readPage_eq_error {state state' : σ} {e : Error}
    (same : (Session.effect (editor.fetch device key PageControl.all) state).result =
      (Session.effect (editor.fetch device key PageControl.all) state').result)
    (h : (Session.effect (editor.readPage device key) state).result = .error e) :
    (∀ bindings, (Session.effect (editor.withAllVariants.readFields device ⟨key, bindings⟩)
      state').result = .error e) ∨
      ∃ images current plan e', editor.Planned device key PageControl.all state images current plan ∧
        plan.Unaddressed (editor.fieldsOf key) e' ∧ e = .response e' := by
  rw [effect_readPage] at h
  simp only [result_readFields_withAllVariants, ← same]
  -- the two go the same way until the plan of the page is made
  rcases bind_eq_error_iff.1 h with fetched | ⟨images, fetched, h⟩
  · exact .inl fun bindings => by rw [fetched, Except.bind]
  rcases bind_eq_error_iff.1 h with absent | ⟨current, present, h⟩
  · exact .inl fun bindings => by rw [fetched, Except.bind, absent, Except.bind]
  rw [value_reportPage] at h
  rcases bind_eq_error_iff.1 h with unplanned | ⟨plan, planned, h⟩
  · refine .inl fun bindings => ?_
    rw [fetched, Except.bind, present, Except.bind, value_reportRequest, unplanned, Except.bind]
  -- then only the reports of the fields can fail
  obtain ⟨e', unreported, rfl⟩ := mapError_eq_error_iff.1 (map_eq_error_iff.1 h)
  exact .inr ⟨images, current, plan, e',
    ⟨fetched, currentOf_eq_ok_iff.1 present, mapError_eq_ok_iff.1 planned⟩,
    PagePlan.unaddressed_of_reportFields unreported, rfl⟩

/-- **Reports of a page and of a field agree.** When the device answers alike, the report of a page
has an entry for a usable field of its tables in a descriptor exactly when the field `applies` there
and a request for just this field is reported; the entry is what is then reported, label and values
included. So a field outside the descriptors has an entry in the first one alone, and no field is
left out of a descriptor in which it fits. Where a page is not reported, no request of it is, and
with the same error, unless a field of the tables is `Unaddressed`: it is put where there is no
address. -/
theorem page_report_agrees (editor : Editor) (strict : editor.config.flexible = false)
    (device : Device σ) (key : PageKey) (state state' : σ)
    (same : (Session.effect (editor.fetch device key PageControl.all) state).result =
      (Session.effect (editor.fetch device key PageControl.all) state').result) :
    let alone bindings :=
      (Session.effect (editor.withAllVariants.readFields device ⟨key, bindings⟩) state').result
    (∀ report, (Session.effect (editor.readPage device key) state).result = .ok report →
      ∃ images current plan,
        editor.Planned device key PageControl.all state images current plan ∧
        (∀ binding : Binding, binding.field ∈ editor.fieldsOf key → binding.field.span.WellFormed →
          (report.Lists binding.field binding.descriptorIndex ↔
            plan.applies binding.field binding.descriptorIndex = true ∧
              ∃ reports, alone [binding] = .ok reports) ∧
          ∀ entry ∈ report.fields, entry.field = binding.field →
            entry.index = binding.descriptorIndex → alone [binding] = .ok [entry]) ∧
        (∀ field index, report.Lists field index →
          (∀ layout, plan.layout = some layout → layout.holds field = false) → index = 0) ∧
        ∀ field ∈ editor.fieldsOf key, field.span.WellFormed → ∀ index start,
          plan.applies field index = true → plan.offsetOf? field index = some start →
          start + field.span.touched ≤ plan.length → report.Lists field index) ∧
    ∀ e, (Session.effect (editor.readPage device key) state).result = .error e →
      (∀ bindings, alone bindings = .error e) ∨
        ∃ images current plan e',
          editor.Planned device key PageControl.all state images current plan ∧
          plan.Unaddressed (editor.fieldsOf key) e' ∧ e = .response e' := by
  intro alone
  refine ⟨fun report reported => ?_, fun e failed => readFields_of_readPage_eq_error same failed⟩
  obtain ⟨images, current, plan, fields, planned, made, rfl⟩ := result_readPage_iff.1 reported
  have planned' : editor.Planned device key PageControl.all state' images current plan :=
    ⟨same ▸ planned.fetched, planned.present, planned.planned⟩
  obtain ⟨layout, -, rfl⟩ := plan_eq_ok_iff.1 planned.planned
  refine ⟨images, current, _, planned, fun binding listed usable => ?_, ?_, ?_⟩
  · have agree {entry : FieldReport} : (entry ∈ fields ∧ entry.field = binding.field ∧
        entry.index = binding.descriptorIndex) ↔ _ :=
      PagePlan.mem_reportFields_iff_reportBinding made strict planned.present rfl listed usable
    refine ⟨⟨?_, ?_⟩, ?_⟩
    · rintro ⟨entry, reported⟩
      obtain ⟨applied, single⟩ := agree.1 reported
      exact ⟨applied, _, (result_readField_iff planned').2 ⟨entry, single, rfl⟩⟩
    · rintro ⟨applied, reports, done⟩
      obtain ⟨entry, single, -⟩ := (result_readField_iff planned').1 done
      exact ⟨entry, agree.2 ⟨applied, single⟩⟩
    · intro entry mem field index
      obtain ⟨-, single⟩ := agree.1 ⟨mem, field, index⟩
      exact (result_readField_iff planned').2 ⟨entry, single, rfl⟩
  · rintro _ _ ⟨entry, mem, rfl, rfl⟩ outside
    have single := ((PagePlan.mem_reportFields_iff made).1 mem).2
    exact PagePlan.eq_zero_of_applies outside (PagePlan.reportField_eq_some_iff.1 single).1
  · intro field listed usable index start applied found ends
    exact PagePlan.exists_mem_reportFields made listed applied found
      ((PagePlan.endsBeyond_eq_false_iff usable).2 ends)

end Editor

/-! ## A sample -/

namespace Sample

/-- Phy descriptors of 16 and of 4 bytes. The second one has no room for capabilities. -/
def cutDescriptors : Bytes :=
  [0x00, 0x09, 0x00, 0x0C, 0x00, 0x00, 0x00, 0x00, 0x00, 0x00, 0x00, 0x00, 0x11, 0x22, 0x33, 0x44,
   0x00, 0x0A, 0x00, 0x00]

/-- A request for a field of one of the phys. -/
def phyQuery (field : Field) (index : Nat) : Binding := ⟨field, .query, some index, none, none⟩

/-- The report of the page with these descriptors. -/
def cutReport : PageReport where
  key := enhancedPhyControl.key
  entry := some enhancedPhyControl
  savable := false
  descriptorCount := 2
  fields := [phyReport identifierField 0 0x09, phyReport capabilitiesField 0 0x11223344,
    phyReport identifierField 1 0x0A]

/-- The identifier of the second phy is reported with the page as it is reported alone, and
`capabilitiesField`, for which there is no room, is reported neither way. -/
theorem cut_reports_agree :
    let alone bindings := (Session.effect (sixByteEditor.withAllVariants.readFields MemoryDevice.device
      ⟨enhancedPhyControl.key, bindings⟩) (phyDevice cutDescriptors)).result
    (Session.effect (sixByteEditor.readPage MemoryDevice.device enhancedPhyControl.key)
        (phyDevice cutDescriptors)).result = .ok cutReport ∧
      alone [phyQuery identifierField 1] = .ok [phyReport identifierField 1 0x0A] ∧
      alone [phyQuery capabilitiesField 1] =
        .error (.response (.fieldBeyondPage "PPC.1" enhancedPhyControl.key 36 28)) ∧
      ¬ cutReport.Lists capabilitiesField 1 := by
  intro alone
  have reported : (Session.effect (sixByteEditor.readPage MemoryDevice.device enhancedPhyControl.key)
      (phyDevice cutDescriptors)).result = .ok cutReport := by
    decide +kernel
  have refused : alone [phyQuery capabilitiesField 1] =
      .error (.response (.fieldBeyondPage "PPC.1" enhancedPhyControl.key 36 28)) := by
    decide +kernel
  have fields : sixByteEditor.fieldsOf enhancedPhyControl.key = enhancedPhyControlFields := by
    decide +kernel
  obtain ⟨images, current, plan, -, agree, -⟩ := (Editor.page_report_agrees sixByteEditor rfl
    MemoryDevice.device enhancedPhyControl.key (phyDevice cutDescriptors) (phyDevice cutDescriptors)
    rfl).1 cutReport reported
  rw [fields] at agree
  refine ⟨reported, ?_, refused, fun present => ?_⟩
  · have identifier := agree (phyQuery identifierField 1) (List.head_mem (by decide))
      ⟨by decide, by decide, by decide⟩
    exact identifier.2 (phyReport identifierField 1 0x0A) (by decide) rfl rfl
  · have capabilities := agree (phyQuery capabilitiesField 1) (List.getLast_mem (by decide))
      ⟨by decide, by decide, by decide⟩
    obtain ⟨-, reports, done⟩ := capabilities.1.1 present
    cases refused.symm.trans done

end Sample

end ModeParameters
