import ModeParameters.Proofs.Editor.Edits
import ModeParameters.Proofs.Editor.HeldPages

/-! # What is reported of a page

The current value in the report of a binding is the number in its field in the current page. From a
conforming device it is the number in the page that the device holds. -/

namespace ModeParameters

namespace Field

/-- The value of a field that starts at byte `start` of a page. -/
def valueIn? (field : Field) (page : Bytes) (start : Nat) : Option FieldValue :=
  match ({ field.span with startByte := start } : BitSpan).read page with
  | .ok value => some (.ofNat value field.span.width)
  | .error _ => none

theorem valueIn?_eq_some_iff {field : Field} {page : Bytes} {start : Nat} {value : FieldValue} :
    field.valueIn? page start = some value ↔
      ∃ number, ({ field.span with startByte := start } : BitSpan).read page = .ok number ∧
        value = .ofNat number field.span.width := by
  unfold valueIn?
  cases ({ field.span with startByte := start } : BitSpan).read page with
  | error e => simp
  | ok number => simp [eq_comm]

end Field

namespace PageImage

/-- A value that a field has in `image.page` is the one that it has in `image.tail`, the rest of the
response. -/
theorem value?_of_page {image : PageImage} {field : Field} {start : Nat} {toTail : Bool}
    {value : FieldValue} (h : image.value? field start toTail = some value) :
    image.value? field start true = some value := by
  cases toTail with
  | true => exact h
  | false =>
    unfold value? at h ⊢
    split at h
    · next number read =>
      cases h
      -- the page is the beginning of what follows its start
      have whole := BitSpan.read_of_take read
      simp only [if_true]
      rw [tail, whole]
    · cases h

/-- A field has a value where its span is `WellFormed` and ends within the bytes that are read. -/
theorem isSome_value?_iff {image : PageImage} {field : Field} {start : Nat} {toTail : Bool} :
    (image.value? field start toTail).isSome = true ↔
      field.span.WellFormed ∧
        start + field.span.touched ≤ (if toTail then image.tail else image.page).length := by
  unfold value?
  cases read : ({ field.span with startByte := start } : BitSpan).read
      (if toTail then image.tail else image.page) with
  | ok number =>
    have within := BitSpan.within_of_read read
    exact iff_of_true rfl ⟨BitSpan.wellFormed_startByte_iff.1 within.wellFormed, within.end_le⟩
  | error e =>
    refine iff_of_false nofun fun ⟨usable, ends⟩ => ?_
    have within : BitSpan.Within { field.span with startByte := start }
        (if toTail then image.tail else image.page).length :=
      ⟨BitSpan.wellFormed_startByte_iff.2 usable, ends⟩
    rw [BitSpan.read_of_within within] at read
    cases read

/-- A field that ends within `pageLength` has the same value whatever is behind the page. -/
theorem value?_eq_of_within {image : PageImage} {field : Field} {start : Nat}
    (within : start + field.span.byteCount ≤ image.pageLength) :
    image.value? field start true = image.value? field start false := by
  cases read : image.value? field start false with
  | some value => exact value?_of_page read
  | none =>
    rw [Option.eq_none_iff_forall_ne_some]
    intro value whole
    -- what has a value at all is usable, and then has one in the page
    have usable := (isSome_value?_iff.1 (Option.isSome_of_eq_some whole)).1
    rw [BitSpan.byteCount_of_wellFormed usable, ← image.length_page] at within
    have here : (image.value? field start false).isSome = true := isSome_value?_iff.2 ⟨usable, within⟩
    rw [read] at here
    cases here

/-- The value of a field has the bits that the field covers, `testBit` counting from the last of
them. -/
theorem testBit_of_value? {image : PageImage} {field : Field} {start : Nat} {toTail : Bool}
    {value : FieldValue} (h : image.value? field start toTail = some value) (j : Nat) :
    value.value.testBit j = (decide (j < field.span.width) &&
      image.tail.bit (8 * start + (7 - field.span.startBit) + (field.span.width - 1 - j))) := by
  have whole := value?_of_page h
  unfold value? at whole
  split at whole
  · next number read =>
    cases whole
    exact BitSpan.testBit_of_read read j
  · cases whole

end PageImage

/-- The field of a binding has a value in a page: it is located, and the number can be read. -/
def PagePlan.Gets (plan : PagePlan) (page : Bytes) (binding : Binding) (value : FieldValue) : Prop :=
  ∃ start, (plan.locate binding.field binding.label binding.descriptorIndex).value = .ok start ∧
    binding.field.valueIn? page start = some value

namespace PagePlan

variable {plan plan' : PagePlan} {images : PageImages} {binding : Binding} {page page' : Bytes}
  {value value' : FieldValue}

/-- A report has a value in the variants whose image has one, by `PageImage.value?`. -/
@[simp] theorem value_report (field : Field) (label : String) (index start : Nat)
    (control : PageControl) :
    (plan.report images field label index start).value control =
      (images.get control).bind fun image => image.value? field start plan.flexible := by
  cases control <;> rfl

/-- What reporting a binding comes to: `PagePlan.report` where `locate` finds its field, unless that
has no current value. -/
theorem value_reportBinding (plan : PagePlan) (images : PageImages) (binding : Binding) :
    (plan.reportBinding images binding).value =
      (plan.locate binding.field binding.label binding.descriptorIndex).value.bind fun start =>
        let report := plan.report images binding.field binding.label binding.descriptorIndex start
        if report.current.isSome then .ok report
        else .error (.response (plan.beyondPage binding.label start)) := by
  unfold reportBinding
  simp only [Attempt.value_bind, Attempt.value_ite, Attempt.value_pure, Attempt.value_throw]

/-- A binding is reported where `locate` finds its field, if it has a current value there. -/
theorem reportBinding_eq_ok_iff {report : FieldReport} :
    (plan.reportBinding images binding).value = .ok report ↔
      ∃ start, (plan.locate binding.field binding.label binding.descriptorIndex).value = .ok start ∧
        report = plan.report images binding.field binding.label binding.descriptorIndex start ∧
        report.current.isSome = true := by
  simp only [value_reportBinding, bind_eq_ok_iff]
  constructor
  · rintro ⟨start, located, made⟩
    split at made
    · next reported =>
      cases made
      exact ⟨start, located, rfl, reported⟩
    · cases made
  · rintro ⟨start, located, rfl, reported⟩
    exact ⟨start, located, by rw [if_pos reported]⟩

/-- What is reported for a binding in a variant are bits that its field `Covers`. -/
theorem exists_covers_of_reportBinding {report : FieldReport} {control : PageControl}
    {value : FieldValue} (h : (plan.reportBinding images binding).value = .ok report)
    (shown : report.value control = some value) :
    ∃ image, images.get control = some image ∧ ∀ j < binding.field.span.width,
      ∃ i, plan.Covers binding i ∧ value.value.testBit j = image.tail.bit i := by
  obtain ⟨start, located, rfl, -⟩ := reportBinding_eq_ok_iff.1 h
  rw [value_report] at shown
  obtain ⟨image, got, valued⟩ := Option.bind_eq_some_iff.1 shown
  refine ⟨image, got, fun j inside => ?_⟩
  have bit := PageImage.testBit_of_value? valued j
  rw [decide_eq_true inside, Bool.true_and] at bit
  refine ⟨_, ⟨_, spanOf?_of_locate located, ?_⟩, bit⟩
  unfold BitSpan.Covers BitSpan.firstBit
  dsimp only
  omega

/-- A field has one value. -/
theorem Gets.unique (h : plan.Gets page binding value) (h' : plan.Gets page binding value') :
    value' = value := by
  obtain ⟨start, located, read⟩ := h
  obtain ⟨start', located', read'⟩ := h'
  rw [located] at located'
  cases located'
  exact Option.some.inj (read'.symm.trans read)

/-- Where plans have `SamePlaces`, a value is got again from as many bytes that agree on the covered
bits. -/
theorem Gets.congr (h : plan.Gets page binding value) (same : plan.SamePlaces plan')
    (length : page'.length = page.length)
    (bits : ∀ i, plan.Covers binding i → page'.bit i = page.bit i) :
    plan'.Gets page' binding value := by
  obtain ⟨start, located, read⟩ := h
  obtain ⟨number, done, rfl⟩ := Field.valueIn?_eq_some_iff.1 read
  refine ⟨start, same.locate_iff.2 located, Field.valueIn?_eq_some_iff.2 ⟨number, ?_, rfl⟩⟩
  refine BitSpan.read_eq_of_bits length (fun i covered => bits i ⟨_, ?_, covered⟩) done
  exact spanOf?_of_locate located

/-- A value can be got again from `page'` of the same length, whatever its bytes are. -/
theorem Gets.exists_of_length (h : plan.Gets page binding value) (same : plan.SamePlaces plan')
    (length : page'.length = page.length) : ∃ value', plan'.Gets page' binding value' := by
  obtain ⟨start, located, read⟩ := h
  obtain ⟨number, done, -⟩ := Field.valueIn?_eq_some_iff.1 read
  have within : BitSpan.Within { binding.field.span with startByte := start } page'.length :=
    length ▸ BitSpan.within_of_read done
  exact ⟨_, start, same.locate_iff.2 located,
    Field.valueIn?_eq_some_iff.2 ⟨_, BitSpan.read_of_within within, rfl⟩⟩

/-- The current value in a report is the one that the binding `Gets` from the page which the current
image shows. -/
theorem reportBinding_of_shows {current : PageImage} {data : ModeData}
    (present : images.current = some current) (shows : current.Shows data) :
    (∃ report, (plan.reportBinding images binding).value = .ok report ∧
      report.current = some value) ↔ plan.Gets data.page binding value := by
  -- the tail and the page of an image that shows data are one, so it does not matter which is read
  have read : ∀ start, (plan.report images binding.field binding.label binding.descriptorIndex
      start).current = binding.field.valueIn? data.page start := by
    intro start
    change (images.current.bind fun image =>
      image.value? binding.field start plan.flexible) = _
    rw [present, Option.bind_some, PageImage.value?, shows.tail_eq, shows.page_eq, ite_self]
    rfl
  simp only [reportBinding_eq_ok_iff, Gets]
  constructor
  · rintro ⟨_, ⟨start, located, rfl, -⟩, reported⟩
    exact ⟨start, located, (read start).symm.trans reported⟩
  · rintro ⟨start, located, got⟩
    have reported := (read start).trans got
    exact ⟨_, ⟨start, located, rfl, Option.isSome_of_eq_some reported⟩, reported⟩

/-- A report has a current value. -/
theorem exists_current_of_reportBinding {report : FieldReport}
    (h : (plan.reportBinding images binding).value = .ok report) :
    ∃ value, report.current = some value := by
  obtain ⟨start, -, -, reported⟩ := reportBinding_eq_ok_iff.1 h
  exact Option.isSome_iff_exists.1 reported

end PagePlan

namespace Editor

variable {σ : Type} {editor : Editor} {device : Device σ} {state : σ} {request : Request}

theorem currentOf_eq_ok_iff {key : PageKey} {images : PageImages} {current : PageImage} :
    currentOf key images = .ok current ↔ images.current = some current := by
  unfold currentOf
  cases images.current <;> simp

/-- What is made of the images for a request: `Editor.plan` of its page, then `reportBinding` of its
bindings. -/
theorem value_reportRequest (editor : Editor) (request : Request) (images : PageImages)
    (current : PageImage) :
    (editor.reportRequest request images current).value =
      ((editor.plan request.page (editor.entryOf request.page) current).value.mapError
        Error.response).bind fun plan => (request.bindings.mapM (plan.reportBinding images)).value := by
  unfold reportRequest entryOf
  rw [Attempt.value_bind, Attempt.value_liftLogged, Except.bind]
  dsimp only
  rw [Attempt.value_bind, Attempt.value_adapt]

/-- A request is reported by the plan of its page, one binding after the other by
`reportBinding`. -/
theorem reportRequest_eq_ok_iff {images : PageImages} {current : PageImage}
    {reports : List FieldReport} :
    (editor.reportRequest request images current).value = .ok reports ↔
      ∃ plan, (editor.plan request.page (editor.entryOf request.page) current).value = .ok plan ∧
        List.Forall₂ (fun binding report => (plan.reportBinding images binding).value = .ok report)
          request.bindings reports := by
  simp only [value_reportRequest, bind_eq_ok_iff, mapError_eq_ok_iff, Attempt.value_mapM_eq_ok_iff]

/-- The effect of reading the fields of a request: that of the fetch, but for the reports that are made
of the images. -/
theorem effect_readFields (editor : Editor) (device : Device σ) (request : Request) (state : σ) :
    let fetched := Session.effect (editor.fetch device request.page
      ((Operation.readFields request).wanted editor.config)) state
    Session.effect (editor.readFields device request) state =
      ⟨fetched.result.bind fun images => (currentOf request.page images).bind fun current =>
        (editor.reportRequest request images current).value, fetched.issued, fetched.final⟩ := by
  intro fetched
  unfold readFields
  rw [effect_inspect]
  simp only [Attempt.value_bind, Attempt.value_liftExcept]
  rfl

/-- Fields are reported from the current values, by the plan of their page and `reportBinding`. -/
theorem result_readFields_iff {reports : List FieldReport} :
    (Session.effect (editor.readFields device request) state).result = .ok reports ↔
      ∃ images current plan,
        (Session.effect (editor.fetch device request.page
          ((Operation.readFields request).wanted editor.config)) state).result = .ok images ∧
        images.current = some current ∧
        (editor.plan request.page (editor.entryOf request.page) current).value = .ok plan ∧
        List.Forall₂ (fun binding report => (plan.reportBinding images binding).value = .ok report)
          request.bindings reports := by
  simp only [effect_readFields, bind_eq_ok_iff, currentOf_eq_ok_iff, reportRequest_eq_ok_iff]
  constructor
  · rintro ⟨images, fetched, current, present, plan, planned, reported⟩
    exact ⟨images, current, plan, fetched, present, planned, reported⟩
  · rintro ⟨images, current, plan, fetched, present, planned, reported⟩
    exact ⟨images, fetched, current, present, plan, planned, reported⟩

/-! ## From a conforming device -/

/-- The plan of a page that is held, with a layout, or with `none` if it has no descriptors. -/
def planOf (editor : Editor) (key : PageKey) (layout : Option Layout) (page : Bytes) : PagePlan :=
  ⟨key, layout, page.length, editor.config.flexible⟩

theorem plan_of_shows {key : PageKey} {current : PageImage} {data : ModeData} {plan : PagePlan}
    (shows : current.Shows data) :
    (editor.plan key (editor.entryOf key) current).value = .ok plan ↔
      ∃ layout, PageEntry.layoutOf (editor.entryOf key) data.page = .ok layout ∧
        plan = editor.planOf key layout data.page := by
  rw [plan_eq_ok_iff, shows.page_eq, shows.pageLength_eq]
  rfl

variable (request) {held : σ → PageControl → Option ModeData} {steady : σ → Prop}
  (conforms : device.Conforms editor.config.size editor.config.withoutBlockDescriptors request.page
    held steady)
include conforms

/-- The reports of a request are of the page that the device holds: each binding `Gets` from it what
is reported. -/
theorem gets_of_readFields (calm : steady state) {reports : List FieldReport}
    (h : (Session.effect (editor.readFields device request) state).result = .ok reports) :
    ∃ data layout, held state .current = some data ∧
      PageEntry.layoutOf (editor.entryOf request.page) data.page = .ok layout ∧
      List.Forall₂ (fun binding report => ∃ value, report.current = some value ∧
        (editor.planOf request.page layout data.page).Gets data.page binding value)
        request.bindings reports := by
  obtain ⟨images, current, plan, fetched, present, planned, reported⟩ := result_readFields_iff.1 h
  obtain ⟨data, current', holds, present', shows⟩ := shows_of_fetch conforms calm fetched
  obtain rfl : current' = current := Option.some.inj (present'.symm.trans present)
  obtain ⟨layout, laid, rfl⟩ := (plan_of_shows shows).1 planned
  refine ⟨data, layout, holds, laid, reported.imp fun binding report made => ?_⟩
  obtain ⟨value, filled⟩ := PagePlan.exists_current_of_reportBinding made
  exact ⟨value, filled, (PagePlan.reportBinding_of_shows present shows).1 ⟨report, made, filled⟩⟩

/-- A request is reported where each of its bindings `Gets` a value from the page that the device
holds, and then these values are reported. -/
theorem readFields_of_gets (calm : steady state) {data : ModeData} {layout : Option Layout}
    (holds : held state .current = some data)
    (shorter : editor.config.allVariants = true → ∀ control other,
      held state control = some other → other.bytes.length ≤ data.bytes.length)
    (laid : PageEntry.layoutOf (editor.entryOf request.page) data.page = .ok layout)
    (gets : ∀ binding ∈ request.bindings, ∃ value,
      (editor.planOf request.page layout data.page).Gets data.page binding value) :
    ∃ reports, (Session.effect (editor.readFields device request) state).result = .ok reports ∧
      List.Forall₂ (fun binding report => ∃ value, report.current = some value ∧
        (editor.planOf request.page layout data.page).Gets data.page binding value)
        request.bindings reports := by
  have wanted : ∀ control ∈ (Operation.readFields request).wanted editor.config, ∀ other,
      held state control = some other → other.bytes.length ≤ data.bytes.length := by
    intro control wants other there
    unfold Operation.wanted at wants
    cases all : editor.config.allVariants with
    | true => exact shorter all control other there
    | false =>
      -- only the current values are read
      simp only [all, Bool.false_eq_true, if_false, List.mem_singleton] at wants
      rw [wants, holds] at there
      cases there
      exact Nat.le_refl _
  obtain ⟨images, fetched⟩ := exists_fetch_of_held conforms calm holds wanted
  obtain ⟨data', current, holds', present, shows⟩ := shows_of_fetch conforms calm fetched
  obtain rfl : data' = data := Option.some.inj (holds'.symm.trans holds)
  have reported : ∀ binding ∈ request.bindings, ∃ report,
      ((editor.planOf request.page layout data'.page).reportBinding images binding).value =
        .ok report := by
    intro binding mem
    obtain ⟨value, got⟩ := gets binding mem
    obtain ⟨report, made, -⟩ := (PagePlan.reportBinding_of_shows present shows).2 got
    exact ⟨report, made⟩
  obtain ⟨reports, all⟩ := Attempt.exists_value_mapM reported
  have done : (Session.effect (editor.readFields device request) state).result = .ok reports :=
    result_readFields_iff.2 ⟨images, current, _, fetched, present,
      (plan_of_shows shows).2 ⟨layout, laid, rfl⟩, Attempt.value_mapM_eq_ok_iff.1 all⟩
  -- what is reported is read off the page again, from the reports that are there now
  obtain ⟨data'', layout', holds'', laid', values⟩ := gets_of_readFields request conforms calm done
  obtain rfl : data'' = data' := Option.some.inj (holds''.symm.trans holds)
  obtain rfl : layout' = layout := Except.ok.inj (laid'.symm.trans laid)
  exact ⟨reports, done, values⟩

end Editor

/-! ## A sample -/

namespace Sample

/-- A report of the current value of a field of one of the phys. -/
def phyReport (field : Field) (index value : Nat) : FieldReport where
  label := field.labelAt index
  field := field
  index := index
  current := some ⟨value, false⟩
  changeable := none
  default := none
  saved := none

end Sample

end ModeParameters
