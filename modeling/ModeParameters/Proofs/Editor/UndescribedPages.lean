import ModeParameters.Proofs.Editor.Tables

/-! # Pages that no table describes

Pages and fields are looked up apart from each other. A page is found by an entry for exactly the type
of the device and, among the generic ones, by an entry for its family; a field is for the device in
every namespace if it is for its family. So the tables of an editor can have fields for a page that
they do not describe for the device. Such fields are reported where their spans say, as on a page
without descriptors. -/

namespace ModeParameters

/-- Without descriptors a field is reported once, at `index = 0`, if it ends within the page. -/
theorem PagePlan.reported_iff_of_layout_eq_none {plan : PagePlan} {images : PageImages}
    {fields : List Field} {reports : List FieldReport} {field : Field} {index : Nat}
    (made : (plan.reportFields images fields).value = .ok reports) (bare : plan.layout = none) :
    (∃ entry ∈ reports, entry.field = field ∧ entry.index = index) ↔
      index = 0 ∧ field ∈ fields ∧ field.span.startByte + field.span.byteCount ≤ plan.length := by
  rw [exists_mem_reportFields_iff made]
  simp only [applies, offsetOf?, bare, Option.map_none, Option.getD_none, beq_iff_eq,
    endsBeyond, decide_eq_false_iff_not, Nat.not_lt]
  constructor
  · rintro ⟨listed, rfl, start, placed, within⟩
    cases placed
    exact ⟨rfl, listed, within⟩
  · rintro ⟨rfl, listed, within⟩
    exact ⟨listed, rfl, _, rfl, within⟩

namespace Editor

variable {σ : Type} {editor : Editor} {device : Device σ} {key : PageKey}

/-- The tables that an editor tries describe a page for its device: those of its namespace or, after
`.generic`, the fallback ones. -/
def Knows (editor : Editor) (key : PageKey) : Prop :=
  editor.registry.Describes editor.config.space key editor.type ∨
    editor.config.space = .generic ∧ editor.registry.Describes .fallback key editor.type

/-- The tables of the namespace have this field on a page, for `editor.type` or its family. -/
def HasField (editor : Editor) (key : PageKey) (field : Field) : Prop :=
  field ∈ (editor.registry.table editor.config.space).fields ∧ field.page = key ∧
    field.filter.applies editor.type = true

/-- Without an entry the fields of a page are looked for in `config.space`, the namespace of the
editor. -/
theorem pageEntry_of_not_knows (unknown : ¬ editor.Knows key) :
    (editor.pageEntry key).value = (none, editor.config.space) := by
  obtain ⟨missing, fallback⟩ := not_or.1 unknown
  rw [← Registry.findPage_eq_none_iff] at missing
  unfold pageEntry
  dsimp only
  rw [Logged.value_bind, missing]
  by_cases generic : editor.config.space = .generic
  · -- the fallback tables are tried too
    have missing' := Registry.findPage_eq_none_iff.2 fun described => fallback ⟨generic, described⟩
    dsimp only
    rw [if_neg (not_not.2 generic), Logged.value_bind, missing', Logged.value_pure]
  · dsimp only
    rw [if_pos generic, Logged.value_pure]

/-- An editor has an entry for exactly the pages that it `Knows`. -/
theorem entryOf_eq_none_iff : editor.entryOf key = none ↔ ¬ editor.Knows key := by
  refine ⟨fun absent known => ?_, fun unknown => by rw [entryOf, pageEntry_of_not_knows unknown]⟩
  have taken {space : Namespace} {entry : PageEntry}
      (h : (editor.pageEntry key).value = (some entry, space)) : False := by
    rw [entryOf, h] at absent
    cases absent
  by_cases here : editor.registry.Describes editor.config.space key editor.type
  · obtain ⟨entry, found⟩ := Option.isSome_iff_exists.1 (Registry.isSome_findPage_iff.2 here)
    exact taken (pageEntry_of_found found)
  · obtain ⟨generic, there⟩ := known.resolve_left here
    obtain ⟨entry, found⟩ := Option.isSome_iff_exists.1 (Registry.isSome_findPage_iff.2 there)
    exact taken (pageEntry_of_missing generic (Registry.findPage_eq_none_iff.2 (generic ▸ here)) found)

/-- The report of an unknown page goes through the fields for which `HasField` holds. -/
theorem mem_fieldsOf_iff_hasField {field : Field} (unknown : ¬ editor.Knows key) :
    field ∈ editor.fieldsOf key ↔ editor.HasField key field := by
  rw [fieldsOf, pageEntry_of_not_knows unknown, PageTable.fieldsOf, List.mem_filter, HasField,
    Bool.and_eq_true, beq_iff_eq]

/-- What is reported of a page of `length` bytes that no table describes. -/
structure ReportsUndescribed (editor : Editor) (report : PageReport) (length : Nat) : Prop where
  /-- It counts as one descriptor. -/
  count : report.descriptorCount = 1
  /-- A field is reported once, if `HasField` holds of it and it ends within the page. -/
  lists : ∀ field index, report.Lists field index ↔ index = 0 ∧
    editor.HasField report.key field ∧ field.span.startByte + field.span.byteCount ≤ length
  /-- There is a field in the report only if `HasField` holds of one. -/
  empty : (∀ field, ¬ editor.HasField report.key field) → report.fields = []

/-- **Which pages are reported without an entry**, and what is reported of them. A page is reported
without an entry exactly when the editor does not know it (`Knows`): no table that it tries
describes the page. It counts as one descriptor then, and has in it the fields that the tables of
the namespace still have on it. So a page that is reported with a field is described, unless the
tables of the namespace have a field on a page that they do not describe; and where it is described,
its descriptors are found by its entry. -/
theorem undescribed_pages (editor : Editor) (device : Device σ) (key : PageKey) (state : σ)
    (report : PageReport)
    (reported : (Session.effect (editor.readPage device key) state).result = .ok report) :
    (report.entry = none ↔ ¬ editor.Knows key) ∧
      ∃ images current plan, editor.Planned device key PageControl.all state images current plan ∧
        PageEntry.layoutOf report.entry current.page = .ok plan.layout ∧
        report.descriptorCount = plan.count ∧
        (report.entry = none → editor.ReportsUndescribed report current.pageLength) := by
  obtain ⟨images, current, plan, fields, planned, made, rfl⟩ := result_readPage_iff.1 reported
  obtain ⟨layout, found, rfl⟩ := plan_eq_ok_iff.1 planned.planned
  refine ⟨entryOf_eq_none_iff, images, current, _, planned, found, rfl, fun absent => ?_⟩
  have unknown : ¬ editor.Knows key := entryOf_eq_none_iff.1 absent
  obtain rfl : layout = none := by
    -- without an entry no descriptors are looked for
    rw [entryOf_eq_none_iff.2 unknown] at found
    exact (Except.ok.inj found).symm
  have lists (field : Field) (index : Nat) :
      (∃ entry ∈ fields, entry.field = field ∧ entry.index = index) ↔ index = 0 ∧
        editor.HasField key field ∧
          field.span.startByte + field.span.byteCount ≤ current.pageLength := by
    rw [← mem_fieldsOf_iff_hasField unknown]
    exact PagePlan.reported_iff_of_layout_eq_none made rfl
  refine ⟨rfl, lists, fun none => ?_⟩
  rw [List.eq_nil_iff_forall_not_mem]
  intro entry mem
  obtain ⟨-, has, -⟩ := (lists entry.field entry.index).1 ⟨entry, mem, rfl, rfl⟩
  exact none _ has

end Editor

/-! ## Fields for the family alone -/

namespace Sample

/-- The tables of serial attached SCSI with a page for tapes alone, its field among them. -/
def tapePortRegistry : Registry :=
  ({} : Registry).withTransport .sas
    { pages := [{ enhancedPhyControl with filter := tapeOnly }]
      fields := [identifierField.restrictedTo tapeOnly] }

/-- An automation device, of type `0x12`, is of the family of tapes. -/
def automation : DeviceType := DeviceType.ofNat 0x12

/-- An editor for an automation device, by `tapePortRegistry`. -/
def automationEditor : Editor :=
  ⟨tapePortRegistry, { space := .transport .sas, size := .six }, some automation⟩

/-- Of a page that the tables do not have at all nothing is reported. -/
theorem caching_undescribed :
    ¬ automationEditor.Knows caching.key ∧ (∀ field, ¬ automationEditor.HasField caching.key field) ∧
      ∃ report, (Session.effect (automationEditor.readPage MemoryDevice.device caching.key)
          cachingDevice).result = .ok report ∧
        report.entry = none ∧ report.descriptorCount = 1 ∧ report.fields = [] := by
  have unknown : ¬ automationEditor.Knows caching.key := by
    rintro (here | ⟨generic, -⟩)
    · exact Registry.findPage_eq_none_iff.1 (by decide) here
    · cases generic
  have free (field : Field) : ¬ automationEditor.HasField caching.key field := by
    rintro ⟨mem, same, -⟩
    rw [List.mem_singleton.1 mem] at same
    exact absurd same (by decide)
  have read : (Session.effect (automationEditor.readPage MemoryDevice.device caching.key)
      cachingDevice).result = .ok ⟨caching.key, none, true, 1, []⟩ := by
    decide +kernel
  obtain ⟨known, images, current, plan, -, -, -, undescribed⟩ :=
    Editor.undescribed_pages automationEditor MemoryDevice.device caching.key cachingDevice _ read
  have absent := known.2 unknown
  exact ⟨unknown, free, _, read, absent, (undescribed absent).count, (undescribed absent).empty free⟩

/-- **A field of an undescribed page is reported.** The entry is for tapes alone, and so is
`identifierField`; to an automation device, which is of their family, the field applies and the page
does not. The field is reported once, though the page has two descriptors. -/
theorem automation_page_undescribed :
    automation.family = .tape ∧
      (automationEditor.pageEntry enhancedPhyControl.key).value = (none, .transport .sas) ∧
      (Session.effect (automationEditor.readPage MemoryDevice.device enhancedPhyControl.key)
        (phyDevice cutDescriptors)).result =
          .ok ⟨enhancedPhyControl.key, none, false, 1,
            [phyReport (identifierField.restrictedTo tapeOnly) 0 0x09]⟩ := by
  refine ⟨by decide, by decide +kernel, by decide +kernel⟩

end Sample

end ModeParameters
