import ModeParameters.Proofs.Editor.PageReports
import ModeParameters.Proofs.Item.Names

/-! # Coordinates in place of an acronym

What an editor does with a binding depends on the place of its field and on nothing else that the tables
say of it: its flags, its devices and its descriptor id decide remarks at most, and its name goes into
labels. A field of a page can therefore be given by its coordinates as well as by its acronym. In a page
with descriptors both mean the field in the first one, which is where the table says. -/

namespace ModeParameters

variable {plan : PagePlan} {images : PageImages} {image : PageImage} {binding binding' : Binding}

/-- Two reports show the same: the same `value` in every variant, in the same descriptor. -/
def FieldReport.ShowsSame (report report' : FieldReport) : Prop :=
  report'.index = report.index ∧ ∀ control, report'.value control = report.value control

/-! ## Bindings that act alike -/

namespace PagePlan

/-- A field is located by its `span`, whatever it is called. -/
theorem locate_agrees {field field' : Field} (same : field'.span = field.span) (plan : PagePlan)
    (label label' : String) (index : Nat) :
    SameOutcome Eq (plan.locate field label index).value (plan.locate field' label' index).value := by
  have ends (start : Nat) : plan.endsBeyond field' start = plan.endsBeyond field start := by
    rw [endsBeyond, endsBeyond, same]
  rw [value_locate, value_locate, offsetOf?_congr same]
  cases plan.offsetOf? field index with
  | none => exact .error rfl
  | some offset =>
    refine (SameOutcome.refl _).bind ?_
    rintro start _ rfl
    rw [ends]
    split
    · exact .error rfl
    · exact .ok rfl

/-- Bindings that act alike are located alike: `locate` gives the same start, or fails for both. -/
theorem locate_binding_agrees (alike : binding.ActsAlike binding') (plan : PagePlan) :
    SameOutcome Eq (plan.locate binding.field binding.label binding.descriptorIndex).value
      (plan.locate binding'.field binding'.label binding'.descriptorIndex).value := by
  rw [alike.index_eq]
  exact locate_agrees alike.span_eq plan _ _ _

/-- Bindings that act alike make the same changes: `apply` comes to the same image, or fails for
both. -/
theorem apply_agrees (alike : binding.ActsAlike binding') (plan : PagePlan) (images : PageImages)
    (image : PageImage) :
    SameOutcome Eq (plan.apply images image binding).value (plan.apply images image binding').value := by
  cases action : binding.action with
  | query =>
    rw [apply_query action, apply_query (alike.action_eq.trans action)]
    exact .ok rfl
  | set value =>
    rw [value_apply_set action, value_apply_set (alike.action_eq.trans action), alike.span_eq]
    refine (locate_binding_agrees alike plan).bind ?_
    rintro start _ rfl
    cases image.write { binding.field.span with startByte := start } value with
    | error e => exact .error rfl
    | ok changed => exact .ok rfl

/-- Reports of fields with the same `span` show the same. -/
theorem report_showsSame {field field' : Field} (same : field'.span = field.span) (plan : PagePlan)
    (images : PageImages) (label label' : String) (index start : Nat) :
    (plan.report images field label index start).ShowsSame
      (plan.report images field' label' index start) := by
  refine ⟨rfl, fun control => ?_⟩
  rw [value_report, value_report]
  simp only [PageImage.value?, same]

/-- Bindings that act alike are reported with the same values, as `ShowsSame` says. -/
theorem reportBinding_agrees (alike : binding.ActsAlike binding') (plan : PagePlan)
    (images : PageImages) :
    SameOutcome FieldReport.ShowsSame (plan.reportBinding images binding).value
      (plan.reportBinding images binding').value := by
  rw [value_reportBinding, value_reportBinding]
  refine (locate_binding_agrees alike plan).bind ?_
  rintro start _ rfl
  have shown := report_showsSame alike.span_eq plan images binding.label binding'.label
    binding.descriptorIndex start
  have current : (plan.report images binding'.field binding'.label binding.descriptorIndex
      start).current = (plan.report images binding.field binding.label binding.descriptorIndex
        start).current := shown.2 .current
  rw [alike.index_eq]
  dsimp only
  rw [current]
  split
  · exact .ok shown
  · exact .error rfl

end PagePlan

/-! ## Requests that act alike -/

namespace Editor

variable {σ : Type} {request request' : Request}

/-- Requests that act alike make the same changes of the current values. -/
theorem applyRequest_agrees (alike : request.ActsAlike request') (editor : Editor)
    (images : PageImages) (current : PageImage) :
    SameOutcome Eq (editor.applyRequest request images current).value
      (editor.applyRequest request' images current).value := by
  rw [value_applyRequest, value_applyRequest, alike.page_eq]
  refine (SameOutcome.refl _).bind ?_
  rintro plan _ rfl
  have step (image image' : PageImage) (binding binding' : Binding) (same : image = image')
      (alike : binding.ActsAlike binding') :
      SameOutcome Eq (plan.apply images image binding).value
        (plan.apply images image' binding').value :=
    same ▸ PagePlan.apply_agrees alike plan images image
  exact SameOutcome.foldlM step alike.bindings rfl

/-- Requests that act alike are reported with the same values: report by report they `ShowsSame`. -/
theorem reportRequest_agrees (alike : request.ActsAlike request') (editor : Editor)
    (images : PageImages) (current : PageImage) :
    SameOutcome (List.Forall₂ FieldReport.ShowsSame)
      (editor.reportRequest request images current).value
      (editor.reportRequest request' images current).value := by
  rw [value_reportRequest, value_reportRequest, alike.page_eq]
  refine (SameOutcome.refl _).bind ?_
  rintro plan _ rfl
  have step (binding binding' : Binding) (alike : binding.ActsAlike binding') :
      SameOutcome FieldReport.ShowsSame (plan.reportBinding images binding).value
        (plan.reportBinding images binding').value :=
    PagePlan.reportBinding_agrees alike plan images
  exact SameOutcome.mapM step alike.bindings

/-- **Requests that act alike set the same bits**: `writeFields` issues the same commands, with the
same parameters, for both, and both come to the same or fail for the same reason. -/
theorem writeFields_agrees (alike : request.ActsAlike request') (editor : Editor) (device : Device σ)
    (state : σ) :
    Effect.Agrees Eq (Session.effect (editor.writeFields device request) state)
      (Session.effect (editor.writeFields device request') state) := by
  rw [writeFields, writeFields, (does_edit _ _).effect_eq, (does_edit _ _).effect_eq, alike.page_eq]
  -- the same page is fetched, and the same parameters are made of it
  refine (Effect.Agrees.refl _).andThen ?_
  rintro images _ fetched rfl
  have made : SameOutcome Eq (editor.changeOf request.page (editor.applyRequest request) images)
      (editor.changeOf request.page (editor.applyRequest request') images) := by
    refine (SameOutcome.refl _).bind ?_
    rintro current _ rfl
    refine (applyRequest_agrees alike editor images current).map ?_
    rintro changed _ rfl
    rfl
  refine Effect.Agrees.andThen ⟨made, rfl, rfl⟩ ?_
  rintro parameters _ state rfl
  exact .refl _

/-- **Requests that act alike report the same values** in `readFields`, with the same commands. -/
theorem readFields_agrees (alike : request.ActsAlike request') (editor : Editor) (device : Device σ)
    (state : σ) :
    Effect.Agrees (List.Forall₂ FieldReport.ShowsSame)
      (Session.effect (editor.readFields device request) state)
      (Session.effect (editor.readFields device request') state) := by
  rw [effect_readFields, effect_readFields, alike.page_eq]
  refine ⟨?_, rfl, rfl⟩
  refine (SameOutcome.refl _).bind ?_
  rintro images _ rfl
  refine (SameOutcome.refl _).bind ?_
  rintro current _ rfl
  exact reportRequest_agrees alike editor images current

/-! ## Items -/

/-- Sets the field that the text of an item names on a page. -/
def writeItem (editor : Editor) (context : LookupContext) (device : Device σ) (mode : ItemMode)
    (page : PageKey) (text : String) : Session σ EditOutcome := do
  let request ← Session.attempt (context.request mode page text)
  editor.writeFields device request

/-- Reports the field that the text of an item names on a page. -/
def readItem (editor : Editor) (context : LookupContext) (device : Device σ) (mode : ItemMode)
    (page : PageKey) (text : String) : Session σ (List FieldReport) := do
  let request ← Session.attempt (context.request mode page text)
  editor.readFields device request

theorem effect_writeItem (editor : Editor) (context : LookupContext) (device : Device σ)
    (mode : ItemMode) (page : PageKey) (text : String) (state : σ) :
    Session.effect (editor.writeItem context device mode page text) state =
      Effect.andThen ⟨(context.request mode page text).value, [], state⟩ fun request =>
        Session.effect (editor.writeFields device request) :=
  ((Session.does_attempt _).bind fun _ => (does_edit _ _).does_effect).effect_eq state

theorem effect_readItem (editor : Editor) (context : LookupContext) (device : Device σ)
    (mode : ItemMode) (page : PageKey) (text : String) (state : σ) :
    Session.effect (editor.readItem context device mode page text) state =
      Effect.andThen ⟨(context.request mode page text).value, [], state⟩ fun request =>
        Session.effect (editor.readFields device request) :=
  ((Session.does_attempt _).bind fun _ => (does_inspect _ _).does_effect).effect_eq state

/-- An item addresses a span of a page: whatever it asks for, its field lies there in every page
that has a plan, as `plan.spanOf?` says. -/
def Addresses (editor : Editor) (context : LookupContext) (mode : ItemMode) (page : PageKey)
    (text : String) (span : BitSpan) : Prop :=
  ∀ request, (context.request mode page text).value = .ok request →
    ∀ image plan, (editor.plan page (editor.entryOf page) image).value = .ok plan →
      request.bindings.map plan.spanOf? = [some span]

variable {context : LookupContext} {page : PageKey} {text text' : String} {field field' : Field}

/-- **An item with the name of a field addresses the place that the table gives**, `field.span`,
with or without descriptors. -/
theorem addresses_of_names (named : context.Names page text field) (editor : Editor)
    (mode : ItemMode) (value : Option String) :
    editor.Addresses context mode page (Item.written text value) field.span := by
  intro request made image plan planned
  rw [LookupContext.value_request_written named, map_eq_ok_iff] at made
  obtain ⟨raw, -, rfl⟩ := made
  simp only [List.map_cons, List.map_nil, PagePlan.spanOf?, Binding.descriptorIndex, Option.getD_none,
    PagePlan.offsetOf?_zero planned, Option.map_some]

/-- **Names of fields at the same place are interchangeable** in `writeItem` and in `readItem`. -/
theorem names_interchangeable (named : context.Names page text field)
    (named' : context.Names page text' field') (same : field'.span = field.span) (editor : Editor)
    (device : Device σ) (mode : ItemMode) (value : Option String) (state : σ) :
    Effect.Agrees Eq
        (Session.effect (editor.writeItem context device mode page (Item.written text value)) state)
        (Session.effect (editor.writeItem context device mode page (Item.written text' value)) state) ∧
      Effect.Agrees (List.Forall₂ FieldReport.ShowsSame)
        (Session.effect (editor.readItem context device mode page (Item.written text value)) state)
        (Session.effect (editor.readItem context device mode page (Item.written text' value)) state) := by
  have request := LookupContext.request_agrees named named' same mode value
  simp only [effect_writeItem, effect_readItem]
  constructor
  · exact Effect.Agrees.andThen ⟨request, rfl, rfl⟩ fun _ _ between alike =>
      writeFields_agrees alike editor device between
  · exact Effect.Agrees.andThen ⟨request, rfl, rfl⟩ fun _ _ between alike =>
      readFields_agrees alike editor device between

/-- **Coordinates are interchangeable with the name of a field.** Let a text name a field of a page
(`Names`), and let the field be usable and end within the largest response, at `addressEnd` at the
latest. Then in every mode and with every value, an item with this name and an item with the
coordinates of the field set the same bits, with the same commands and parameters, and report the
same values; where one of them fails the other one does, for the same reason. The tables may have
another field at these coordinates or none. Both items address `field.span`, the place that the
table gives for the field, also in a page with descriptors. -/
theorem coordinates_interchangeable (named : context.Names page text field)
    (usable : field.span.WellFormed)
    (ends : field.span.startByte + field.span.touched ≤ LookupContext.addressEnd) (editor : Editor)
    (device : Device σ) (mode : ItemMode) (value : Option String) (state : σ) :
    let byName := Item.written text value
    let byPlace := Item.written (Field.coordinates field.span) value
    Effect.Agrees Eq (Session.effect (editor.writeItem context device mode page byName) state)
        (Session.effect (editor.writeItem context device mode page byPlace) state) ∧
      Effect.Agrees (List.Forall₂ FieldReport.ShowsSame)
        (Session.effect (editor.readItem context device mode page byName) state)
        (Session.effect (editor.readItem context device mode page byPlace) state) ∧
      editor.Addresses context mode page byName field.span ∧
      editor.Addresses context mode page byPlace field.span := by
  intro byName byPlace
  have placed := LookupContext.names_coordinates usable ends context page
  have same := (LookupContext.page_span_fieldAtSpan context page field.span).2
  obtain ⟨written, read⟩ := names_interchangeable named placed same editor device mode value state
  refine ⟨written, read, addresses_of_names named editor mode value, ?_⟩
  have addressed := addresses_of_names placed editor mode value
  rwa [same] at addressed

end Editor

/-! ## A field of a descriptor -/

namespace Sample

/-- The sample tables for a device of unknown type, the generic ones first. -/
def anyTables : LookupContext := ⟨registry, .generic, none⟩

/-- The acronym of `identifierField` is found in the fallback table, in small letters too. -/
theorem names_identifier : anyTables.Names enhancedPhyControl.key "ephid" identifierField := by
  have chars : "ephid".toList.all isAcronymChar = true := by decide
  refine LookupContext.names_acronym (by decide) (List.all_eq_true.1 chars) fun item named => ?_
  rw [LookupContext.fieldOf_acronym_eq_ok_iff named]
  decide

/-- The commands by which the identifier of the first phy is set to 5. -/
def identifierCommands : List Command :=
  [.sense (sixByteEditor.probeRequest enhancedPhyControl.key),
   .sense (sixByteEditor.senseRequest enhancedPhyControl.key .current 32),
   .select ⟨.six, false,
     [0x00, 0x00, 0x00, 0x00, 0x59, 0x03, 0x00, 0x18, 0x00, 0x06, 0x00, 0x02, 0x00, 0x05, 0x00, 0x0C,
      0x00, 0x00, 0x00, 0x00, 0x00, 0x00, 0x00, 0x00, 0x11, 0x22, 0x33, 0x44, 0x00, 0x0A, 0x00, 0x00]⟩]

/-- The coordinates of `identifierField` are left without a name, since the generic tables do not
have it, and set it just as its acronym does. -/
theorem identifier_interchangeable :
    anyTables.Names enhancedPhyControl.key "ephid" identifierField ∧
      anyTables.fieldAtSpan enhancedPhyControl.key identifierField.span =
        .ofSpan enhancedPhyControl.key identifierField.span ∧
      (Session.effect (sixByteEditor.writeItem anyTables MemoryDevice.device .set
        enhancedPhyControl.key "9:7:8=5") (phyDevice cutDescriptors)).issued = identifierCommands ∧
      (Session.effect (sixByteEditor.writeItem anyTables MemoryDevice.device .set
        enhancedPhyControl.key "ephid=5") (phyDevice cutDescriptors)).issued = identifierCommands := by
  have agrees := Editor.coordinates_interchangeable names_identifier ⟨by decide, by decide, by decide⟩
    (by decide) sixByteEditor MemoryDevice.device .set (some "5") (phyDevice cutDescriptors)
  have byPlace : (Session.effect (sixByteEditor.writeItem anyTables MemoryDevice.device .set
      enhancedPhyControl.key "9:7:8=5") (phyDevice cutDescriptors)).issued = identifierCommands := by
    decide +kernel
  refine ⟨names_identifier, by decide, byPlace, ?_⟩
  exact agrees.1.issued_eq.symm.trans byPlace

end Sample

end ModeParameters
