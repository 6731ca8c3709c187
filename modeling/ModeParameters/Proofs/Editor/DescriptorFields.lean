import ModeParameters.Proofs.Editor.DescriptorFrame
import ModeParameters.Proofs.Editor.PageReports

/-! # Where fields are in descriptors

A layout gives a field an address in every descriptor in which the field means something. The report of
a page goes by these addresses, so it leaves out such a field only where the page ends before it. -/

namespace ModeParameters.Editor

variable {σ : Type} {editor : Editor} {device : Device σ} {key : PageKey} {state : σ}
  {images : PageImages} {current : PageImage} {plan : PagePlan} {layout : Layout} {field : Field}
  {index offset : Nat}

/-- The report of a page `Lists` a field for every descriptor in which it `applies`, unless the
field does not end within the page (`plan.endsBeyond`). -/
theorem lists_or_endsBeyond
    (planned : editor.Planned device key PageControl.all state images current plan)
    (laid : plan.layout = some layout) {report : PageReport}
    (reported : (Session.effect (editor.readPage device key) state).result = .ok report)
    (listed : field ∈ editor.fieldsOf key) (applied : layout.applies field index = true)
    (found : layout.offsetOf? field index = some offset) :
    report.Lists field index ∨ plan.endsBeyond field offset = true := by
  obtain ⟨_, _, _, fields, planned', made, rfl⟩ := result_readPage_iff.1 reported
  obtain ⟨rfl, rfl, rfl⟩ := planned.unique planned'
  cases beyond : plan.endsBeyond field offset with
  | true => exact .inr rfl
  | false =>
    -- the plan of the page goes by its layout
    have applied' : plan.applies field index = true := by
      rw [PagePlan.applies, laid]
      exact applied
    have found' : plan.offsetOf? field index = some offset := by
      rw [PagePlan.offsetOf?, laid]
      exact found
    exact .inl (PagePlan.exists_mem_reportFields made listed applied' found' beyond)

/-- **Descriptors are addressed regularly.** A layout has 1 to `maxDescriptorCount` descriptors, the
first one at `block.firstOffset` and each one behind the one before it. In the first one every field
is where its table says. A field that `layout.holds` denies has no address in any other one. A field
of the descriptors has one in each, `startOf?` of the descriptor and `startByte - firstOffset`, so
that its addresses increase. Wherever a field `applies` it has an address, and the report of a page
with this layout has an entry for it, unless it does not end within the page. -/
theorem descriptor_addresses {block : DescriptorBlock} {page : Bytes} {layout : Layout}
    (laid : (block.layout page).value = .ok layout) (field : Field) :
    (1 ≤ layout.count ∧ layout.count ≤ maxDescriptorCount ∧
      layout.startOf? 0 = some block.firstOffset ∧
      ∀ earlier later start start', earlier < later → layout.startOf? earlier = some start →
        layout.startOf? later = some start' → start < start') ∧
    layout.offsetOf? field 0 = some field.span.startByte ∧
    (field.span.startByte < block.firstOffset →
      ∀ index, 1 ≤ index → layout.offsetOf? field index = none) ∧
    (block.firstOffset ≤ field.span.startByte →
      (∀ index, (∃ offset, layout.offsetOf? field index = some offset) ↔ index < layout.count) ∧
      (∀ index, layout.offsetOf? field index =
        (layout.startOf? index).map (· + (field.span.startByte - block.firstOffset))) ∧
      ∀ earlier later offset offset', earlier < later →
        layout.offsetOf? field earlier = some offset →
        layout.offsetOf? field later = some offset' → offset < offset') ∧
    ∀ index, layout.applies field index = true →
      ∃ offset, layout.offsetOf? field index = some offset ∧
        ∀ {σ : Type} (editor : Editor) (device : Device σ) (key : PageKey) (state : σ) images current
          plan report, editor.Planned device key PageControl.all state images current plan →
          plan.layout = some layout →
          (Session.effect (editor.readPage device key) state).result = .ok report →
          field ∈ editor.fieldsOf key →
          report.Lists field index ∨ plan.endsBeyond field offset = true := by
  have regular := DescriptorBlock.regular_of_layout laid
  obtain rfl := DescriptorBlock.block_of_layout laid
  refine ⟨⟨regular.count_pos, regular.count_le, regular.first, ?_⟩, regular.offsetOf?_zero field,
    ?_, ?_, ?_⟩
  · intro earlier later start start' before found found'
    exact regular.startOf?_lt found found' before
  · intro before index behind
    rw [Layout.offsetOf?_of_before before, if_neg (Nat.ne_of_gt behind)]
  · intro inside
    refine ⟨fun index => regular.exists_offsetOf?_iff inside, regular.offsetOf?_of_inside inside, ?_⟩
    intro earlier later offset offset' before found found'
    exact regular.offsetOf?_lt inside found found' before
  · intro index applied
    obtain ⟨offset, found⟩ := regular.exists_offsetOf?_of_applies applied
    refine ⟨offset, found, ?_⟩
    intro σ editor device key state images current plan report planned own reported listed
    exact lists_or_endsBeyond planned own reported listed applied found

end ModeParameters.Editor

/-! ## A phy without room for capabilities -/

namespace ModeParameters.Sample

/-- The layout of a phy page whose second descriptor has no room for capabilities. -/
def cutLayout : Layout := ⟨enhancedPhyDescriptors, [8, 24], [none, none]⟩

/-- What the sample editor plans for this page. -/
def cutPlan : PagePlan := ⟨enhancedPhyControl.key, some cutLayout, 28, false⟩

theorem planned_cutDescriptors :
    sixByteEditor.Planned MemoryDevice.device enhancedPhyControl.key PageControl.all
      (phyDevice cutDescriptors) { current := some (phyImage cutDescriptors) }
      (phyImage cutDescriptors) cutPlan where
  fetched := by decide +kernel
  present := rfl
  planned := by decide +kernel

/-- The capabilities of the second phy have an address. As the report of the page does not list
them, `endsBeyond` holds there: they do not end within the page. -/
theorem cut_capabilities_addressed :
    (enhancedPhyDescriptors.layout (phyImage cutDescriptors).page).value = .ok cutLayout ∧
      cutLayout.applies capabilitiesField 1 = true ∧ ¬ cutReport.Lists capabilitiesField 1 ∧
      ∃ offset, cutLayout.offsetOf? capabilitiesField 1 = some offset ∧
        cutPlan.endsBeyond capabilitiesField offset = true := by
  have laid : (enhancedPhyDescriptors.layout (phyImage cutDescriptors).page).value =
      .ok cutLayout := by decide +kernel
  have applied : cutLayout.applies capabilitiesField 1 = true := by decide +kernel
  have reported : (Session.effect (sixByteEditor.readPage MemoryDevice.device enhancedPhyControl.key)
      (phyDevice cutDescriptors)).result = .ok cutReport := by decide +kernel
  have listed : capabilitiesField ∈ sixByteEditor.fieldsOf enhancedPhyControl.key := by decide +kernel
  have missing : ¬ cutReport.Lists capabilitiesField 1 := by
    unfold PageReport.Lists
    decide +kernel
  obtain ⟨-, -, -, -, addressed⟩ := Editor.descriptor_addresses laid capabilitiesField
  obtain ⟨offset, found, told⟩ := addressed 1 applied
  exact ⟨laid, applied, missing, offset, found,
    (told _ _ _ _ _ _ _ _ planned_cutDescriptors rfl reported listed).resolve_left missing⟩

end ModeParameters.Sample
