import ModeParameters.Editor.Placement
import ModeParameters.Proofs.Descriptor.Addresses
import ModeParameters.Proofs.Page.Image

/-! # Where the fields of a request lie

The place of a field comes from the plan of its page, and the plan comes from the page as it was read.
The remarks and the waived checks on the way decide nothing about the place. -/

namespace ModeParameters

open Text (wordLimit)

/-- The layout of a page by its entry, or `none` if the entry has no descriptors. -/
def PageEntry.layoutOf (entry : Option PageEntry) (page : Bytes) :
    Except DescriptorError (Option Layout) :=
  match entry.bind PageEntry.descriptors with
  | none => .ok none
  | some block => (block.layout page).value.map some

/-- What planning a page comes to: the layout that `layoutOf` gives, if its descriptors can be
found. -/
theorem Editor.value_plan (editor : Editor) (key : PageKey) (entry : Option PageEntry)
    (image : PageImage) :
    (editor.plan key entry image).value =
      ((PageEntry.layoutOf entry image.page).mapError (ResponseError.descriptor key)).map
        fun layout => ⟨key, layout, image.pageLength, editor.config.flexible⟩ := by
  unfold Editor.plan PageEntry.layoutOf
  dsimp only
  cases entry.bind PageEntry.descriptors with
  | none => rfl
  | some block =>
    simp only [Attempt.value_bind, Attempt.value_map, Attempt.value_adapt, Attempt.value_pure]
    cases (block.layout image.page).value <;> rfl

/-- A page has a plan exactly when `layoutOf` succeeds, that is, when its descriptors can be
found. -/
theorem Editor.plan_eq_ok_iff {editor : Editor} {key : PageKey} {entry : Option PageEntry}
    {image : PageImage} {plan : PagePlan} :
    (editor.plan key entry image).value = .ok plan ↔
      ∃ layout, PageEntry.layoutOf entry image.page = .ok layout ∧
        plan = ⟨key, layout, image.pageLength, editor.config.flexible⟩ := by
  simp only [Editor.value_plan, map_eq_ok_iff, mapError_eq_ok_iff, @eq_comm _ plan]

namespace PagePlan

variable {plan : PagePlan} {field : Field} {label : String} {index start : Nat}

/-- Where the field of a binding lies: its span, with `startByte` counted from the start of the
page. -/
def spanOf? (plan : PagePlan) (binding : Binding) : Option BitSpan :=
  (plan.offsetOf? binding.field binding.descriptorIndex).map fun start =>
    { binding.field.span with startByte := start }

theorem checkAddress_eq_ok_iff {address : Nat} :
    plan.checkAddress address = .ok start ↔ address < wordLimit ∧ address = start := by
  unfold checkAddress
  by_cases fits : address < wordLimit
  · simp [fits]
  · simp [fits]

/-- What locating a field comes to, by `offsetOf?`, `checkAddress` and `endsBeyond`: the remark on a
descriptor with another id decides nothing, and the one on a field beyond the end only that it is no
error. -/
theorem value_locate (plan : PagePlan) (field : Field) (label : String) (index : Nat) :
    (plan.locate field label index).value =
      match plan.offsetOf? field index with
      | none => .error (.item (.descriptorIndexOutOfRange label plan.key index plan.count))
      | some offset => ((plan.checkAddress offset).mapError Error.response).bind fun start =>
          if plan.endsBeyond field start ∧ ¬ plan.flexible then
            .error (.response (plan.beyondPage label start))
          else .ok start := by
  unfold locate
  cases plan.offsetOf? field index with
  | none => rfl
  | some offset =>
    dsimp only
    rw [Attempt.value_bind, Attempt.value_liftExcept]
    congr 1
    funext start
    cases plan.endsBeyond field start <;> cases plan.flexible <;> simp [Except.bind, Except.map]

/-- **A field is located** exactly when its descriptor is there, its address is below `wordLimit`,
and it ends within the page or `flexible` waives that. -/
theorem locate_eq_ok_iff :
    (plan.locate field label index).value = .ok start ↔
      plan.offsetOf? field index = some start ∧ start < wordLimit ∧
        (plan.endsBeyond field start = true → plan.flexible = true) := by
  rw [value_locate]
  cases plan.offsetOf? field index with
  | none => simp
  | some offset =>
    simp only [bind_eq_ok_iff, mapError_eq_ok_iff, checkAddress_eq_ok_iff, guard_eq_ok_iff,
      Option.some.injEq, Except.ok.injEq, not_and, Decidable.not_not]
    constructor
    · rintro ⟨_, ⟨fits, rfl⟩, waived, rfl⟩
      exact ⟨rfl, fits, waived⟩
    · rintro ⟨rfl, fits, waived⟩
      exact ⟨offset, ⟨fits, rfl⟩, waived, rfl⟩

/-- Unless `flexible` waives that, a field that is located ends within the page. -/
theorem end_le_of_locate (strict : plan.flexible = false) (wellFormed : field.span.WellFormed)
    (h : (plan.locate field label index).value = .ok start) :
    start + field.span.touched ≤ plan.length := by
  obtain ⟨-, -, waived⟩ := locate_eq_ok_iff.1 h
  rw [strict, endsBeyond, BitSpan.byteCount_of_wellFormed wellFormed] at waived
  simpa using waived

/-- A field that is located lies where it was located: `spanOf?` has this start. -/
theorem spanOf?_of_locate {binding : Binding}
    (h : (plan.locate binding.field binding.label binding.descriptorIndex).value = .ok start) :
    plan.spanOf? binding = some { binding.field.span with startByte := start } := by
  rw [spanOf?, (locate_eq_ok_iff.1 h).1, Option.map_some]

/-- A field is placed by its `span` alone. -/
theorem offsetOf?_congr {field' : Field} (same : field'.span = field.span) (plan : PagePlan)
    (index : Nat) : plan.offsetOf? field' index = plan.offsetOf? field index := by
  unfold offsetOf? Layout.offsetOf? Layout.holds
  rw [same]

/-- **In the first descriptor a field is where its table says**, at `span.startByte`, in every page
that has a plan. -/
theorem offsetOf?_zero {editor : Editor} {key : PageKey} {entry : Option PageEntry}
    {image : PageImage} (planned : (editor.plan key entry image).value = .ok plan) (field : Field) :
    plan.offsetOf? field 0 = some field.span.startByte := by
  obtain ⟨layout, found, rfl⟩ := Editor.plan_eq_ok_iff.1 planned
  unfold PageEntry.layoutOf at found
  split at found
  · cases found
    rfl
  · obtain ⟨laid, laid_eq, rfl⟩ := map_eq_ok_iff.1 found
    exact (DescriptorBlock.regular_of_layout laid_eq).offsetOf?_zero field

/-- Two plans place every field alike. The ids of the descriptors may differ. -/
structure SamePlaces (plan plan' : PagePlan) : Prop where
  /-- Every field starts at the same byte. -/
  offset_eq : ∀ field index, plan'.offsetOf? field index = plan.offsetOf? field index
  /-- The pages are equally long. -/
  length_eq : plan'.length = plan.length
  /-- The same checks are waived. -/
  flexible_eq : plan'.flexible = plan.flexible

/-- Plans with `SamePlaces` locate every field alike. -/
theorem SamePlaces.locate_iff {plan plan' : PagePlan} (same : SamePlaces plan plan') :
    (plan'.locate field label index).value = .ok start ↔
      (plan.locate field label index).value = .ok start := by
  rw [locate_eq_ok_iff, locate_eq_ok_iff, same.offset_eq, same.flexible_eq, endsBeyond, endsBeyond,
    same.length_eq]

end PagePlan

namespace PageEntry

/-- Where the descriptors of a page start, as `layoutOf` finds them; `none` for a page without
descriptors. -/
def startsOf (entry : Option PageEntry) (page : Bytes) : Except DescriptorError (Option (List Nat)) :=
  (layoutOf entry page).map fun layout => layout.map Layout.starts

/-- Layouts of one entry with the same `starts` place every field alike. -/
theorem samePlaces_of_starts {entry : Option PageEntry} {page page' : Bytes}
    {layout layout' : Option Layout} (found : layoutOf entry page = .ok layout)
    (found' : layoutOf entry page' = .ok layout')
    (same : layout'.map Layout.starts = layout.map Layout.starts) (key : PageKey) (length : Nat)
    (flexible : Bool) :
    PagePlan.SamePlaces ⟨key, layout, length, flexible⟩ ⟨key, layout', length, flexible⟩ := by
  refine ⟨fun field index => ?_, rfl, rfl⟩
  unfold layoutOf at found found'
  cases described : entry.bind PageEntry.descriptors with
  | none =>
    rw [described] at found found'
    -- a page without descriptors has its fields where their spans say
    cases found
    cases found'
    rfl
  | some block =>
    rw [described] at found found'
    obtain ⟨laid, laid_eq, rfl⟩ := map_eq_ok_iff.1 found
    obtain ⟨laid', laid_eq', rfl⟩ := map_eq_ok_iff.1 found'
    -- the layouts may differ in the ids of their descriptors, which decide no place
    have starts_eq : laid'.starts = laid.starts := Option.some.inj same
    have blocks : laid'.block = laid.block :=
      (DescriptorBlock.block_of_layout laid_eq').trans (DescriptorBlock.block_of_layout laid_eq).symm
    change laid'.offsetOf? field index = laid.offsetOf? field index
    rcases laid with ⟨block, starts, ids⟩
    rcases laid' with ⟨block', starts', ids'⟩
    cases blocks
    cases starts_eq
    rfl

end PageEntry

end ModeParameters
