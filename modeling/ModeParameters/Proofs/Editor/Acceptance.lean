import ModeParameters.Proofs.Editor.Configuration
import ModeParameters.Proofs.Editor.DescriptorFields

/-! # Which bindings are accepted

A request that reads its fields and one that sets them find each field in the same way, but get at its
bytes in different ones: a read is of the page, or of what follows its start, and a write is always of
what follows the start, which earlier bindings may have changed. Both come to the same judgement of
every binding, which is defined here without either of them, so that a request is refused for the
same binding with the same error or not at all. -/

namespace ModeParameters

open Text (wordLimit)

variable {ε α β : Type}

/-- Whether there was a result, or the error: the result itself is set aside, `x.map fun _ =>
()`. -/
def verdict (x : Except ε α) : Except ε Unit := x.map fun _ => ()

theorem verdict_eq_ok_iff {x : Except ε α} : verdict x = .ok () ↔ ∃ a, x = .ok a := by
  unfold verdict
  rw [map_eq_ok_iff]
  simp only [and_true]

theorem verdict_eq_error_iff {x : Except ε α} {e : ε} : verdict x = .error e ↔ x = .error e :=
  map_eq_error_iff

theorem verdict_map (f : α → β) (x : Except ε α) : verdict (x.map f) = verdict x := by
  cases x <;> rfl

/-- Steps that come to alike verdicts on the results of the one before them make chains (`x.bind`)
with alike verdicts. -/
theorem verdict_bind_congr {γ : Type} {x : Except ε γ} {f : γ → Except ε α} {g : γ → Except ε β}
    (same : ∀ c, x = .ok c → verdict (f c) = verdict (g c)) :
    verdict (x.bind f) = verdict (x.bind g) := by
  cases x with
  | error e => rfl
  | ok c => exact same c rfl

namespace PagePlan

variable {plan : PagePlan} {images : PageImages} {image current : PageImage} {binding : Binding}
  {bound : Nat}

/-- Where fields must end: with the page, or in `flexible` mode with the response. -/
def reach (plan : PagePlan) (image : PageImage) : Nat :=
  if plan.flexible then image.tail.length else image.pageLength

/-- A binding is accepted: its field is `WellFormed`, its descriptor is there, and it ends before
byte `bound` of the page. -/
def Accepts (plan : PagePlan) (bound : Nat) (binding : Binding) : Prop :=
  binding.field.span.WellFormed ∧
    ∃ start, plan.offsetOf? binding.field binding.descriptorIndex = some start ∧
      start + binding.field.span.touched ≤ bound

instance (plan : PagePlan) (bound : Nat) (binding : Binding) : Decidable (plan.Accepts bound binding) :=
  inferInstanceAs (Decidable (_ ∧ ∃ start ∈ plan.offsetOf? binding.field binding.descriptorIndex,
    start + binding.field.span.touched ≤ bound))

/-- The error of a binding that is not accepted: `descriptorIndexOutOfRange`, or that its field is
behind the page. -/
def refusal (plan : PagePlan) (binding : Binding) : Error :=
  match plan.offsetOf? binding.field binding.descriptorIndex with
  | none => .item (.descriptorIndexOutOfRange binding.label plan.key binding.descriptorIndex
      plan.count)
  | some start =>
    if start < wordLimit then .response (plan.beyondPage binding.label start)
    else .response (.descriptor plan.key (.addressOverflow plan.descriptorName))

/-- What is decided of one binding: nothing where it `Accepts` it, else its `refusal`. -/
def judgement (plan : PagePlan) (bound : Nat) (binding : Binding) : Except Error Unit :=
  if plan.Accepts bound binding then .ok () else .error (plan.refusal binding)

theorem judgement_eq_ok_iff : plan.judgement bound binding = .ok () ↔ plan.Accepts bound binding := by
  unfold judgement
  split
  · next accepted => exact iff_of_true rfl accepted
  · next refused => exact iff_of_false nofun refused

theorem judgement_eq_error_iff {e : Error} :
    plan.judgement bound binding = .error e ↔
      ¬ plan.Accepts bound binding ∧ e = plan.refusal binding := by
  unfold judgement
  split
  · next accepted => exact iff_of_false nofun fun refused => refused.1 accepted
  · next refused =>
    rw [Except.error.injEq]
    exact ⟨fun same => ⟨refused, same.symm⟩, fun same => same.2.symm⟩

/-- What a field can `reach` ends with the response. -/
theorem reach_le (plan : PagePlan) (image : PageImage) : plan.reach image ≤ image.tail.length := by
  have inside := image.page_le
  have length := image.length_tail
  unfold reach
  split
  · exact Nat.le_refl _
  · omega

/-- Fields `reach` equally far in images with the page in the same place. -/
theorem reach_congr (same : image.SamePlace current) : plan.reach current = plan.reach image := by
  rw [reach, reach, PageImage.length_tail, PageImage.length_tail, same.length_eq, same.offset_eq,
    same.pageLength_eq]

/-- The field of a binding that the plan `Accepts` is located. -/
theorem Accepts.exists_locate (accepted : plan.Accepts (plan.reach image) binding)
    (length : plan.length = image.pageLength) (word : image.tail.length < wordLimit) :
    ∃ start, (plan.locate binding.field binding.label binding.descriptorIndex).value = .ok start := by
  obtain ⟨usable, start, found, ends⟩ := accepted
  have address : start < wordLimit := by
    have := plan.reach_le image
    omega
  refine ⟨start, locate_eq_ok_iff.2 ⟨found, address, fun beyond => ?_⟩⟩
  -- a field that ends within the page does not end behind it
  refine Bool.of_not_eq_false fun strict => ?_
  rw [reach, strict, if_neg Bool.false_ne_true, ← length] at ends
  rw [(endsBeyond_eq_false_iff usable).2 ends] at beyond
  cases beyond

/-- The error of a field that is not located by `locate` is the `refusal` of its binding. -/
theorem refusal_of_locate {e : Error}
    (h : (plan.locate binding.field binding.label binding.descriptorIndex).value = .error e) :
    e = plan.refusal binding := by
  rw [value_locate] at h
  unfold refusal
  cases found : plan.offsetOf? binding.field binding.descriptorIndex with
  | none =>
    rw [found] at h
    exact (Except.error.inj h).symm
  | some start =>
    rw [found] at h
    dsimp only at h ⊢
    unfold checkAddress at h
    by_cases address : start < wordLimit
    · rw [if_pos address, Except.mapError, Except.bind] at h
      rw [if_pos address]
      split at h
      · exact (Except.error.inj h).symm
      · cases h
    · rw [if_neg address] at h
      rw [if_neg address]
      exact (Except.error.inj h).symm

/-- **One judgement of a binding.** Whatever is done (`use`) with a field once it is located, the
binding is judged in the same way, if what is done succeeds only on usable fields that end with the
response, and fails, as being behind the page, only on fields out of reach. -/
theorem verdict_bind_locate (length : plan.length = image.pageLength)
    (word : image.tail.length < wordLimit) {use : Nat → Except Error α}
    (uses : ∀ start,
      (∃ a, use start = .ok a) ∧ binding.field.span.WellFormed ∧
        start + binding.field.span.touched ≤ image.tail.length ∨
      use start = .error (.response (plan.beyondPage binding.label start)) ∧
        ¬ (binding.field.span.WellFormed ∧
          start + binding.field.span.touched ≤ plan.reach image)) :
    verdict ((plan.locate binding.field binding.label binding.descriptorIndex).value.bind use) =
      plan.judgement (plan.reach image) binding := by
  cases located : (plan.locate binding.field binding.label binding.descriptorIndex).value with
  | error e =>
    have refused : ¬ plan.Accepts (plan.reach image) binding := by
      intro accepted
      obtain ⟨start, found⟩ := accepted.exists_locate length word
      cases located.symm.trans found
    rw [judgement_eq_error_iff.2 ⟨refused, refusal_of_locate located⟩]
    rfl
  | ok start =>
    obtain ⟨found, address, waived⟩ := locate_eq_ok_iff.1 located
    dsimp only [Except.bind]
    rcases uses start with ⟨⟨a, used⟩, usable, ends⟩ | ⟨failed, outside⟩
    · rw [used, judgement_eq_ok_iff.2 ⟨usable, start, found, ?_⟩]
      · rfl
      -- where it is not waived, the field was found to end within the page
      unfold reach
      split
      · exact ends
      · next strict =>
        rw [← length, ← endsBeyond_eq_false_iff usable]
        exact Bool.eq_false_iff.2 (mt waived strict)
    · have refused : ¬ plan.Accepts (plan.reach image) binding := by
        rintro ⟨usable, start', found', ends⟩
        cases found.symm.trans found'
        exact outside ⟨usable, ends⟩
      have named : .response (plan.beyondPage binding.label start) = plan.refusal binding := by
        rw [refusal, found]
        exact (if_pos address).symm
      rw [failed, judgement_eq_error_iff.2 ⟨refused, named⟩]
      rfl

/-- Reporting a binding judges it: the verdict of `reportBinding` is its `judgement`. -/
theorem verdict_reportBinding (length : plan.length = current.pageLength)
    (word : current.tail.length < wordLimit) (present : images.current = some current)
    (binding : Binding) :
    verdict (plan.reportBinding images binding).value =
      plan.judgement (plan.reach current) binding := by
  rw [value_reportBinding]
  refine verdict_bind_locate length word fun start => ?_
  have reported : (plan.report images binding.field binding.label binding.descriptorIndex
      start).current.isSome = true ↔ binding.field.span.WellFormed ∧
        start + binding.field.span.touched ≤ plan.reach current := by
    have readable : (if plan.flexible then current.tail else current.page).length =
        plan.reach current := by
      unfold reach
      split
      · rfl
      · exact current.length_page
    change (images.current.bind fun image => image.value? binding.field start
      plan.flexible).isSome = true ↔ _
    rw [present, Option.bind_some, PageImage.isSome_value?_iff, readable]
  dsimp only
  split
  · next value =>
    obtain ⟨usable, ends⟩ := reported.1 value
    exact .inl ⟨⟨_, rfl⟩, usable, Nat.le_trans ends (plan.reach_le current)⟩
  · next none => exact .inr ⟨rfl, mt reported.2 none⟩

/-- Setting the field of a binding judges it: the verdict of `apply` is its `judgement`. -/
theorem verdict_apply (images : PageImages) (length : plan.length = image.pageLength)
    (word : image.tail.length < wordLimit) (sets : binding.action ≠ .query) :
    verdict (plan.apply images image binding).value =
      plan.judgement (plan.reach image) binding := by
  obtain ⟨value, action⟩ := Binding.exists_set_of_ne_query sets
  rw [value_apply_set action]
  refine verdict_bind_locate length word fun start => ?_
  cases wrote : image.write { binding.field.span with startByte := start } value with
  | ok changed =>
    obtain ⟨tail, done, -⟩ := PageImage.write_eq_ok_iff.1 wrote
    have within := BitSpan.within_of_write done
    exact .inl ⟨⟨changed, rfl⟩, BitSpan.wellFormed_startByte_iff.1 within.wellFormed, within.end_le⟩
  | error e =>
    refine .inr ⟨rfl, fun ⟨usable, ends⟩ => ?_⟩
    -- a field within reach could have been written
    have within : BitSpan.Within { binding.field.span with startByte := start } image.tail.length :=
      ⟨BitSpan.wellFormed_startByte_iff.2 usable, Nat.le_trans ends (plan.reach_le image)⟩
    have done := PageImage.write_eq_ok_iff.2 ⟨_, BitSpan.write_of_within within value, rfl⟩
    cases wrote.symm.trans done

/-! ## Requests -/

/-- What is decided of bindings, one after the other: the `judgement` of the first one that is
refused decides. -/
def judgements (plan : PagePlan) (bound : Nat) (bindings : List Binding) :
    Except Error Unit :=
  verdict (bindings.mapM (plan.judgement bound))

theorem judgements_nil (plan : PagePlan) (bound : Nat) : plan.judgements bound [] = .ok () := by
  rw [judgements, List.mapM_nil]
  rfl

theorem judgements_cons (plan : PagePlan) (bound : Nat) (binding : Binding) (rest : List Binding) :
    plan.judgements bound (binding :: rest) =
      (plan.judgement bound binding).bind fun _ => plan.judgements bound rest := by
  unfold judgements
  rw [List.mapM_cons]
  cases plan.judgement bound binding with
  | error e => rfl
  | ok _ =>
    change verdict ((rest.mapM (plan.judgement bound)).bind _) = _
    cases rest.mapM (plan.judgement bound) <;> rfl

theorem judgements_eq_ok_iff {bindings : List Binding} :
    plan.judgements bound bindings = .ok () ↔ ∀ binding ∈ bindings, plan.Accepts bound binding := by
  induction bindings with
  | nil => exact iff_of_true (judgements_nil plan bound) (List.forall_mem_nil _)
  | cons binding rest ih =>
    rw [judgements_cons, bind_eq_ok_iff, List.forall_mem_cons, ← ih, ← judgement_eq_ok_iff]
    constructor
    · rintro ⟨⟨⟩, accepted, others⟩
      exact ⟨accepted, others⟩
    · rintro ⟨accepted, others⟩
      exact ⟨(), accepted, others⟩

theorem judgements_eq_error_iff {bindings : List Binding} {e : Error} :
    plan.judgements bound bindings = .error e ↔
      ∃ before binding after, bindings = before ++ binding :: after ∧
        (∀ earlier ∈ before, plan.Accepts bound earlier) ∧
        ¬ plan.Accepts bound binding ∧ e = plan.refusal binding := by
  have accepts (binding : Binding) :
      (∃ u, plan.judgement bound binding = .ok u) ↔ plan.Accepts bound binding := by
    rw [← judgement_eq_ok_iff]
    exact ⟨fun ⟨_, accepted⟩ => accepted, fun accepted => ⟨(), accepted⟩⟩
  rw [judgements, verdict_eq_error_iff, mapM_eq_error_iff]
  simp only [accepts, judgement_eq_error_iff]

/-- The reports of bindings judge them: their verdict is `judgements`. -/
theorem verdict_reportBindings (length : plan.length = current.pageLength)
    (word : current.tail.length < wordLimit) (present : images.current = some current)
    (bindings : List Binding) :
    verdict (bindings.mapM (plan.reportBinding images)).value =
      plan.judgements (plan.reach current) bindings := by
  induction bindings with
  | nil => rfl
  | cons binding rest ih =>
    have first := verdict_reportBinding length word present binding
    rw [List.mapM_cons, Attempt.value_bind, judgements_cons, ← first, ← ih]
    cases (plan.reportBinding images binding).value with
    | error e => rfl
    | ok report =>
      dsimp only [Except.bind, verdict, Except.map]
      rw [Attempt.value_bind]
      cases Attempt.value (rest.mapM (plan.reportBinding images)) <;> rfl

/-- The bindings that set their fields; a `query` is passed over where a request is written. -/
def setting (bindings : List Binding) : List Binding :=
  bindings.filter fun binding => binding.action ≠ .query

theorem setting_of_forall {bindings : List Binding}
    (sets : ∀ binding ∈ bindings, binding.action ≠ .query) : setting bindings = bindings := by
  simpa [setting] using sets

/-- Applying bindings judges those of them that set (`setting`), as an edit leaves the page where it
is. -/
theorem verdict_applyBindings (length : plan.length = image.pageLength)
    (word : image.tail.length < wordLimit) (bindings : List Binding) :
    verdict (bindings.foldlM (plan.apply images) image).value =
      plan.judgements (plan.reach image) (setting bindings) := by
  induction bindings generalizing image with
  | nil => rfl
  | cons binding rest ih =>
    rw [List.foldlM_cons, Attempt.value_bind]
    by_cases sets : binding.action = .query
    · have passed : setting (binding :: rest) = setting rest := by simp [setting, sets]
      rw [apply_query sets, passed]
      exact ih length word
    · have taken : setting (binding :: rest) = binding :: setting rest := by simp [setting, sets]
      have first := verdict_apply images length word sets
      rw [taken, judgements_cons, ← first]
      cases applied : (plan.apply images image binding).value with
      | error e => rfl
      | ok changed =>
        have place := (bit_of_apply applied).1
        have length' : plan.length = changed.pageLength := length.trans place.pageLength_eq.symm
        have word' : changed.tail.length < wordLimit := by
          rwa [PageImage.length_tail, place.length_eq, place.offset_eq, ← PageImage.length_tail]
        rw [← reach_congr place]
        exact ih length' word'

end PagePlan

namespace Editor

variable {σ : Type} {editor : Editor} {device : Device σ} {key : PageKey} {state : σ}
  {request : Request} {images : PageImages} {current : PageImage} {plan : PagePlan}

/-- A response of current values is no longer than `maxAllocation`, which a command transfers. -/
theorem length_tail_le_of_fetch {wanted : List PageControl}
    (fetched : (Session.effect (editor.fetch device key wanted) state).result = .ok images)
    (present : images.current = some current) :
    current.tail.length ≤ editor.config.size.maxAllocation := by
  obtain ⟨allocation, response, image, allocated, -, accepted, taken⟩ := current_of_fetch fetched
  cases taken.symm.trans present
  obtain ⟨-, -, received, -⟩ := validate_eq_ok_iff.1 accepted
  obtain ⟨probe, -, -, allocation_eq⟩ := judgeProbe_eq_ok_iff.1 allocated
  calc current.tail.length ≤ current.response.length := by
        rw [PageImage.length_tail]
        exact Nat.sub_le _ _
    _ ≤ keptLength editor.config.size allocation response.received := by
        rw [received]
        exact List.length_take_le _ _
    _ ≤ allocation := Nat.min_le_right _ _
    _ ≤ editor.config.size.maxAllocation := by
        rw [allocation_eq]
        exact Nat.min_le_right _ _

/-- So the bytes of the `tail` have addresses. -/
theorem Planned.length_tail_lt {wanted : List PageControl}
    (h : editor.Planned device key wanted state images current plan) :
    current.tail.length < wordLimit := by
  have longest : editor.config.size.maxAllocation < wordLimit := by
    cases editor.config.size <;> decide
  exact Nat.lt_of_le_of_lt (length_tail_le_of_fetch h.fetched h.present) longest

/-- In a dry run that saves nothing, setting fields hands back what `applyRequest` makes of the
images. -/
theorem result_writeFields_of_dryRun (unsaved : editor.config.save = false)
    (dry : editor.config.dryRun = true) :
    (Session.effect (editor.writeFields device request) state).result =
      (Session.effect (editor.fetch device request.page
          ((Operation.writeFields request).wanted editor.config)) state).result.bind fun images =>
        (currentOf request.page images).bind fun current =>
          (editor.applyRequest request images current).value.map fun changed =>
            .dryRun (changed.forSelect editor.config.size).response := by
  have committed (savable : Bool) (parameters : Bytes) (fetched : σ) :
      (editor.commitEffect device request.page savable parameters fetched).result =
        .ok (.dryRun parameters) := by
    unfold commitEffect
    rw [if_neg (by rw [unsaved]; exact fun save => Bool.false_ne_true save.1), if_pos dry]
  unfold writeFields
  rw [(does_edit _ _).effect_eq, Effect.result_andThen]
  refine congrArg _ (funext fun images => ?_)
  rw [Effect.result_andThen, changeOf]
  simp only [committed]
  cases currentOf request.page images with
  | error e => rfl
  | ok current =>
    dsimp only [Except.bind]
    cases (editor.applyRequest request images current).value <;> rfl

/-- **The bindings are judged** by `judgements` where a page was fetched, whether they are to be
reported or set. -/
theorem verdict_of_planned {wanted : List PageControl}
    (planned : editor.Planned device request.page wanted state images current plan) :
    verdict (editor.reportRequest request images current).value =
        plan.judgements (plan.reach current) request.bindings ∧
      verdict (editor.applyRequest request images current).value =
        plan.judgements (plan.reach current) (PagePlan.setting request.bindings) := by
  have length := planned.length_eq
  have word := planned.length_tail_lt
  rw [value_reportRequest, value_applyRequest, planned.planned]
  exact ⟨PagePlan.verdict_reportBindings length word planned.present request.bindings,
    PagePlan.verdict_applyBindings length word request.bindings⟩

/-- A dry run that saves nothing and reads only the current values comes to the verdict of
`readFields` on the same fields. -/
theorem verdict_writeFields (editor : Editor) (device : Device σ) (request : Request) (state : σ)
    (sets : ∀ binding ∈ request.bindings, binding.action ≠ .query)
    (plain : editor.config.allVariants = false ∧ editor.config.checkChangeable = false)
    (unsaved : editor.config.save = false) (dry : editor.config.dryRun = true) :
    verdict (Session.effect (editor.writeFields device request) state).result =
      verdict (Session.effect (editor.readFields device request) state).result := by
  rw [result_writeFields_of_dryRun unsaved dry, effect_readFields]
  simp only [Operation.wanted, plain.1, plain.2, Bool.false_eq_true, if_false]
  refine verdict_bind_congr fun images fetched => verdict_bind_congr fun current present => ?_
  rw [verdict_map]
  cases planned : (editor.plan request.page (editor.entryOf request.page) current).value with
  | error e =>
    -- there is no plan by which a field could be found
    rw [value_applyRequest, value_reportRequest, planned]
    rfl
  | ok plan =>
    have known : editor.Planned device request.page [.current] state images current plan :=
      ⟨fetched, currentOf_eq_ok_iff.1 present, planned⟩
    obtain ⟨reported, applied⟩ := verdict_of_planned known
    rw [reported, applied, PagePlan.setting_of_forall sets]

/-- What comes of a report where a page was fetched is the verdict of `judgements` on its
bindings. -/
theorem verdict_readFields_of_planned (plain : editor.config.allVariants = false)
    (planned : editor.Planned device request.page [.current] state images current plan) :
    verdict (Session.effect (editor.readFields device request) state).result =
      plan.judgements (plan.reach current) request.bindings := by
  have fetched := planned.fetched
  have present : currentOf request.page images = .ok current :=
    currentOf_eq_ok_iff.2 planned.present
  rw [effect_readFields]
  simp only [Operation.wanted, plain, Bool.false_eq_true, if_false]
  rw [fetched, Except.bind, present, Except.bind]
  exact (verdict_of_planned planned).1

/-- **Fields are found alike to be read and to be set.** In a dry run that saves nothing and reads only
the current values, a request whose bindings all set comes to something exactly when reporting the
same fields does, and both fail with the same error. Where the page was fetched, that is decided by
the bindings one after the other: the first one that is not accepted is refused, with the error that
belongs to it. A usable field whose descriptor is there is accepted exactly when it ends within the
page, or within the response if that is borne. -/
theorem set_get_agree (editor : Editor) (device : Device σ) (request : Request) (state : σ)
    (sets : ∀ binding ∈ request.bindings, binding.action ≠ .query)
    (plain : editor.config.allVariants = false ∧ editor.config.checkChangeable = false)
    (unsaved : editor.config.save = false) (dry : editor.config.dryRun = true) :
    let read := (Session.effect (editor.readFields device request) state).result
    let write := (Session.effect (editor.writeFields device request) state).result
    ((∃ outcome, write = .ok outcome) ↔ ∃ reports, read = .ok reports) ∧
    (∀ e, write = .error e ↔ read = .error e) ∧
    ∀ images current plan,
      editor.Planned device request.page [.current] state images current plan →
      ((∃ reports, read = .ok reports) ↔
        ∀ binding ∈ request.bindings, plan.Accepts (plan.reach current) binding) ∧
      (∀ e, read = .error e ↔
        ∃ before binding after, request.bindings = before ++ binding :: after ∧
          (∀ earlier ∈ before, plan.Accepts (plan.reach current) earlier) ∧
          ¬ plan.Accepts (plan.reach current) binding ∧ e = plan.refusal binding) ∧
      ∀ binding start, binding.field.span.WellFormed →
        plan.offsetOf? binding.field binding.descriptorIndex = some start →
        (plan.Accepts (plan.reach current) binding ↔ start + binding.field.span.touched ≤
          if editor.config.flexible then current.tail.length else current.pageLength) := by
  intro read write
  have same : verdict write = verdict read :=
    verdict_writeFields editor device request state sets plain unsaved dry
  refine ⟨?_, fun e => ?_, fun images current plan planned => ?_⟩
  · rw [← verdict_eq_ok_iff, same, verdict_eq_ok_iff]
  · rw [← verdict_eq_error_iff, same, verdict_eq_error_iff]
  · have judged : verdict read = plan.judgements (plan.reach current) request.bindings :=
      verdict_readFields_of_planned plain.1 planned
    refine ⟨?_, fun e => ?_, fun binding start usable found => ?_⟩
    · rw [← verdict_eq_ok_iff, judged, PagePlan.judgements_eq_ok_iff]
    · rw [← verdict_eq_error_iff, judged, PagePlan.judgements_eq_error_iff]
    · rw [PagePlan.reach, planned.flexible_eq]
      constructor
      · rintro ⟨-, start', found', ends⟩
        cases found.symm.trans found'
        exact ends
      · intro ends
        exact ⟨usable, start, found, ends⟩

end Editor

/-! ## A sample -/

namespace Sample

/-- The sample editor in a dry run (`dryRun`). -/
def dryEditor : Editor := ⟨registry, { size := .six, dryRun := true }, none⟩

/-- The capabilities of the second phy are to be set, for which there is no room. -/
def cutCapabilities : Binding := ⟨capabilitiesField, .set 0x55667788, some 1, none, none⟩

/-- A request that sets the identifier of the first phy, and then `cutCapabilities`. -/
def cutRequest : Request where
  page := enhancedPhyControl.key
  bindings := [⟨identifierField, .set 3, some 0, none, none⟩, cutCapabilities]

/-- The capabilities are not accepted, as they start at byte 36 of a page of 28 bytes. So
`cutRequest` is refused for them, whether its fields are to be set or reported. -/
theorem cut_request_refused :
    let refused := Error.response (.fieldBeyondPage "PPC.1" enhancedPhyControl.key 36 28)
    ¬ cutPlan.Accepts (cutPlan.reach (phyImage cutDescriptors)) cutCapabilities ∧
      (Session.effect (dryEditor.readFields MemoryDevice.device cutRequest)
        (phyDevice cutDescriptors)).result = .error refused ∧
      (Session.effect (dryEditor.writeFields MemoryDevice.device cutRequest)
        (phyDevice cutDescriptors)).result = .error refused := by
  intro refused
  have read : (Session.effect (dryEditor.readFields MemoryDevice.device cutRequest)
      (phyDevice cutDescriptors)).result = .error refused := by
    decide +kernel
  have planned : dryEditor.Planned MemoryDevice.device cutRequest.page [.current]
      (phyDevice cutDescriptors) { current := some (phyImage cutDescriptors) }
      (phyImage cutDescriptors) cutPlan :=
    ⟨by decide +kernel, rfl, by decide +kernel⟩
  obtain ⟨-, same, judged⟩ := Editor.set_get_agree dryEditor MemoryDevice.device cutRequest
    (phyDevice cutDescriptors) (by decide) ⟨rfl, rfl⟩ rfl rfl
  obtain ⟨-, -, accepted_iff⟩ := judged _ _ _ planned
  have outside : ¬ cutPlan.Accepts (cutPlan.reach (phyImage cutDescriptors)) cutCapabilities := by
    rw [accepted_iff cutCapabilities 36 (by decide) (by decide)]
    decide
  exact ⟨outside, read, (same refused).2 read⟩

end Sample

end ModeParameters
