import ModeParameters.Proofs.Editor.Commands
import ModeParameters.Proofs.Editor.Placement

/-! # Which bits a request sets

The bindings of a request are applied one after the other, and each changes the bits of its own field
alone. A bit therefore comes from the last binding that sets it, and from the page as it was read when
there is none. What is written back differs from that only in the bits that a write reserves. -/

namespace ModeParameters

/-- A binding whose action is not `.query` sets its field to a number. -/
theorem Binding.exists_set_of_ne_query {binding : Binding} (h : binding.action ≠ .query) :
    ∃ value, binding.action = .set value := by
  cases action : binding.action with
  | query => exact absurd action h
  | set value => exact ⟨value, rfl⟩

namespace PagePlan

variable {plan : PagePlan} {images : PageImages} {image image' : PageImage}

/-- What a binding makes of a bit of a response in which the page starts at `offset`: nothing when it
reads, or when its field does not cover the bit. -/
def bitSet? (plan : PagePlan) (offset i : Nat) (binding : Binding) : Option Bool :=
  match binding.action, plan.spanOf? binding with
  | .set value, some span =>
    if (span.shifted offset).Covers i then some ((span.shifted offset).valueBit value i) else none
  | _, _ => none

/-- What bindings, applied one after the other, make of a bit: `bitSet?` of the last one of them
that sets it. -/
def lastBitSet? (plan : PagePlan) (offset i : Nat) (bindings : List Binding) : Option Bool :=
  bindings.reverse.findSome? (plan.bitSet? offset i)

theorem lastBitSet?_cons (offset i : Nat) (binding : Binding) (rest : List Binding) :
    plan.lastBitSet? offset i (binding :: rest) =
      (plan.lastBitSet? offset i rest).or (plan.bitSet? offset i binding) := by
  unfold lastBitSet?
  rw [List.reverse_cons, List.findSome?_append, List.findSome?_singleton]

/-- A binding that reads leaves the image as it is. -/
theorem apply_query {binding : Binding} (reads : binding.action = .query) :
    (plan.apply images image binding).value = .ok image := by
  unfold apply
  rw [reads]
  rfl

/-- What a binding that sets comes to is `image.write` where its field is located: the remarks on
the value and on bits that cannot be changed decide nothing. -/
theorem value_apply_set {binding : Binding} {value : Nat} (sets : binding.action = .set value) :
    (plan.apply images image binding).value =
      (plan.locate binding.field binding.label binding.descriptorIndex).value.bind fun start =>
        (image.write { binding.field.span with startByte := start } value).mapError fun _ =>
          .response (plan.beyondPage binding.label start) := by
  unfold apply
  rw [sets]
  dsimp only
  rw [Attempt.value_bind]
  congr 1
  funext start
  simp only [Attempt.value_bind, Attempt.value_liftLogged, Attempt.value_ite, Except.bind, ite_self]
  cases image.write { binding.field.span with startByte := start } value <;> rfl

/-- A binding that sets writes its number where its field is located, and `apply` succeeds if both
do. -/
theorem apply_set_eq_ok_iff {binding : Binding} {value : Nat} (sets : binding.action = .set value) :
    (plan.apply images image binding).value = .ok image' ↔
      ∃ start, (plan.locate binding.field binding.label binding.descriptorIndex).value = .ok start ∧
        image.write { binding.field.span with startByte := start } value = .ok image' := by
  simp only [value_apply_set sets, bind_eq_ok_iff, mapError_eq_ok_iff]

/-- A binding leaves the page where it is, and **makes of every bit what it says**: `bitSet?`, and
the bit that was there if that is `none`. -/
theorem bit_of_apply {binding : Binding}
    (h : (plan.apply images image binding).value = .ok image') :
    image.SamePlace image' ∧ ∀ i, image'.response.bit i =
      (plan.bitSet? image.offset i binding).getD (image.response.bit i) := by
  cases action : binding.action with
  | query =>
    rw [apply_query action] at h
    cases h
    refine ⟨.refl _, fun i => ?_⟩
    simp [bitSet?, action]
  | set value =>
    obtain ⟨start, located, done⟩ := (apply_set_eq_ok_iff action).1 h
    refine ⟨PageImage.samePlace_of_write done, fun i => ?_⟩
    rw [PageImage.bit_of_write done, bitSet?, action, spanOf?_of_locate located]
    dsimp only
    split <;> rfl

/-- Bindings leave the page where it is, and **the last one that sets a bit decides it**:
`lastBitSet?`, and the bit that was there if that is `none`. -/
theorem bit_of_foldlM {bindings : List Binding}
    (h : (bindings.foldlM (plan.apply images) image).value = .ok image') :
    image.SamePlace image' ∧ ∀ i, image'.response.bit i =
      (plan.lastBitSet? image.offset i bindings).getD (image.response.bit i) := by
  induction bindings generalizing image with
  | nil =>
    cases h
    exact ⟨.refl _, fun i => rfl⟩
  | cons binding rest ih =>
    rw [List.foldlM_cons, Attempt.value_bind_eq_ok_iff] at h
    obtain ⟨between, applied, others⟩ := h
    obtain ⟨place, bits⟩ := bit_of_apply applied
    obtain ⟨place', bits'⟩ := ih others
    refine ⟨place.trans place', fun i => ?_⟩
    -- the rest has the last word, and `binding` the one before
    rw [bits', bits, place.offset_eq, lastBitSet?_cons]
    cases plan.lastBitSet? image.offset i rest with
    | none => rw [Option.none_or, Option.getD_none]
    | some bit => rfl

/-- The parameters made of an edited image by `forSelect` are as long as the response, and have its
bits as far as no binding sets them and none of them is reserved. -/
theorem bit_parameters {bindings : List Binding}
    (h : (bindings.foldlM (plan.apply images) image).value = .ok image') (size : CommandSize) :
    (image'.forSelect size).response.length = image.response.length ∧
      ∀ i, (image'.forSelect size).response.bit i =
        if i < 8 * size.lengthFieldWidth ∨ i = 8 * image.offset then false
        else (plan.lastBitSet? image.offset i bindings).getD (image.response.bit i) := by
  obtain ⟨place, bits⟩ := bit_of_foldlM h
  refine ⟨(image'.samePlace_forSelect size).length_eq.trans place.length_eq, fun i => ?_⟩
  rw [PageImage.bit_forSelect, place.offset_eq, bits]

/-- Bindings that set write within the bytes behind the start of the page. -/
theorem located_of_foldlM {bindings : List Binding}
    (h : (bindings.foldlM (plan.apply images) image).value = .ok image') :
    ∀ binding ∈ bindings, ∀ value, binding.action = .set value →
      ∃ start, (plan.locate binding.field binding.label binding.descriptorIndex).value = .ok start ∧
        BitSpan.Within { binding.field.span with startByte := start } image.tail.length := by
  induction bindings generalizing image with
  | nil =>
    intro binding mem
    cases mem
  | cons first rest ih =>
    rw [List.foldlM_cons, Attempt.value_bind_eq_ok_iff] at h
    obtain ⟨between, applied, others⟩ := h
    intro binding mem value sets
    rcases List.mem_cons.1 mem with rfl | later
    · obtain ⟨start, located, done⟩ := (apply_set_eq_ok_iff sets).1 applied
      obtain ⟨tail, wrote, -⟩ := PageImage.write_eq_ok_iff.1 done
      exact ⟨start, located, BitSpan.within_of_write wrote⟩
    · -- the edit before this one kept the number of bytes
      obtain ⟨start, located, within⟩ := ih others binding later value sets
      have place := (bit_of_apply applied).1
      rw [PageImage.length_tail, place.length_eq, place.offset_eq, ← PageImage.length_tail] at within
      exact ⟨start, located, within⟩

/-! ## Bits of the page -/

/-- The field of a binding covers bit `i` of the page. -/
def Covers (plan : PagePlan) (binding : Binding) (i : Nat) : Prop :=
  ∃ span, plan.spanOf? binding = some span ∧ span.Covers i

/-- The fields of two bindings share no bit: none that both `Covers`. -/
def Apart (plan : PagePlan) (binding binding' : Binding) : Prop :=
  ∀ i, ¬ (plan.Covers binding i ∧ plan.Covers binding' i)

/-- What bindings make of a bit of the page does not depend on the `offset` at which the page
starts. -/
theorem lastBitSet?_add (offset i : Nat) (bindings : List Binding) :
    plan.lastBitSet? offset (8 * offset + i) bindings = plan.lastBitSet? 0 i bindings := by
  have single : plan.bitSet? offset (8 * offset + i) = plan.bitSet? 0 i := by
    funext binding
    unfold bitSet?
    simp only [BitSpan.covers_shifted, BitSpan.valueBit_shifted,
      show 8 * offset + i - 8 * offset = i by omega, show i - 8 * 0 = i by omega,
      show 8 * offset ≤ 8 * offset + i by omega, show 8 * 0 ≤ i by omega, true_and]
  rw [lastBitSet?, single, lastBitSet?]

/-- No binding makes anything of a bit before the page, one below `8 * offset`. -/
theorem lastBitSet?_before {offset i : Nat} (h : i < 8 * offset) (bindings : List Binding) :
    plan.lastBitSet? offset i bindings = none := by
  rw [lastBitSet?, List.findSome?_eq_none_iff]
  intro binding _
  unfold bitSet?
  split
  · rw [if_neg]
    rw [BitSpan.covers_shifted]
    omega
  · rfl

/-- A binding makes something of a bit only where it sets, its action being other than `.query`, and
covers the bit. -/
theorem sets_of_bitSet? {offset i : Nat} {bit : Bool} {binding : Binding}
    (h : plan.bitSet? offset i binding = some bit) :
    binding.action ≠ .query ∧ 8 * offset ≤ i ∧ plan.Covers binding (i - 8 * offset) := by
  unfold bitSet? at h
  split at h
  · next value span sets found =>
    split at h
    · next covered =>
      obtain ⟨behind, place⟩ := BitSpan.covers_shifted.1 covered
      exact ⟨by simp [sets], behind, span, found, place⟩
    · cases h
  · cases h

/-- A binding whose `bitSet?` is not `none` covers the bit. -/
theorem covers_of_bitSet? {i : Nat} {bit : Bool} {binding : Binding}
    (h : plan.bitSet? 0 i binding = some bit) : plan.Covers binding i := by
  have place := (sets_of_bitSet? h).2.2
  rwa [show i - 8 * 0 = i by omega] at place

/-- What `lastBitSet?` gives for a bit is made by a binding that sets and covers it. -/
theorem exists_sets_of_lastBitSet? {offset i : Nat} {bit : Bool} {bindings : List Binding}
    (h : plan.lastBitSet? offset i bindings = some bit) :
    ∃ binding ∈ bindings, binding.action ≠ .query ∧ 8 * offset ≤ i ∧
      plan.Covers binding (i - 8 * offset) := by
  obtain ⟨binding, mem, set⟩ := List.exists_of_findSome?_eq_some h
  exact ⟨binding, List.mem_reverse.1 mem, sets_of_bitSet? set⟩

/-- **A change differs from what was read** only in the bits that a write reserves and in those that a
binding sets. -/
theorem exists_covers_of_bit_ne {bindings : List Binding} {size : CommandSize} {i : Nat}
    (h : (bindings.foldlM (plan.apply images) image).value = .ok image')
    (differs : (image'.forSelect size).response.bit i ≠ image.response.bit i) :
    i < 8 * size.lengthFieldWidth ∨ i = 8 * image.offset ∨
      ∃ binding ∈ bindings, binding.action ≠ .query ∧ 8 * image.offset ≤ i ∧
        plan.Covers binding (i - 8 * image.offset) := by
  rw [(bit_parameters h size).2] at differs
  split at differs
  · next reserved => exact reserved.imp id .inl
  · cases set : plan.lastBitSet? image.offset i bindings with
    | none =>
      -- a bit that no binding sets is as it was
      rw [set] at differs
      exact absurd rfl differs
    | some bit => exact .inr (.inr (exists_sets_of_lastBitSet? set))

/-- In strict mode a binding that was applied sets bits of the page alone, those below
`8 * plan.length`. -/
theorem lt_of_covers {bindings : List Binding} {binding : Binding} {i : Nat}
    (h : (bindings.foldlM (plan.apply images) image).value = .ok image')
    (strict : plan.flexible = false) (mem : binding ∈ bindings) (sets : binding.action ≠ .query)
    (covered : plan.Covers binding i) : i < 8 * plan.length := by
  obtain ⟨value, set⟩ := binding.exists_set_of_ne_query sets
  obtain ⟨start, located, within⟩ := located_of_foldlM h binding mem value set
  obtain ⟨span, found, covers⟩ := covered
  cases (spanOf?_of_locate located).symm.trans found
  have ends := end_le_of_locate strict (BitSpan.wellFormed_startByte_iff.1 within.wellFormed) located
  calc i < 8 * (start + binding.field.span.touched) := covers.bounds.2
    _ ≤ 8 * plan.length := Nat.mul_le_mul_left 8 ends

/-- A binding that sets makes of a bit that it covers the one in its number, `valueBit`. -/
theorem bitSet?_of_covers {i value : Nat} {binding : Binding} {span : BitSpan}
    (sets : binding.action = .set value) (found : plan.spanOf? binding = some span)
    (covered : span.Covers i) : plan.bitSet? 0 i binding = some (span.valueBit value i) := by
  have place : i - 8 * 0 = i := by omega
  unfold bitSet?
  rw [sets, found]
  dsimp only
  rw [if_pos (BitSpan.covers_shifted.2 ⟨by omega, place.symm ▸ covered⟩), BitSpan.valueBit_shifted,
    place]

theorem lastBitSet?_eq_none {i : Nat} {bindings : List Binding}
    (h : ∀ binding ∈ bindings, ¬ plan.Covers binding i) : plan.lastBitSet? 0 i bindings = none := by
  rw [lastBitSet?, List.findSome?_eq_none_iff]
  intro binding mem
  rw [Option.eq_none_iff_forall_ne_some]
  intro bit set
  exact h binding (List.mem_reverse.1 mem) (covers_of_bitSet? set)

/-- Where the bindings are pairwise `Apart`, each has the last word on the bits that it covers. -/
theorem lastBitSet?_of_apart {i : Nat} {bindings : List Binding} {binding : Binding} {bit : Bool}
    (apart : bindings.Pairwise plan.Apart) (mem : binding ∈ bindings)
    (set : plan.bitSet? 0 i binding = some bit) : plan.lastBitSet? 0 i bindings = some bit := by
  induction bindings with
  | nil => cases mem
  | cons first rest ih =>
    rw [List.pairwise_cons] at apart
    rw [lastBitSet?_cons]
    rcases List.mem_cons.1 mem with rfl | later
    · -- no later binding covers the bit
      have untouched : plan.lastBitSet? 0 i rest = none := by
        apply lastBitSet?_eq_none
        intro other member covered
        exact apart.1 other member i ⟨covers_of_bitSet? set, covered⟩
      rw [untouched, Option.none_or, set]
    · -- what a later binding sets is not looked for further
      rw [ih apart.2 later, Option.some_or]

end PagePlan

namespace Editor

variable {σ : Type} {editor : Editor} {device : Device σ} {key : PageKey} {state : σ}

/-- The entry that an editor goes by for a page. -/
def entryOf (editor : Editor) (key : PageKey) : Option PageEntry := (editor.pageEntry key).value.1

/-- What a request makes of the current values: `Editor.plan` of their page, then `PagePlan.apply`
of its bindings one after the other. -/
theorem value_applyRequest (editor : Editor) (request : Request) (images : PageImages)
    (current : PageImage) :
    (editor.applyRequest request images current).value =
      ((editor.plan request.page (editor.entryOf request.page) current).value.mapError
        Error.response).bind fun plan =>
          (request.bindings.foldlM (plan.apply images) current).value := by
  unfold applyRequest entryOf
  rw [Attempt.value_bind, Attempt.value_liftLogged, Except.bind]
  dsimp only
  rw [Attempt.value_bind, Attempt.value_adapt]

/-- A request is applied to the current values by the plan of their page, and `applyRequest`
succeeds if both the plan and all bindings do. -/
theorem applyRequest_eq_ok_iff {request : Request} {images : PageImages}
    {current changed : PageImage} :
    (editor.applyRequest request images current).value = .ok changed ↔
      ∃ plan, (editor.plan request.page (editor.entryOf request.page) current).value = .ok plan ∧
        (request.bindings.foldlM (plan.apply images) current).value = .ok changed := by
  simp only [value_applyRequest, bind_eq_ok_iff, mapError_eq_ok_iff]

/-! ## Parameter lists -/

/-- An effect comes to a parameter list: it hands it back in a dry run, or issues a `Command.select`
of it. -/
def Produces (e : Effect σ EditOutcome) (parameters : Bytes) : Prop :=
  e.result = .ok (.dryRun parameters) ∨
    ∃ request, Command.select request ∈ e.issued ∧ request.parameters = parameters

/-- Writing parameters `Produces` them and no others, unless the page was to be saved and is not
`savable`. -/
theorem produces_commit_iff {savable : Bool} {parameters parameters' : Bytes} :
    Produces (editor.commitEffect device key savable parameters state) parameters' ↔
      (editor.config.save = true → savable = true) ∧ parameters' = parameters := by
  unfold commitEffect
  by_cases unsavable : editor.config.save ∧ ¬ savable
  · rw [if_pos unsavable]
    refine iff_of_false ?_ fun h => unsavable.2 (h.1 unsavable.1)
    rintro (result | ⟨request, issued, -⟩)
    · cases result
    · cases issued
  · rw [if_neg unsavable, and_iff_right fun save => Decidable.not_not.1 fun not =>
      unsavable ⟨save, not⟩]
    split
    · -- a dry run hands the parameters back
      constructor
      · rintro (result | ⟨request, issued, -⟩)
        · cases result
          rfl
        · cases issued
      · rintro rfl
        exact .inl rfl
    · constructor
      · rintro (result | ⟨request, issued, rfl⟩)
        · dsimp only [written] at result
          split at result <;> cases result
        · cases List.mem_singleton.1 issued
          rfl
      · rintro rfl
        exact .inr ⟨_, List.mem_singleton_self _, rfl⟩

/-- A fetch issues no `Command.select`. -/
theorem select_notMem_fetch (editor : Editor) (device : Device σ) (key : PageKey)
    (wanted : List PageControl) (state : σ) (request : SelectRequest) :
    Command.select request ∉ (Session.effect (editor.fetch device key wanted) state).issued := by
  obtain ⟨reads, issued, -⟩ := exists_reads_fetch editor device key wanted state
  rw [issued]
  simp

/-- An edit `Produces` the changed current values, made ready by `forSelect`, unless the page was to
be saved and cannot be. -/
theorem produces_edit_iff {wanted : List PageControl}
    {change : PageImages → PageImage → Attempt Error PageImage} {parameters : Bytes} :
    Produces (Session.effect (editor.edit device key wanted change) state) parameters ↔
      ∃ images current changed,
        (Session.effect (editor.fetch device key wanted) state).result = .ok images ∧
          images.current = some current ∧ (change images current).value = .ok changed ∧
          (editor.config.save = true → current.isSavable = true) ∧
          parameters = (changed.forSelect editor.config.size).response := by
  have reads := select_notMem_fetch editor device key wanted state
  constructor
  · intro h
    rcases edit_cases editor device key wanted change state with
      ⟨e, failed, issued⟩ | ⟨images, current, changed, fetched, present, applied, done⟩
    · -- an edit that fails before its write comes to nothing, since a fetch writes nothing
      rcases h with result | ⟨request, wrote, -⟩
      · rw [failed] at result
        cases result
      · rw [issued] at wrote
        exact absurd wrote (reads request)
    · rw [done] at h
      have commits : Produces (editor.commitEffect device key current.isSavable
          (changed.forSelect editor.config.size).response
          (Session.effect (editor.fetch device key wanted) state).final) parameters := by
        rcases h with result | ⟨request, wrote, rfl⟩
        · exact .inl result
        · rw [List.mem_append] at wrote
          exact .inr ⟨request, wrote.resolve_left (reads request), rfl⟩
      obtain ⟨savable, rfl⟩ := produces_commit_iff.1 commits
      exact ⟨images, current, changed, fetched, present, applied, savable, rfl⟩
  · rintro ⟨images, current, changed, fetched, present, applied, savable, rfl⟩
    rw [effect_edit_of_changed fetched present applied]
    have commits : Produces (editor.commitEffect device key current.isSavable
        (changed.forSelect editor.config.size).response
        (Session.effect (editor.fetch device key wanted) state).final)
        (changed.forSelect editor.config.size).response :=
      produces_commit_iff.2 ⟨savable, rfl⟩
    exact commits.imp id fun ⟨request, wrote, same⟩ =>
      ⟨request, List.mem_append_right _ wrote, same⟩

/-- The parameters that an edit `Produces` are the changed current values, made ready by
`forSelect`. -/
theorem changed_of_produces {wanted : List PageControl}
    {change : PageImages → PageImage → Attempt Error PageImage} {parameters : Bytes}
    (h : Produces (Session.effect (editor.edit device key wanted change) state) parameters) :
    ∃ images current changed,
      (Session.effect (editor.fetch device key wanted) state).result = .ok images ∧
        images.current = some current ∧ (change images current).value = .ok changed ∧
        parameters = (changed.forSelect editor.config.size).response := by
  obtain ⟨images, current, changed, fetched, present, applied, -, made⟩ := produces_edit_iff.1 h
  exact ⟨images, current, changed, fetched, present, applied, made⟩

/-- What an editor knows of a page once it has fetched it: the images, the current values among them, and
the plan of the page. -/
structure Planned (editor : Editor) (device : Device σ) (key : PageKey) (wanted : List PageControl)
    (state : σ) (images : PageImages) (current : PageImage) (plan : PagePlan) : Prop where
  /-- The images are those that were fetched. -/
  fetched : (Session.effect (editor.fetch device key wanted) state).result = .ok images
  /-- The current values, `images.current`, are among them. -/
  present : images.current = some current
  /-- The plan is that of the current values, by the entry that `entryOf` gives. -/
  planned : (editor.plan key (editor.entryOf key) current).value = .ok plan

/-- What an editor knows of a page, as `Planned` says, is settled by the device and its state. -/
theorem Planned.unique {wanted : List PageControl} {images images' : PageImages}
    {current current' : PageImage} {plan plan' : PagePlan}
    (h : editor.Planned device key wanted state images current plan)
    (h' : editor.Planned device key wanted state images' current' plan') :
    images = images' ∧ current = current' ∧ plan = plan' := by
  cases h.fetched.symm.trans h'.fetched
  cases h.present.symm.trans h'.present
  cases h.planned.symm.trans h'.planned
  exact ⟨rfl, rfl, rfl⟩

section

variable {wanted : List PageControl} {images : PageImages} {current : PageImage} {plan : PagePlan}

/-- The plan is of the page that was asked for. -/
theorem Planned.key_eq (h : editor.Planned device key wanted state images current plan) :
    plan.key = key := by
  obtain ⟨layout, -, rfl⟩ := plan_eq_ok_iff.1 h.planned
  rfl

/-- The plan is as long as the current values. -/
theorem Planned.length_eq (h : editor.Planned device key wanted state images current plan) :
    plan.length = current.pageLength := by
  obtain ⟨layout, -, rfl⟩ := plan_eq_ok_iff.1 h.planned
  rfl

/-- The plan bears faults where `editor.config.flexible` is set. -/
theorem Planned.flexible_eq (h : editor.Planned device key wanted state images current plan) :
    plan.flexible = editor.config.flexible := by
  obtain ⟨layout, -, rfl⟩ := plan_eq_ok_iff.1 h.planned
  rfl

end

/-- The parameters that `writeFields` comes to are made of the current values, by the plan of their
page. -/
theorem planned_of_produces {request : Request} {parameters : Bytes}
    (h : Produces (Session.effect (editor.writeFields device request) state) parameters) :
    ∃ images current plan changed,
      editor.Planned device request.page ((Operation.writeFields request).wanted editor.config) state
        images current plan ∧
      (request.bindings.foldlM (plan.apply images) current).value = .ok changed ∧
      parameters = (changed.forSelect editor.config.size).response := by
  obtain ⟨images, current, changed, fetched, present, applied, rfl⟩ := changed_of_produces h
  obtain ⟨plan, planned, folded⟩ := applyRequest_eq_ok_iff.1 applied
  exact ⟨images, current, plan, changed, ⟨fetched, present, planned⟩, folded, rfl⟩

/-- **A change sets exactly the requested bits.** Whatever the device, the tables and the bindings,
the parameters that a change `Produces` are as long as the accepted response of current values.
Their bits are those that the last binding to set them gives (`lastBitSet?`), and those of the
response where there is none; only the length of the mode data and the savable bit of the page are
clear. -/
theorem written_bits (editor : Editor) (device : Device σ) (request : Request) (state : σ)
    (parameters : Bytes)
    (produced : Produces (Session.effect (editor.writeFields device request) state) parameters) :
    ∃ allocation response images current plan,
      editor.probedAllocation device request.page state = .ok allocation ∧
      (device.sense (editor.senseRequest request.page .current allocation)
        (editor.probedState device request.page state)).1 = .ok response ∧
      (editor.validate request.page .current response allocation).value = .ok current ∧
      (Session.effect (editor.fetch device request.page
        ((Operation.writeFields request).wanted editor.config)) state).result = .ok images ∧
      images.current = some current ∧
      (editor.plan request.page (editor.entryOf request.page) current).value = .ok plan ∧
      parameters.length = current.response.length ∧
      ∀ i, parameters.bit i =
        if i < 8 * editor.config.size.lengthFieldWidth ∨ i = 8 * current.offset then false
        else (plan.lastBitSet? current.offset i request.bindings).getD (current.response.bit i) := by
  obtain ⟨images, current, changed, fetched, present, applied, rfl⟩ := changed_of_produces produced
  obtain ⟨plan, planned, applied⟩ := applyRequest_eq_ok_iff.1 applied
  obtain ⟨length, bits⟩ := PagePlan.bit_parameters applied editor.config.size
  obtain ⟨allocation, response, image, allocated, answer, accepted, filled⟩ :=
    current_of_fetch fetched
  obtain rfl : image = current := Option.some.inj (filled.symm.trans present)
  exact ⟨allocation, response, images, image, plan, allocated, answer, accepted, fetched, present,
    planned, length, bits⟩

end Editor

namespace Sample

/-- Bindings of the caching page that overlap: the low byte of its flags, then one bit of it. -/
def cachingBindings : List Binding :=
  [⟨.ofSpan caching.key ⟨2, 7, 8⟩, .set 0xF0, none, none, none⟩,
    ⟨.ofSpan caching.key ⟨2, 2, 1⟩, .set 1, none, none, none⟩]

/-- Both bindings are written to the sample device, the later one over the earlier one. -/
theorem caching_written_bits :
    let written : Bytes := [0x00, 0x00, 0x00, 0x00, 0x08, 0x02, 0xF4, 0x00]
    Editor.Produces (Session.effect (sixByteEditor.writeFields MemoryDevice.device
        ⟨caching.key, cachingBindings⟩) cachingDevice) written ∧
      ∃ current : PageImage, written.length = current.response.length := by
  intro written
  have produced : Editor.Produces (Session.effect (sixByteEditor.writeFields MemoryDevice.device
      ⟨caching.key, cachingBindings⟩) cachingDevice) written :=
    .inr ⟨⟨.six, false, written⟩, by decide, rfl⟩
  obtain ⟨-, -, -, current, -, -, -, -, -, -, -, length, -⟩ :=
    Editor.written_bits sixByteEditor MemoryDevice.device ⟨caching.key, cachingBindings⟩
      cachingDevice written produced
  exact ⟨produced, current, length⟩

end Sample

end ModeParameters
