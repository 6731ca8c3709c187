import ModeParameters.Editor.Change
import ModeParameters.Proofs.Editor.Reading

/-! # What the operations do after the fetch

Every operation fetches a page first, and works on the images that it got without the device. An
operation that changes the page then has one more command to issue, if nothing speaks against it. -/

namespace ModeParameters.Editor

variable {σ α : Type} (editor : Editor) (device : Device σ) (key : PageKey)

/-- The error of a refused write, made of its `cause`. -/
def selectError (cause : DeviceError) : Error :=
  .command (.ofRefusal (.select editor.config.size) key false cause)

/-- What comes of a write that was issued, by the answer to it. -/
def written (parameters : Bytes) : Except DeviceError Unit → Except Error EditOutcome
  | .error cause => .error (editor.selectError key cause)
  | .ok () => .ok (.written parameters.length)

/-- The effect of writing parameters: none when the page was to be saved and is not `savable`, and
none in a dry run. -/
def commitEffect (savable : Bool) (parameters : Bytes) (state : σ) : Effect σ EditOutcome :=
  if editor.config.save ∧ ¬ savable then ⟨.error (.conflict (.notSavable key)), [], state⟩
  else if editor.config.dryRun then ⟨.ok (.dryRun parameters), [], state⟩
  else
    let request := editor.selectRequest parameters
    ⟨editor.written key parameters (device.select request state).1, [.select request],
      (device.select request state).2⟩

/-- What a change makes of images: whether the page can be saved (`isSavable`), and the parameters
to write. -/
def changeOf (change : PageImages → PageImage → Attempt Error PageImage) (images : PageImages) :
    Except Error (Bool × Bytes) :=
  (currentOf key images).bind fun current =>
    (change images current).value.map fun changed =>
      (current.isSavable, (changed.forSelect editor.config.size).response)

variable {editor device key}

/-- A change of images is made of `images.current`, the current values. -/
theorem changeOf_eq_ok_iff {change : PageImages → PageImage → Attempt Error PageImage}
    {images : PageImages} {made : Bool × Bytes} :
    editor.changeOf key change images = .ok made ↔
      ∃ current changed, images.current = some current ∧
        (change images current).value = .ok changed ∧
        made = (current.isSavable, (changed.forSelect editor.config.size).response) := by
  unfold changeOf currentOf
  cases images.current with
  | none => simp [Except.bind]
  | some current =>
    simp only [Except.bind, map_eq_ok_iff, Option.some.injEq]
    constructor
    · rintro ⟨changed, applied, rfl⟩
      exact ⟨current, changed, rfl, applied, rfl⟩
    · rintro ⟨_, changed, rfl, applied, rfl⟩
      exact ⟨changed, applied, rfl⟩

theorem does_commit (editor : Editor) (device : Device σ) (key : PageKey) (savable : Bool)
    (parameters : Bytes) :
    Session.Does (editor.commit device key savable parameters)
      (editor.commitEffect device key savable parameters) := by
  unfold commit commitEffect
  by_cases unsavable : editor.config.save ∧ ¬ savable
  · simp only [if_pos unsavable]
    exact Session.does_throw _
  · simp only [if_neg unsavable]
    cases dryRun : editor.config.dryRun with
    | true => exact (Session.does_pure _).remark_bind _ _
    | false =>
      -- the write, and then a judgement of the answer that issues nothing more
      refine (Session.does_select device (editor.selectRequest parameters)).bind
        (g := fun answer state => ⟨editor.written key parameters answer, [], state⟩)
        fun answer => ?_
      rcases answer with cause | done
      · exact Session.does_throw _
      · exact (Session.does_pure _).remark_bind _ _

/-- Whether `commitEffect` writes the parameters does not depend on the state of the device. -/
theorem issued_commit (savable : Bool) (parameters : Bytes) (state state' : σ) :
    (editor.commitEffect device key savable parameters state').issued =
      (editor.commitEffect device key savable parameters state).issued := by
  unfold commitEffect
  split
  · rfl
  · split <;> rfl

/-- The write comes to something where the page is `savable` if it is to be saved, and the device
accepts the parameters if they are sent to it. -/
theorem exists_result_commit_iff {savable : Bool} {parameters : Bytes} {state : σ} :
    (∃ outcome, (editor.commitEffect device key savable parameters state).result = .ok outcome) ↔
      (editor.config.save = true → savable = true) ∧ (editor.config.dryRun = false →
        (device.select (editor.selectRequest parameters) state).1 = .ok ()) := by
  unfold commitEffect
  by_cases unsavable : editor.config.save ∧ ¬ savable
  · rw [if_pos unsavable]
    exact iff_of_false nofun fun h => unsavable.2 (h.1 unsavable.1)
  · rw [if_neg unsavable, and_iff_right fun save => Decidable.not_not.1 fun not =>
      unsavable ⟨save, not⟩]
    cases editor.config.dryRun with
    | true => simp
    | false =>
      cases answer : (device.select (editor.selectRequest parameters) state).1 with
      | error cause => simp [written, answer]
      | ok done => simp [written, answer]

/-- Parameters are handed back as `.dryRun` in a dry run, unless the page was to be saved and cannot
be; that does not depend on the state of the device either. -/
theorem result_commit_eq_dryRun_iff {savable : Bool} {parameters parameters' : Bytes} {state : σ} :
    (editor.commitEffect device key savable parameters state).result = .ok (.dryRun parameters') ↔
      (editor.config.save = true → savable = true) ∧ editor.config.dryRun = true ∧
        parameters' = parameters := by
  unfold commitEffect
  by_cases unsavable : editor.config.save ∧ ¬ savable
  · rw [if_pos unsavable]
    exact iff_of_false nofun fun h => unsavable.2 (h.1 unsavable.1)
  · rw [if_neg unsavable, and_iff_right fun save => Decidable.not_not.1 fun not =>
      unsavable ⟨save, not⟩]
    cases editor.config.dryRun with
    | true => simp [@eq_comm _ parameters']
    | false =>
      cases answer : (device.select (editor.selectRequest parameters) state).1 with
      | error cause => simp [written, answer]
      | ok done => simp [written, answer]

/-- A write does not fail with `noDefaults`, for want of default values. -/
theorem commit_ne_noDefaults (savable : Bool) (parameters : Bytes) (state : σ) (key' : PageKey) :
    (editor.commitEffect device key savable parameters state).result ≠
      .error (.conflict (.noDefaults key')) := by
  unfold commitEffect
  split
  · nofun
  · split
    · nofun
    · dsimp only [written]
      split <;> nofun

/-- Parameters for which `commitEffect` comes to `.written` were accepted by the device. -/
theorem accepted_of_written {savable : Bool} {parameters : Bytes} {state : σ} {length : Nat}
    (h : (editor.commitEffect device key savable parameters state).result = .ok (.written length)) :
    (device.select (editor.selectRequest parameters) state).1 = .ok () ∧
      (editor.commitEffect device key savable parameters state).final =
        (device.select (editor.selectRequest parameters) state).2 := by
  unfold commitEffect at h ⊢
  split at h
  · cases h
  · split at h
    · cases h
    · next attempted dry =>
      rw [if_neg attempted, if_neg dry]
      dsimp only [written] at h
      split at h
      · cases h
      · next accepted => exact ⟨accepted, rfl⟩

/-- An edit fetches the page, changes the images by `changeOf` and writes what the change made of
them. -/
theorem does_edit (wanted : List PageControl)
    (change : PageImages → PageImage → Attempt Error PageImage) :
    Session.Does (editor.edit device key wanted change) fun state =>
      (Session.effect (editor.fetch device key wanted) state).andThen fun images fetched =>
        Effect.andThen ⟨editor.changeOf key change images, [], fetched⟩
          fun made => editor.commitEffect device key made.1 made.2 := by
  refine (does_fetch wanted).does_effect.bind fun images => ?_
  -- the session hands on the changed image, and its parameters are taken where it is written
  have chain := (Session.does_attempt (σ := σ) (do
    let current ← currentOf key images
    let changed ← change images current
    return (current.isSavable, changed))).bind fun made =>
      does_commit editor device key made.1 (made.2.forSelect editor.config.size).response
  refine chain.congr fun state => ?_
  simp only [changeOf, Attempt.value_bind, Attempt.value_liftExcept, Attempt.value_pure]
  cases currentOf key images with
  | error e => rfl
  | ok current =>
    dsimp only [Except.bind]
    cases (change images current).value <;> rfl

/-- What comes of an edit is what comes of `commitEffect`, if the fetch and the change come to
something. -/
theorem result_edit (wanted : List PageControl)
    (change : PageImages → PageImage → Attempt Error PageImage) (state : σ) :
    let fetched := Session.effect (editor.fetch device key wanted) state
    (Session.effect (editor.edit device key wanted change) state).result =
      fetched.result.bind fun images => (editor.changeOf key change images).bind fun made =>
        (editor.commitEffect device key made.1 made.2 fetched.final).result := by
  intro fetched
  rw [(does_edit wanted change).effect_eq, Effect.result_andThen]
  simp only [Effect.result_andThen]
  rfl

/-- An edit comes to something where the fetch, `changeOf` and `commitEffect` do. -/
theorem result_edit_eq_ok_iff {wanted : List PageControl}
    {change : PageImages → PageImage → Attempt Error PageImage} {state : σ} {outcome : EditOutcome} :
    let fetched := Session.effect (editor.fetch device key wanted) state
    (Session.effect (editor.edit device key wanted change) state).result = .ok outcome ↔
      ∃ images current changed, fetched.result = .ok images ∧ images.current = some current ∧
        (change images current).value = .ok changed ∧
        (editor.commitEffect device key current.isSavable
          (changed.forSelect editor.config.size).response fetched.final).result = .ok outcome := by
  intro fetched
  simp only [result_edit, bind_eq_ok_iff, changeOf_eq_ok_iff]
  constructor
  · rintro ⟨images, done, _, ⟨current, changed, present, applied, rfl⟩, committed⟩
    exact ⟨images, current, changed, done, present, applied, committed⟩
  · rintro ⟨images, current, changed, done, present, applied, committed⟩
    exact ⟨images, done, _, ⟨current, changed, present, applied, rfl⟩, committed⟩

/-- An edit whose change is made goes on to `commitEffect`. -/
theorem effect_edit_of_changed {wanted : List PageControl}
    {change : PageImages → PageImage → Attempt Error PageImage} {state : σ} {images : PageImages}
    {current changed : PageImage}
    (fetched : (Session.effect (editor.fetch device key wanted) state).result = .ok images)
    (present : images.current = some current) (applied : (change images current).value = .ok changed) :
    let fetch := Session.effect (editor.fetch device key wanted) state
    let commit := editor.commitEffect device key current.isSavable
      (changed.forSelect editor.config.size).response fetch.final
    Session.effect (editor.edit device key wanted change) state =
      ⟨commit.result, fetch.issued ++ commit.issued, commit.final⟩ := by
  have made : editor.changeOf key change images =
      .ok (current.isSavable, (changed.forSelect editor.config.size).response) :=
    changeOf_eq_ok_iff.2 ⟨current, changed, present, applied, rfl⟩
  rw [(does_edit wanted change).effect_eq, Effect.andThen_of_ok fetched, Effect.andThen_of_ok made]
  rfl

/-- An operation that only reads fetches the page and reports on the images by `inspect`, without a
command. -/
theorem does_inspect (wanted : List PageControl) (inspect : PageImages → Attempt Error α) :
    Session.Does (do
        let images ← editor.fetch device key wanted
        Session.attempt (inspect images)) fun state =>
      (Session.effect (editor.fetch device key wanted) state).andThen fun images fetched =>
        ⟨(inspect images).value, [], fetched⟩ :=
  (does_fetch wanted).does_effect.bind fun _ => Session.does_attempt _

/-- An operation that only reads issues the commands of the fetch, and comes to what `inspect` makes
of the images. -/
theorem effect_inspect (wanted : List PageControl) (inspect : PageImages → Attempt Error α) (state : σ) :
    let fetched := Session.effect (editor.fetch device key wanted) state
    Session.effect (do
        let images ← editor.fetch device key wanted
        Session.attempt (inspect images)) state =
      ⟨fetched.result.bind fun images => (inspect images).value, fetched.issued, fetched.final⟩ := by
  intro fetched
  rw [(does_inspect wanted inspect).effect_eq]
  change fetched.andThen _ = _
  cases result : fetched.result with
  | error e => rw [Effect.andThen_of_error result, Except.bind]
  | ok images => rw [Effect.andThen_of_ok result, Except.bind, List.append_nil]

/-- **An edit** either fails without a command behind those of the fetch, or goes on to write the
changed current values, made ready by `forSelect`. -/
theorem edit_cases (editor : Editor) (device : Device σ) (key : PageKey) (wanted : List PageControl)
    (change : PageImages → PageImage → Attempt Error PageImage) (state : σ) :
    let fetched := Session.effect (editor.fetch device key wanted) state
    let done := Session.effect (editor.edit device key wanted change) state
    (∃ e, done.result = .error e ∧ done.issued = fetched.issued) ∨
      ∃ images current changed, fetched.result = .ok images ∧ images.current = some current ∧
        (change images current).value = .ok changed ∧
        let commit := editor.commitEffect device key current.isSavable
          (changed.forSelect editor.config.size).response fetched.final
        done = ⟨commit.result, fetched.issued ++ commit.issued, commit.final⟩ := by
  intro fetched done
  have chain : done = _ := (does_edit wanted change).effect_eq state
  rw [Effect.andThen] at chain
  cases result : fetched.result with
  | error e =>
    rw [result] at chain
    exact .inl ⟨e, by rw [chain], by rw [chain]⟩
  | ok images =>
    rw [result] at chain
    cases made : editor.changeOf key change images with
    | error e =>
      -- the change is refused before anything is written
      simp only [Effect.andThen, made, List.append_nil] at chain
      exact .inl ⟨e, by rw [chain], by rw [chain]⟩
    | ok made' =>
      obtain ⟨current, changed, present, applied, rfl⟩ := changeOf_eq_ok_iff.1 made
      simp only [Effect.andThen, made, List.nil_append] at chain
      exact .inr ⟨images, current, changed, rfl, present, applied, chain⟩

end ModeParameters.Editor
