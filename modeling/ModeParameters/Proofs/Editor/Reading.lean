import ModeParameters.Device.Memory
import ModeParameters.Proofs.Editor.Judgement
import ModeParameters.Proofs.Session.Effects
import ModeParameters.Registry.Sample

/-! # What a fetch makes of the answers

A fetch is a fixed plan of reads that stops at the first answer it cannot use. Here the plan, the
answers of the device to it and the judgement on each answer are separated, so that the result of a
fetch, the commands it issues and the state it leaves are each read off the list of answers. -/

namespace ModeParameters

/-- An error of the answers to reads: a refused command, or a bad response as a whole
(`ResponseError.OfWhole`). -/
def Error.OfAnswer : Error → Prop
  | .command _ => True
  | .response e => e.OfWhole
  | _ => False

/-- An answer to a MODE SENSE: a response or a refusal. -/
abbrev SenseAnswer := Except DeviceError SenseResponse

namespace Device

variable {σ : Type}

/-- The answers of a device to reads that are issued one after the other. -/
def answers (device : Device σ) : List SenseRequest → σ → List SenseAnswer
  | [], _ => []
  | request :: rest, state =>
    (device.sense request state).1 :: device.answers rest (device.sense request state).2

/-- The state of a device after reads, each issued in the state that the one before it left, like
`answers`. -/
def afterReads (device : Device σ) : List SenseRequest → σ → σ
  | [], state => state
  | request :: rest, state => device.afterReads rest (device.sense request state).2

@[simp] theorem length_answers (device : Device σ) (requests : List SenseRequest) (state : σ) :
    (device.answers requests state).length = requests.length := by
  induction requests generalizing state with
  | nil => rfl
  | cons request rest ih => simp [answers, ih]

end Device

namespace PageImages

/-- The images with one more, by `insert`, if there is one. -/
def keep (images : PageImages) : Option PageImage → PageImages
  | none => images
  | some image => images.insert image

@[simp] theorem keep_none (images : PageImages) : images.keep none = images := rfl

@[simp] theorem keep_some (images : PageImages) (image : PageImage) :
    images.keep (some image) = images.insert image := rfl

end PageImages

namespace Editor

variable {σ : Type} (editor : Editor) (device : Device σ) (key : PageKey) (allocation : Nat)

/-- What the answer to the probe comes to: how much to allocate, `allocationFor` what the header
declares. -/
def judgeProbe : SenseAnswer → Except Error Nat
  | .error cause => .error (.command (editor.senseError key cause))
  | .ok response =>
    match ModeHeader.read editor.config.size response.received with
    | .error error => .error (.response error)
    | .ok header => .ok (allocationFor editor.config.size header.totalLength)

/-- What the answer to the read of a variant comes to: its image, or `none` where a refusal is
borne. -/
def judge (control : PageControl) : SenseAnswer → Except Error (Option PageImage)
  | .ok response =>
    ((editor.validate key control response allocation).value.mapError Error.response).map some
  | .error cause =>
    if control = .current then .error (.command (editor.senseError key cause)) else .ok none

/-- What the answers to reads of variants come to together: what `judge` makes of each, kept with
the rest. -/
def collect : List (PageControl × SenseAnswer) → PageImages → Except Error PageImages
  | [], images => .ok images
  | (control, answer) :: rest, images =>
    (editor.judge key allocation control answer).bind fun image => collect rest (images.keep image)

/-- How many reads of variants are made: none is made after an answer that `judge` refuses. -/
def readCount : List (PageControl × SenseAnswer) → Nat
  | [] => 0
  | (control, answer) :: rest =>
    match editor.judge key allocation control answer with
    | .ok _ => readCount rest + 1
    | .error _ => 1

/-- The read that probes a page: the current values, with room for `headerLength` bytes. -/
def probeRequest : SenseRequest :=
  editor.senseRequest key .current editor.config.size.headerLength

/-- How much to allocate for a page, by what `judgeProbe` makes of the answer in a state. -/
def probedAllocation (state : σ) : Except Error Nat :=
  editor.judgeProbe key (device.sense (editor.probeRequest key) state).1

/-- The state of a device after the probe of a page. -/
def probedState (state : σ) : σ := (device.sense (editor.probeRequest key) state).2

/-- The reads of some variants of a page. -/
def variantRequests (controls : List PageControl) : List SenseRequest :=
  controls.map fun control => editor.senseRequest key control allocation

/-- Variants of a page, each with the answer to the read of it. -/
def variantAnswers (controls : List PageControl) (state : σ) : List (PageControl × SenseAnswer) :=
  controls.zip (device.answers (editor.variantRequests key allocation controls) state)

variable {editor device key allocation}

/-! ## The probe -/

/-- The probe issues `probeRequest` alone, and the answer to it is judged. -/
theorem does_probe :
    Session.Does (editor.probe device key) fun state =>
      ⟨editor.probedAllocation device key state, [.sense (editor.probeRequest key)],
        editor.probedState device key state⟩ := by
  refine (Session.does_sense device (editor.probeRequest key)).bind
    (g := fun answer state => ⟨editor.judgeProbe key answer, [], state⟩) fun answer => ?_
  rcases answer with cause | response
  · exact Session.does_throw _
  · cases read : ModeHeader.read editor.config.size response.received with
    | error error =>
      simp only [judgeProbe, read]
      exact Session.does_throw _
    | ok header =>
      simp only [judgeProbe, read]
      exact (Session.does_pure _).remark_bind _ _

/-! ## The variants -/

/-- What follows the answer to the read of a variant, by what `judge` makes of the answer. -/
theorem does_useAnswer (editor : Editor) (key : PageKey) (allocation : Nat) (control : PageControl)
    (answer : SenseAnswer) (images : PageImages)
    {next : PageImages → Session σ PageImages} {e : PageImages → σ → Effect σ PageImages}
    (h : ∀ images, Session.Does (next images) (e images)) :
    Session.Does
      (match answer with
        | .ok response => do
          let image ← Session.attempt
            (ExceptT.adapt Error.response (editor.validate key control response allocation))
          next (images.insert image)
        | .error cause =>
          if control = .current then throw (Error.command (editor.senseError key cause))
          else do
            Session.remark .debug
              s!"page {key}: {control} values unavailable: {(editor.senseError key cause).message}"
            next images)
      fun state => Effect.andThen ⟨editor.judge key allocation control answer, [], state⟩
        fun image => e (images.keep image) := by
  rcases answer with cause | response
  · by_cases current : control = .current
    · simp only [judge, if_pos current]
      exact Session.does_throw _
    · -- a refusal of another variant is remarked upon and borne
      simp only [judge, if_neg current]
      exact (h images).remark_bind _ _
  · have chain := (Session.does_attempt (σ := σ)
      (ExceptT.adapt Error.response (editor.validate key control response allocation))).bind
        fun image => h (images.insert image)
    simp only [judge, Attempt.value_adapt] at chain ⊢
    cases value : (editor.validate key control response allocation).value with
    | error e =>
      simp only [value] at chain ⊢
      exact chain
    | ok image =>
      simp only [value] at chain ⊢
      exact chain

/-- The answer to the read of a variant is judged, and what it gives is kept with the rest, as
`collect` does. -/
theorem does_readVariants (controls : List PageControl) (images : PageImages) :
    Session.Does (editor.readVariants device key allocation controls images) fun state =>
      let answers := editor.variantAnswers device key allocation controls state
      let made := (editor.variantRequests key allocation controls).take
        (editor.readCount key allocation answers)
      ⟨editor.collect key allocation answers images, made.map Command.sense,
        device.afterReads made state⟩ := by
  induction controls generalizing images with
  | nil => exact Session.does_pure images
  | cons control rest ih =>
    have chain := (Session.does_sense device (editor.senseRequest key control allocation)).bind
      fun answer => does_useAnswer editor key allocation control answer images ih
    -- the effect of the chain reads the answers off the device one by one
    refine chain.congr fun state => ?_
    simp only [Effect.andThen, variantAnswers, variantRequests, List.map_cons, Device.answers,
      List.zip_cons_cons, collect, readCount]
    cases editor.judge key allocation control
        (device.sense (editor.senseRequest key control allocation) state).1 <;> rfl

/-! ## The fetch -/

/-- A fetch probes the page, and reads the wanted variants if `judgeProbe` says how much to
allocate. -/
theorem does_fetch (wanted : List PageControl) :
    Session.Does (editor.fetch device key wanted) fun state =>
      Effect.andThen ⟨editor.probedAllocation device key state, [.sense (editor.probeRequest key)],
          editor.probedState device key state⟩
        fun allocation probed =>
          let answers :=
            editor.variantAnswers device key allocation (variantsToRead wanted) probed
          let made := (editor.variantRequests key allocation (variantsToRead wanted)).take
            (editor.readCount key allocation answers)
          ⟨editor.collect key allocation answers {}, made.map Command.sense,
            device.afterReads made probed⟩ :=
  does_probe.bind fun _ => does_readVariants _ _

/-- The probe says how much to allocate exactly when it is answered with a header: as much as the
header declares, but `headerLength` at least and no more than the command transfers. -/
theorem judgeProbe_eq_ok_iff {answer : SenseAnswer} {allocation : Nat} :
    editor.judgeProbe key answer = .ok allocation ↔
      ∃ response, answer = .ok response ∧
        editor.config.size.headerLength ≤ response.received.length ∧
        allocation = min (max editor.config.size.headerLength
          (ModeHeader.totalLengthAt editor.config.size response.received))
          editor.config.size.maxAllocation := by
  rcases answer with cause | response
  · simp [judgeProbe]
  · cases read : ModeHeader.read editor.config.size response.received with
    | error e =>
      -- a header is refused only where the answer is shorter than one
      simp only [judgeProbe, read]
      constructor
      · intro h
        cases h
      · rintro ⟨_, answer, enough, -⟩
        cases answer
        obtain ⟨header, found⟩ := ModeHeader.exists_read enough
        rw [read] at found
        cases found
    | ok header =>
      simp only [judgeProbe, read, allocationFor, ModeHeader.totalLength_of_read read]
      constructor
      · intro h
        cases h
        exact ⟨response, rfl, ModeHeader.headerLength_le_of_read read, rfl⟩
      · rintro ⟨_, answer, -, rfl⟩
        cases answer
        rfl

/-! ## The variants that are read -/

theorem nodup_variantsToRead (wanted : List PageControl) : (variantsToRead wanted).Nodup :=
  List.Pairwise.filter _ (by decide)

theorem mem_variantsToRead {control : PageControl} {wanted : List PageControl} :
    control ∈ variantsToRead wanted ↔ control = .current ∨ control ∈ wanted := by
  simp [variantsToRead]

theorem map_fst_variantAnswers (controls : List PageControl) (state : σ) :
    (editor.variantAnswers device key allocation controls state).map Prod.fst = controls := by
  apply List.map_fst_zip
  simp [variantRequests]

/-! ## What the answers come to together -/

/-- An answer to the read of a variant that a fetch can use: a `WellFormedResponse`, or a refusal of
a variant other than the current values. -/
def Usable (editor : Editor) (key : PageKey) (allocation : Nat) : PageControl × SenseAnswer → Prop
  | (_, .ok response) => editor.WellFormedResponse key allocation response.received
  | (control, .error _) => control ≠ .current

theorem exists_judge_iff {control : PageControl} {answer : SenseAnswer} :
    (∃ image, editor.judge key allocation control answer = .ok image) ↔
      editor.Usable key allocation (control, answer) := by
  rcases answer with cause | response
  · by_cases current : control = .current
    · simp [judge, Usable, current]
    · simp [judge, Usable, current]
  · simp only [judge, Usable, map_eq_ok_iff, mapError_eq_ok_iff]
    constructor
    · rintro ⟨-, image, accepted, -⟩
      exact (validate_eq_ok_iff.1 accepted).1
    · intro wellFormed
      obtain ⟨image, accepted⟩ := wellFormed.exists_image control
      exact ⟨some image, image, accepted, rfl⟩

/-- The image of a variant goes to the place of that variant: `image.control` is the one that was
asked for. -/
theorem control_of_judge {control : PageControl} {answer : SenseAnswer} {image : PageImage}
    (h : editor.judge key allocation control answer = .ok (some image)) :
    image.control = control := by
  rcases answer with cause | response
  · by_cases current : control = .current
    · simp [judge, current] at h
    · simp [judge, current] at h
  · simp only [judge, map_eq_ok_iff, mapError_eq_ok_iff, Option.some.injEq] at h
    obtain ⟨_, accepted, rfl⟩ := h
    exact (validate_eq_ok_iff.1 accepted).2.1

/-- The current values have to be answered, with a response that `validate` accepts. -/
theorem judge_current_eq_ok_iff {answer : SenseAnswer} {image : Option PageImage} :
    editor.judge key allocation .current answer = .ok image ↔
      ∃ response current, answer = .ok response ∧
        (editor.validate key .current response allocation).value = .ok current ∧
          image = some current := by
  rcases answer with cause | response
  · simp [judge]
  · simp only [judge, map_eq_ok_iff, mapError_eq_ok_iff, Except.ok.injEq]
    constructor
    · rintro ⟨current, accepted, rfl⟩
      exact ⟨response, current, rfl, accepted, rfl⟩
    · rintro ⟨_, current, rfl, accepted, rfl⟩
      exact ⟨current, accepted, rfl⟩

/-- There is no image of a variant exactly where the read of it was refused, and `control` is not
`.current`. -/
theorem judge_eq_none_iff {control : PageControl} {answer : SenseAnswer} :
    editor.judge key allocation control answer = .ok none ↔
      control ≠ .current ∧ ∃ cause, answer = .error cause := by
  rcases answer with cause | response
  · simp [judge]
  · simp [judge, map_eq_ok_iff]

/-- What cannot be used of an answer is an error `OfAnswer`: a refused command or a bad response. -/
theorem ofAnswer_of_judge {control : PageControl} {answer : SenseAnswer} {e : Error}
    (h : editor.judge key allocation control answer = .error e) : e.OfAnswer := by
  rcases answer with cause | response
  · dsimp only [judge] at h
    split at h
    · cases h
      trivial
    · cases h
  · obtain ⟨_, refused, rfl⟩ := mapError_eq_error_iff.1 (map_eq_error_iff.1 h)
    exact ofWhole_of_validate refused

theorem get_keep_of_judge {control : PageControl} {answer : SenseAnswer}
    {image : Option PageImage} (h : editor.judge key allocation control answer = .ok image)
    (images : PageImages) (other : PageControl) :
    (images.keep image).get other =
      if control = other then image.or (images.get other) else images.get other := by
  cases image with
  | none => simp
  | some image => simp [control_of_judge h]

theorem collect_cons_eq_ok_iff {control : PageControl} {answer : SenseAnswer}
    {rest : List (PageControl × SenseAnswer)} {images images' : PageImages} :
    editor.collect key allocation ((control, answer) :: rest) images = .ok images' ↔
      ∃ image, editor.judge key allocation control answer = .ok image ∧
        editor.collect key allocation rest (images.keep image) = .ok images' := by
  rw [collect, bind_eq_ok_iff]

/-- Answers come to something together exactly when each of them is `Usable`. -/
theorem exists_collect_iff {answers : List (PageControl × SenseAnswer)} {images : PageImages} :
    (∃ images', editor.collect key allocation answers images = .ok images') ↔
      ∀ pair ∈ answers, editor.Usable key allocation pair := by
  induction answers generalizing images with
  | nil => simp [collect]
  | cons pair rest ih =>
    obtain ⟨control, answer⟩ := pair
    rw [List.forall_mem_cons, ← exists_judge_iff]
    simp only [collect_cons_eq_ok_iff]
    constructor
    · rintro ⟨images', image, judged, collected⟩
      exact ⟨⟨image, judged⟩, ih.1 ⟨images', collected⟩⟩
    · rintro ⟨⟨image, judged⟩, usable⟩
      have further : ∃ images', editor.collect key allocation rest (images.keep image) = .ok images' :=
        ih.2 usable
      obtain ⟨images', collected⟩ := further
      exact ⟨images', image, judged, collected⟩

/-- Where `collect` can use all answers, all reads are made. -/
theorem readCount_of_collect {answers : List (PageControl × SenseAnswer)}
    {images images' : PageImages}
    (h : editor.collect key allocation answers images = .ok images') :
    editor.readCount key allocation answers = answers.length := by
  induction answers generalizing images with
  | nil => rfl
  | cons pair rest ih =>
    obtain ⟨control, answer⟩ := pair
    obtain ⟨image, judged, collected⟩ := collect_cons_eq_ok_iff.1 h
    rw [readCount, judged, List.length_cons]
    exact congrArg (· + 1) (ih collected)

/-- Where `collect` can use all answers, `take` leaves no read out. -/
theorem take_readCount_of_collect {controls : List PageControl} {state : σ}
    {images images' : PageImages}
    (h : editor.collect key allocation (editor.variantAnswers device key allocation controls state)
      images = .ok images') :
    (editor.variantRequests key allocation controls).take (editor.readCount key allocation
        (editor.variantAnswers device key allocation controls state)) =
      editor.variantRequests key allocation controls := by
  apply List.take_of_length_le
  rw [readCount_of_collect h, variantRequests, List.length_map]
  have answered : (editor.variantAnswers device key allocation controls state).map Prod.fst =
      controls := map_fst_variantAnswers controls state
  have length := congrArg List.length answered
  rw [List.length_map] at length
  exact length.ge

/-- At least the first of the reads is made. -/
theorem readCount_pos (pair : PageControl × SenseAnswer) (rest : List (PageControl × SenseAnswer)) :
    0 < editor.readCount key allocation (pair :: rest) := by
  rw [readCount]
  split
  · exact Nat.succ_pos _
  · exact Nat.one_pos

/-- A variant that was not read keeps its place: `get` is what it was. -/
theorem get_of_collect_of_notMem {answers : List (PageControl × SenseAnswer)}
    {images images' : PageImages} {control : PageControl}
    (h : editor.collect key allocation answers images = .ok images')
    (absent : control ∉ answers.map Prod.fst) : images'.get control = images.get control := by
  induction answers generalizing images with
  | nil =>
    cases h
    rfl
  | cons pair rest ih =>
    obtain ⟨first, answer⟩ := pair
    obtain ⟨image, judged, collected⟩ := collect_cons_eq_ok_iff.1 h
    rw [List.map_cons, List.mem_cons, not_or] at absent
    rw [ih collected absent.2, get_keep_of_judge judged, if_neg (Ne.symm absent.1)]

/-- The place of a variant that was read holds what `judge` makes of its answer. -/
theorem get_of_collect_of_mem {answers : List (PageControl × SenseAnswer)}
    {images images' : PageImages} {control : PageControl} {answer : SenseAnswer}
    (h : editor.collect key allocation answers images = .ok images')
    (once : (answers.map Prod.fst).Nodup) (mem : (control, answer) ∈ answers)
    (empty : images.get control = none) :
    editor.judge key allocation control answer = .ok (images'.get control) := by
  induction answers generalizing images with
  | nil => cases mem
  | cons pair rest ih =>
    obtain ⟨first, given⟩ := pair
    obtain ⟨image, judged, collected⟩ := collect_cons_eq_ok_iff.1 h
    rw [List.map_cons, List.nodup_cons] at once
    rcases List.mem_cons.1 mem with here | later
    · -- no later answer is for this variant
      cases here
      rw [get_of_collect_of_notMem collected once.1, get_keep_of_judge judged, if_pos rfl, empty,
        Option.or_none]
      exact judged
    · have other : first ≠ control := by
        rintro rfl
        exact once.1 (List.mem_map.2 ⟨_, later, rfl⟩)
      refine ih collected once.2 later ?_
      rw [get_keep_of_judge judged, if_neg other]
      exact empty

/-! ## Fetches that succeed -/

/-- A fetch comes to what `collect` makes of the answers, once the probe says how much to
allocate. -/
theorem result_fetch (wanted : List PageControl) (state : σ) :
    (Session.effect (editor.fetch device key wanted) state).result =
      (editor.probedAllocation device key state).bind fun allocation =>
        editor.collect key allocation (editor.variantAnswers device key allocation
          (variantsToRead wanted) (editor.probedState device key state)) {} := by
  rw [(does_fetch wanted).effect_eq, Effect.result_andThen]

/-- **A fetch fails** for a refused command or a bad response: its errors are `OfAnswer`. -/
theorem ofAnswer_of_fetch {wanted : List PageControl} {state : σ} {e : Error}
    (h : (Session.effect (editor.fetch device key wanted) state).result = .error e) : e.OfAnswer := by
  have collected (allocation : Nat) (answers : List (PageControl × SenseAnswer))
      (images : PageImages) (failed : editor.collect key allocation answers images = .error e) :
      e.OfAnswer := by
    induction answers generalizing images with
    | nil => cases failed
    | cons pair rest ih =>
      obtain ⟨control, answer⟩ := pair
      rw [collect, bind_eq_error_iff] at failed
      rcases failed with failed | ⟨image, -, failed⟩
      · exact ofAnswer_of_judge failed
      · exact ih _ failed
  rw [result_fetch, bind_eq_error_iff] at h
  rcases h with failed | ⟨allocation, -, failed⟩
  · unfold probedAllocation judgeProbe at failed
    split at failed
    · cases failed
      trivial
    · split at failed
      · next unread =>
        cases failed
        exact ofWhole_of_read unread
      · cases failed
  · exact collected _ _ _ failed

/-- A fetch never fails for a contradiction with what the device has. -/
theorem fetch_ne_conflict (wanted : List PageControl) (state : σ) (conflict : ConflictError) :
    (Session.effect (editor.fetch device key wanted) state).result ≠ .error (.conflict conflict) :=
  fun failed => ofAnswer_of_fetch failed

/-- A fetch ends with the probe where `probedAllocation` fails. -/
theorem effect_fetch_of_unprobed (wanted : List PageControl) {state : σ} {e : Error}
    (refused : editor.probedAllocation device key state = .error e) :
    Session.effect (editor.fetch device key wanted) state =
      ⟨.error e, [.sense (editor.probeRequest key)], editor.probedState device key state⟩ := by
  rw [(does_fetch wanted).effect_eq, Effect.andThen, refused]

/-- A fetch whose probe says how much to allocate goes on with reads as long as it can use what is
answered, `readCount` of them. -/
theorem effect_fetch_of_probed (wanted : List PageControl) {state : σ}
    (allocated : editor.probedAllocation device key state = .ok allocation) :
    let controls := variantsToRead wanted
    let answers := editor.variantAnswers device key allocation controls
      (editor.probedState device key state)
    let reads := (editor.variantRequests key allocation controls).take
      (editor.readCount key allocation answers)
    Session.effect (editor.fetch device key wanted) state =
      ⟨editor.collect key allocation answers {},
        .sense (editor.probeRequest key) :: reads.map Command.sense,
        device.afterReads reads (editor.probedState device key state)⟩ := by
  rw [(does_fetch wanted).effect_eq, Effect.andThen, allocated]
  rfl

/-- A fetch that can use all answers makes all its reads. -/
theorem effect_fetch_of_collect {wanted : List PageControl} {state : σ} {images : PageImages}
    (allocated : editor.probedAllocation device key state = .ok allocation)
    (collected : editor.collect key allocation (editor.variantAnswers device key allocation
      (variantsToRead wanted) (editor.probedState device key state)) {} = .ok images) :
    let reads := editor.variantRequests key allocation (variantsToRead wanted)
    Session.effect (editor.fetch device key wanted) state =
      ⟨.ok images, .sense (editor.probeRequest key) :: reads.map Command.sense,
        device.afterReads reads (editor.probedState device key state)⟩ := by
  rw [effect_fetch_of_probed wanted allocated, collected, take_readCount_of_collect collected]

/-- A fetch that succeeds issues the probe, and then the reads of `variantsToRead`, all wanted
variants. -/
theorem issued_fetch_of_ok {wanted : List PageControl} {state : σ} {images : PageImages}
    (allocated : editor.probedAllocation device key state = .ok allocation)
    (fetched : (Session.effect (editor.fetch device key wanted) state).result = .ok images) :
    (Session.effect (editor.fetch device key wanted) state).issued =
      .sense (editor.probeRequest key) ::
        (editor.variantRequests key allocation (variantsToRead wanted)).map Command.sense := by
  rw [result_fetch, allocated, Except.bind] at fetched
  rw [effect_fetch_of_collect allocated fetched]

/-- What the first answer of a fetch that succeeds comes to are the current values,
`images.current`. -/
theorem current_of_fetch {wanted : List PageControl} {state : σ} {images : PageImages}
    (h : (Session.effect (editor.fetch device key wanted) state).result = .ok images) :
    ∃ allocation response image,
      editor.probedAllocation device key state = .ok allocation ∧
        (device.sense (editor.senseRequest key .current allocation)
          (editor.probedState device key state)).1 = .ok response ∧
        (editor.validate key .current response allocation).value = .ok image ∧
        images.current = some image := by
  rw [result_fetch, bind_eq_ok_iff] at h
  obtain ⟨allocation, allocated, collected⟩ := h
  have judged : editor.judge key allocation .current
      (device.sense (editor.senseRequest key .current allocation)
        (editor.probedState device key state)).1 = .ok images.current :=
    get_of_collect_of_mem collected
      (by rw [map_fst_variantAnswers]; exact nodup_variantsToRead wanted)
      List.mem_cons_self (PageImages.get_empty .current)
  cases answer : (device.sense (editor.senseRequest key .current allocation)
      (editor.probedState device key state)).1 with
  | error cause =>
    rw [answer] at judged
    cases judged
  | ok response =>
    rw [answer, judge, map_eq_ok_iff] at judged
    obtain ⟨image, accepted, filled⟩ := judged
    exact ⟨allocation, response, image, allocated, answer, mapError_eq_ok_iff.1 accepted,
      filled.symm⟩

/-- A fetch that succeeds has images of the wanted variants that were answered, and of no others. -/
theorem get_of_fetch_iff {wanted : List PageControl} {state : σ} {images : PageImages}
    (h : (Session.effect (editor.fetch device key wanted) state).result = .ok images)
    {control : PageControl} {image : PageImage} :
    images.get control = some image ↔
      (control = .current ∨ control ∈ wanted) ∧
        ∃ allocation response, editor.probedAllocation device key state = .ok allocation ∧
          (control, .ok response) ∈ editor.variantAnswers device key allocation
            (variantsToRead wanted) (editor.probedState device key state) ∧
          (editor.validate key control response allocation).value = .ok image := by
  rw [result_fetch, bind_eq_ok_iff] at h
  obtain ⟨allocation, allocated, collected⟩ := h
  have controls : (editor.variantAnswers device key allocation (variantsToRead wanted)
      (editor.probedState device key state)).map Prod.fst = variantsToRead wanted :=
    map_fst_variantAnswers _ _
  have once := nodup_variantsToRead wanted
  rw [← controls] at once
  constructor
  · intro filled
    by_cases read : control ∈ variantsToRead wanted
    · refine ⟨mem_variantsToRead.1 read, allocation, ?_⟩
      rw [← controls] at read
      obtain ⟨⟨_, answer⟩, mem, rfl⟩ := List.mem_map.1 read
      have judged := get_of_collect_of_mem collected once mem (PageImages.get_empty _)
      rw [filled] at judged
      rcases answer with cause | response
      · rw [judge] at judged
        split at judged <;> cases judged
      · rw [judge, map_eq_ok_iff] at judged
        obtain ⟨_, accepted, same⟩ := judged
        cases same
        exact ⟨response, allocated, mem, mapError_eq_ok_iff.1 accepted⟩
    · -- the place of a variant that was not read stays empty
      rw [← controls] at read
      rw [get_of_collect_of_notMem collected read, PageImages.get_empty] at filled
      cases filled
  · rintro ⟨-, _, response, allocated', mem, accepted⟩
    rw [allocated] at allocated'
    cases allocated'
    have judged := get_of_collect_of_mem collected once mem (PageImages.get_empty _)
    rw [judge, accepted] at judged
    exact (Except.ok.inj judged).symm

/-- **Acceptance is exact.** A response of a device has an image exactly when it is a
`WellFormedResponse`, and the image is made of the bytes that count (`kept`). A fetch succeeds
exactly when the probe is answered with a header, the current values are answered and every answer
is `Usable`; the images it then has are those of the wanted variants that were answered. -/
theorem acceptance_exact (editor : Editor) (key : PageKey) :
    (∀ control allocation response,
      ((∃ image, (editor.validate key control response allocation).value = .ok image) ↔
        editor.WellFormedResponse key allocation response.received) ∧
      ∀ image, (editor.validate key control response allocation).value = .ok image →
        image.response = kept editor.config.size allocation response.received ∧
          image.offset = ModeHeader.pageOffsetAt editor.config.size response.received ∧
          image.pageLength = Page.lengthAt image.response image.offset ∧
          Page.headerLengthAt image.response image.offset ≤ image.pageLength ∧
          ∀ images : PageImages, (images.insert image).get control = some image) ∧
    ∀ {σ : Type} (device : Device σ) (wanted : List PageControl) (state : σ),
      ((∃ images, (Session.effect (editor.fetch device key wanted) state).result = .ok images) ↔
        ∃ allocation, editor.probedAllocation device key state = .ok allocation ∧
          ∀ pair ∈ editor.variantAnswers device key allocation (variantsToRead wanted)
            (editor.probedState device key state), editor.Usable key allocation pair) ∧
      ∀ images, (Session.effect (editor.fetch device key wanted) state).result = .ok images →
        (∃ image, images.current = some image) ∧
        ∀ control image, images.get control = some image ↔
          (control = .current ∨ control ∈ wanted) ∧
            ∃ allocation response, editor.probedAllocation device key state = .ok allocation ∧
              (control, .ok response) ∈ editor.variantAnswers device key allocation
                (variantsToRead wanted) (editor.probedState device key state) ∧
              (editor.validate key control response allocation).value = .ok image := by
  refine ⟨fun control allocation response => ⟨?_, ?_⟩, fun device wanted state => ⟨?_, ?_⟩⟩
  · constructor
    · rintro ⟨image, accepted⟩
      exact (validate_eq_ok_iff.1 accepted).1
    · intro wellFormed
      exact wellFormed.exists_image control
  · intro image accepted
    obtain ⟨-, place, response, offset, length⟩ := validate_eq_ok_iff.1 accepted
    refine ⟨response, offset, ?_, ?_, fun images => ?_⟩
    · rw [length, response, offset]
    · rw [length, response, offset]
      exact Page.headerLengthAt_le_lengthAt
    · rw [PageImages.get_insert, if_pos place]
  · simp only [result_fetch, bind_eq_ok_iff]
    constructor
    · rintro ⟨images, allocation, allocated, collected⟩
      exact ⟨allocation, allocated, exists_collect_iff.1 ⟨images, collected⟩⟩
    · rintro ⟨allocation, allocated, usable⟩
      obtain ⟨images, collected⟩ := exists_collect_iff.2 usable
      exact ⟨images, allocation, allocated, collected⟩
  · intro images fetched
    obtain ⟨-, -, image, -, -, -, current⟩ := current_of_fetch fetched
    exact ⟨⟨image, current⟩, fun control image => get_of_fetch_iff fetched⟩

end Editor

/-! ## A sample -/

namespace Sample

/-- An editor that uses the six-byte commands. -/
def sixByteEditor : Editor := ⟨registry, { size := .six }, none⟩

/-- A device with the current and the default values of a short caching page. -/
def cachingDevice : MemoryDevice where
  identity := ⟨.disk, "ACME", "TESTDISK", "0001"⟩
  pages := [((.current, caching.key), [0x88, 0x02, 0x04, 0x00]),
    ((.default, caching.key), [0x88, 0x02, 0x01, 0x00])]

/-- The identifier of an enhanced phy. -/
def identifierField : Field := enhancedPhyControlFields.head (by decide)

/-- The capabilities of an enhanced phy. -/
def capabilitiesField : Field := enhancedPhyControlFields.getLast (by decide)

/-- A device with an enhanced phy page that holds `descriptors`. -/
def phyDevice (descriptors : Bytes) : MemoryDevice where
  identity := cachingDevice.identity
  pages := [((.current, enhancedPhyControl.key),
    [0x59, 0x03, 0x00, UInt8.ofNat (4 + descriptors.length), 0x00, 0x06, 0x00, 0x02] ++ descriptors)]

/-- The current values of the sample device, as they are read. -/
def cachingImage : PageImage where
  control := .current
  response := [0x07, 0x00, 0x00, 0x00, 0x88, 0x02, 0x04, 0x00]
  offset := 4
  pageLength := 4
  page_le := by decide

/-- The caching page of the sample device is accepted, and a fetch of its current values has just
`cachingImage`. -/
theorem caching_accepted :
    sixByteEditor.WellFormedResponse caching.key 8 cachingImage.response ∧
      Page.headerLengthAt cachingImage.response 4 ≤ 4 ∧
      ∃ images, (Session.effect (sixByteEditor.fetch MemoryDevice.device caching.key [.current])
          cachingDevice).result = .ok images ∧
        (∃ image, images.current = some image) ∧ images.default = none := by
  have accepted : (sixByteEditor.validate caching.key .current ⟨cachingImage.response, 0⟩ 8).value =
      .ok cachingImage := rfl
  have judged := (Editor.acceptance_exact sixByteEditor caching.key).1 .current 8
    ⟨cachingImage.response, 0⟩
  have fetched : (Session.effect (sixByteEditor.fetch MemoryDevice.device caching.key [.current])
      cachingDevice).result = .ok { current := some cachingImage } := rfl
  have filled := ((Editor.acceptance_exact sixByteEditor caching.key).2 MemoryDevice.device [.current]
    cachingDevice).2 _ fetched
  obtain ⟨-, -, -, header, -⟩ := judged.2 cachingImage accepted
  refine ⟨judged.1.1 ⟨cachingImage, accepted⟩, header, _, fetched, filled.1, ?_⟩
  rw [Option.eq_none_iff_forall_ne_some]
  intro image default
  obtain ⟨wanted, -⟩ := (filled.2 .default image).1 default
  simp at wanted

end Sample

end ModeParameters
