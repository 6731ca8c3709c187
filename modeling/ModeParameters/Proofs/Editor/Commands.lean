import ModeParameters.Proofs.Editor.Transactions
import ModeParameters.Proofs.Page.Image

/-! # Which commands an operation issues

Whatever the device does, an operation issues a probe, then reads of the wanted variants with one
allocation, and then at most one write. The reads and the write are described each by a structure;
the operations differ only in what they want and in whether they change the page. -/

namespace ModeParameters

/-- The operations on a page. -/
inductive Operation
  /-- Fetch variants of a page. -/
  | fetch (key : PageKey) (wanted : List PageControl)
  /-- Report every field of a page. -/
  | readPage (key : PageKey)
  /-- Report the fields of a request. -/
  | readFields (request : Request)
  /-- Set the fields of a request. -/
  | writeFields (request : Request)
  /-- Set a page to its default values. -/
  | restoreDefaults (key : PageKey)

namespace Operation

/-- The page of an operation; for a request it is that of all its bindings. -/
def key : Operation → PageKey
  | fetch key _ => key
  | readPage key => key
  | readFields request => request.page
  | writeFields request => request.page
  | restoreDefaults key => key

/-- The variants that an operation wants, by `allVariants` and `checkChangeable` for requests. -/
def wanted (config : EditConfig) : Operation → List PageControl
  | fetch _ wanted => wanted
  | readPage _ => PageControl.all
  | readFields _ => if config.allVariants then PageControl.all else [.current]
  | writeFields _ => if config.checkChangeable then [.current, .changeable] else [.current]
  | restoreDefaults _ => [.current, .default]

/-- An operation changes the page: `writeFields` and `restoreDefaults` do. -/
def changes : Operation → Bool
  | fetch _ _ => false
  | readPage _ => false
  | readFields _ => false
  | writeFields _ => true
  | restoreDefaults _ => true

variable {σ : Type}

/-- Carries out an operation; what it reports is set aside. -/
def run (editor : Editor) (device : Device σ) : Operation → Session σ Unit
  | fetch key wanted => (fun _ => ()) <$> editor.fetch device key wanted
  | readPage key => (fun _ => ()) <$> editor.readPage device key
  | readFields request => (fun _ => ()) <$> editor.readFields device request
  | writeFields request => (fun _ => ()) <$> editor.writeFields device request
  | restoreDefaults key => (fun _ => ()) <$> editor.restoreDefaults device key

end Operation

namespace Editor

variable {σ α β : Type}

/-! ## The reads -/

/-- The reads behind the probe of a page. Without a header in the answer to the probe there are
none; with one, they are the planned reads, all of them unless the operation is `abandoned`. -/
structure PlannedReads (editor : Editor) (device : Device σ) (key : PageKey)
    (wanted : List PageControl) (state : σ) (reads : List SenseRequest) (abandoned : Prop) : Prop where
  /-- A probe that is refused, or answered with less than a header, is the only read: `reads` is
  empty. -/
  unprobed : (∀ response, (device.sense (editor.probeRequest key) state).1 = .ok response →
      response.received.length < editor.config.size.headerLength) → reads = [] ∧ abandoned
  /-- The current values are read first, then the other wanted variants in their order
  (`variantRequests`), all with the declared length as allocation, which is at least a header and at
  most `maxAllocation`. -/
  probed : ∀ response, (device.sense (editor.probeRequest key) state).1 = .ok response →
    editor.config.size.headerLength ≤ response.received.length →
    ∃ count, 0 < count ∧
      reads = (editor.variantRequests key
        (min (max editor.config.size.headerLength
          (ModeHeader.totalLengthAt editor.config.size response.received))
          editor.config.size.maxAllocation)
        (.current :: [PageControl.changeable, .default, .saved].filter fun control =>
          wanted.contains control)).take count ∧
      (reads.length < (variantsToRead wanted).length → abandoned)

variable {editor : Editor} {device : Device σ} {key : PageKey} {wanted : List PageControl} {state : σ}

/-- What is `abandoned` early is abandoned in the end. -/
theorem PlannedReads.imp {reads : List SenseRequest} {abandoned abandoned' : Prop}
    (h : editor.PlannedReads device key wanted state reads abandoned)
    (weaker : abandoned → abandoned') :
    editor.PlannedReads device key wanted state reads abandoned' where
  unprobed none := ⟨(h.unprobed none).1, weaker (h.unprobed none).2⟩
  probed response answer enough := by
    obtain ⟨count, positive, planned, early⟩ := h.probed response answer enough
    exact ⟨count, positive, planned, weaker ∘ early⟩

/-- A fetch issues the probe and then `PlannedReads`, fewer only where it fails. -/
theorem exists_reads_fetch (editor : Editor) (device : Device σ) (key : PageKey)
    (wanted : List PageControl) (state : σ) :
    let fetched := Session.effect (editor.fetch device key wanted) state
    ∃ reads, fetched.issued = .sense (editor.probeRequest key) :: reads.map Command.sense ∧
      fetched.final = device.afterReads (editor.probeRequest key :: reads) state ∧
      editor.PlannedReads device key wanted state reads (∃ e, fetched.result = .error e) := by
  intro fetched
  cases allocated : editor.probedAllocation device key state with
  | error e =>
    have effect : fetched = _ := effect_fetch_of_unprobed wanted allocated
    refine ⟨[], ?_, ?_, ?_⟩
    · rw [effect]
      rfl
    · rw [effect]
      rfl
    · constructor
      · intro none
        exact ⟨rfl, e, congrArg Effect.result effect⟩
      · -- a header would have said how much to allocate
        intro response answer enough
        have header : ∃ allocation, editor.probedAllocation device key state = .ok allocation :=
          ⟨_, judgeProbe_eq_ok_iff.2 ⟨response, answer, enough, rfl⟩⟩
        obtain ⟨allocation, header⟩ := header
        rw [allocated] at header
        cases header
  | ok allocation =>
    obtain ⟨response, answer, enough, allocation_eq⟩ := judgeProbe_eq_ok_iff.1 allocated
    have effect : fetched = _ := effect_fetch_of_probed wanted allocated
    refine ⟨_, congrArg Effect.issued effect, congrArg Effect.final effect, ?_⟩
    constructor
    · -- the probe was answered with a header
      intro none
      exact absurd (none response answer) (Nat.not_lt.2 enough)
    · intro response' answer' _
      rw [answer] at answer'
      cases answer'
      -- there is always a first answer, that to the read of the current values
      refine ⟨_, readCount_pos _ _, by rw [← allocation_eq]; rfl, fun early => ?_⟩
      cases collected : editor.collect key allocation (editor.variantAnswers device key allocation
          (variantsToRead wanted) (editor.probedState device key state)) {} with
      | error e => exact ⟨e, by rw [effect, ← collected]⟩
      | ok images =>
        -- where all answers can be used, no read is left out
        rw [take_readCount_of_collect collected, variantRequests, List.length_map] at early
        exact absurd early (Nat.lt_irrefl _)

/-! ## The write -/

/-- What is left of an operation after the fetch: at most one write, which is issued only by an
operation that `changes` the page and not in a dry run, saves only what is `savable`, and fails only
by being refused. -/
structure LastWrite (editor : Editor) (device : Device σ) (key : PageKey) (changes : Bool)
    (savable : Prop) (fetched : σ) (result : Except Error α) (writes : List SelectRequest) : Prop where
  /-- There is one write at most. -/
  length_le : writes.length ≤ 1
  /-- The operation may write: it changes the page, and `dryRun` is off. -/
  allowed : ∀ request ∈ writes, changes = true ∧ editor.config.dryRun = false
  /-- What is saved was to be saved, and can be. -/
  saves : ∀ request ∈ writes, request.save = true → editor.config.save = true ∧ savable
  /-- A failure is that of the write, as a `selectError`. -/
  refused : ∀ request ∈ writes, ∀ error, result = .error error →
    ∃ cause, (device.select request fetched).1 = .error cause ∧ error = editor.selectError key cause

variable {changes : Bool} {savable : Prop} {fetched : σ}

/-- Nothing is wrong with not writing: no writes are a `LastWrite`. -/
theorem LastWrite.none (result : Except Error α) :
    editor.LastWrite device key changes savable fetched result [] where
  length_le := by decide
  allowed := nofun
  saves := nofun
  refused := nofun

/-- Setting the report aside by `Except.map` changes nothing. -/
theorem LastWrite.map {result : Except Error α} {writes : List SelectRequest}
    (h : editor.LastWrite device key changes savable fetched result writes) (f : α → β) :
    editor.LastWrite device key changes savable fetched (result.map f) writes where
  length_le := h.length_le
  allowed := h.allowed
  saves := h.saves
  refused request mem error failed := by
    cases result with
    | error e =>
      cases failed
      exact h.refused request mem error rfl
    | ok a => cases failed

/-- Writing parameters by `commit` issues at most the one write. -/
theorem lastWrite_commit (editor : Editor) (device : Device σ) (key : PageKey) (canSave : Bool)
    (parameters : Bytes) (state : σ) :
    ∃ writes, (editor.commitEffect device key canSave parameters state).issued =
        writes.map Command.select ∧
      editor.LastWrite device key true (canSave = true) state
        (editor.commitEffect device key canSave parameters state).result writes := by
  unfold commitEffect
  by_cases unsavable : editor.config.save ∧ ¬ canSave
  · rw [if_pos unsavable]
    exact ⟨[], rfl, .none _⟩
  · rw [if_neg unsavable]
    cases dryRun : editor.config.dryRun with
    | true => exact ⟨[], rfl, .none _⟩
    | false =>
      refine ⟨[editor.selectRequest parameters], rfl, Nat.le_refl 1, ?_, ?_, ?_⟩
      · intro request mem
        exact ⟨rfl, dryRun⟩
      · -- the request to save is that of the configuration
        rintro request mem saves
        obtain rfl := List.mem_singleton.1 mem
        have configured : editor.config.save = true := saves
        refine ⟨configured, ?_⟩
        rw [not_and, Decidable.not_not] at unsavable
        exact unsavable configured
      · -- the result is the answer to the write, and nothing else
        intro request mem error failed
        obtain rfl := List.mem_singleton.1 mem
        cases answer : (device.select (editor.selectRequest parameters) state).1 with
        | error cause =>
          simp only [Bool.false_eq_true, if_false, written, answer] at failed
          exact ⟨cause, rfl, (Except.error.inj failed).symm⟩
        | ok done =>
          simp only [Bool.false_eq_true, if_false, written, answer] at failed
          cases failed

/-- What is `savable` for one reason is so for a weaker one. -/
theorem LastWrite.imp {result : Except Error α} {writes : List SelectRequest} {savable' : Prop}
    (h : editor.LastWrite device key changes savable fetched result writes)
    (weaker : savable → savable') :
    editor.LastWrite device key changes savable' fetched result writes where
  length_le := h.length_le
  allowed := h.allowed
  saves request mem saves := ⟨(h.saves request mem saves).1, weaker (h.saves request mem saves).2⟩
  refused := h.refused

/-! ## Whole operations -/

/-- The current values among images can be saved: the savable bit of their page is set. -/
def CanSave (images : PageImages) : Prop :=
  ∃ current, images.current = some current ∧ current.response.bit (8 * current.offset) = true

/-- A session is a `fetch` followed by at most one write. -/
def FetchesThenWrites (editor : Editor) (device : Device σ) (key : PageKey)
    (wanted : List PageControl) (changes : Bool) (x : Session σ α) : Prop :=
  ∃ conclude : PageImages → σ → Effect σ α,
    (∀ state, Session.effect x state =
      (Session.effect (editor.fetch device key wanted) state).andThen conclude) ∧
    ∀ images fetched, ∃ writes,
      (conclude images fetched).issued = writes.map Command.select ∧
        editor.LastWrite device key changes (CanSave images) fetched
          (conclude images fetched).result writes

/-- An operation that only inspects what was fetched is a fetch and no write
(`FetchesThenWrites`). -/
theorem inspect_fetchesThenWrites (changes : Bool) (wanted : List PageControl)
    (inspect : PageImages → Attempt Error α) :
    editor.FetchesThenWrites device key wanted changes (do
      let images ← editor.fetch device key wanted
      Session.attempt (inspect images)) := by
  refine ⟨_, (does_inspect wanted inspect).effect_eq, fun images fetched => ?_⟩
  exact ⟨[], rfl, .none _⟩

/-- A fetch alone is a fetch and no write. -/
theorem fetch_fetchesThenWrites (changes : Bool) (wanted : List PageControl) :
    editor.FetchesThenWrites device key wanted changes (editor.fetch device key wanted) := by
  refine ⟨fun images fetched => ⟨.ok images, [], fetched⟩, fun state => ?_, fun images fetched => ?_⟩
  · rcases Session.effect (editor.fetch device key wanted) state with ⟨result, issued, final⟩
    cases result with
    | error e => rfl
    | ok images => simp [Effect.andThen]
  · exact ⟨[], rfl, .none _⟩

/-- The image of an edit that is asked whether it can be saved is that of the current values
(`CanSave`). -/
theorem canSave_of_changeOf {change : PageImages → PageImage → Attempt Error PageImage}
    {images : PageImages} {made : Bool × Bytes}
    (h : editor.changeOf key change images = .ok made) (savable : made.1 = true) :
    CanSave images := by
  obtain ⟨current, changed, present, -, rfl⟩ := changeOf_eq_ok_iff.1 h
  refine ⟨current, present, ?_⟩
  change current.isSavable = true at savable
  rw [PageImage.isSavable_eq_bit, Bool.and_eq_true] at savable
  exact savable.2

/-- An `edit` is a fetch and at most one write. -/
theorem edit_fetchesThenWrites (wanted : List PageControl)
    (change : PageImages → PageImage → Attempt Error PageImage) :
    editor.FetchesThenWrites device key wanted true (editor.edit device key wanted change) := by
  refine ⟨_, (does_edit wanted change).effect_eq, fun images fetched => ?_⟩
  unfold Effect.andThen
  cases changed : editor.changeOf key change images with
  | error e => exact ⟨[], rfl, .none _⟩
  | ok made =>
    obtain ⟨writes, issued, last⟩ :=
      lastWrite_commit editor device key made.1 made.2 fetched
    exact ⟨writes, by simpa using issued, last.imp (canSave_of_changeOf changed)⟩

/-- What a fetch followed by at most one write issues: the probe, `PlannedReads`, and at most a
`LastWrite`. -/
theorem FetchesThenWrites.exists_commands {x : Session σ α}
    (h : editor.FetchesThenWrites device key wanted changes x) (state : σ) :
    let fetched := Session.effect (editor.fetch device key wanted) state
    let done := Session.effect x state
    ∃ reads writes,
      done.issued = .sense (editor.probeRequest key) ::
        (reads.map Command.sense ++ writes.map Command.select) ∧
      editor.PlannedReads device key wanted state reads
        (writes = [] ∧ ∃ e, done.result = .error e) ∧
      editor.LastWrite device key changes
        (∃ images, fetched.result = .ok images ∧ CanSave images)
        (device.afterReads (editor.probeRequest key :: reads) state) done.result writes := by
  intro fetched done
  obtain ⟨conclude, effect, concludes⟩ := h
  obtain ⟨reads, issued, final, planned⟩ := exists_reads_fetch editor device key wanted state
  have done_eq : done = fetched.andThen conclude := effect state
  cases result : fetched.result with
  | error e =>
    -- nothing follows a fetch that fails
    have failed : done = ⟨.error e, fetched.issued, fetched.final⟩ := by
      rw [done_eq, Effect.andThen, result]
    refine ⟨reads, [], ?_, planned.imp fun _ => ⟨rfl, e, ?_⟩, .none _⟩
    · rw [failed, issued]
      simp
    · rw [failed]
  | ok images =>
    obtain ⟨writes, wrote, last⟩ := concludes images fetched.final
    have went_on : done = ⟨(conclude images fetched.final).result,
        fetched.issued ++ (conclude images fetched.final).issued,
        (conclude images fetched.final).final⟩ := by
      rw [done_eq, Effect.andThen, result]
    -- a fetch that succeeds left out no read, so nothing speaks of an abandoned one
    refine ⟨reads, writes, ?_, planned.imp ?_, ?_⟩
    · rw [went_on, issued, wrote, List.cons_append]
    · rintro ⟨e, failed⟩
      rw [show fetched.result = _ from result] at failed
      cases failed
    · rw [went_on, ← final]
      exact last.imp fun can => ⟨images, rfl, can⟩

/-- Setting the report aside changes nothing. -/
theorem FetchesThenWrites.map {x : Session σ α}
    (h : editor.FetchesThenWrites device key wanted changes x) (f : α → β) :
    editor.FetchesThenWrites device key wanted changes (f <$> x) := by
  obtain ⟨conclude, effect, concludes⟩ := h
  refine ⟨fun images fetched => ⟨(conclude images fetched).result.map f,
    (conclude images fetched).issued, (conclude images fetched).final⟩, fun state => ?_,
    fun images fetched => ?_⟩
  · rw [Session.effect_map, effect]
    unfold Effect.andThen
    cases (Session.effect (editor.fetch device key wanted) state).result <;> rfl
  · obtain ⟨writes, wrote, last⟩ := concludes images fetched
    exact ⟨writes, wrote, last.map f⟩

/-- Every operation is a fetch of what it wants, followed by at most one write
(`FetchesThenWrites`). -/
theorem run_fetchesThenWrites (operation : Operation) :
    editor.FetchesThenWrites device operation.key (operation.wanted editor.config)
      operation.changes (operation.run editor device) := by
  cases operation with
  | fetch key wanted => exact (fetch_fetchesThenWrites _ _).map _
  | readPage key => exact (inspect_fetchesThenWrites _ _ _).map _
  | readFields request => exact (inspect_fetchesThenWrites _ _ _).map _
  | writeFields request => exact (edit_fetchesThenWrites _ _).map _
  | restoreDefaults key => exact (edit_fetchesThenWrites _ _).map _

/-- **What an operation may do to a device.** Whatever the device answers, an operation issues the
probe, then the planned reads, then at most one write. Reads are left out only where the operation
fails without a write, a write is made only by an operation that changes the page and not in a dry
run, it saves only a page that was to be saved and whose current values, fetched by this operation,
say that it can be, and an operation that wrote fails only because the write was refused. -/
theorem operation_commands (editor : Editor) (device : Device σ) (operation : Operation)
    (state : σ) :
    let key := operation.key
    let wanted := operation.wanted editor.config
    let fetched := Session.effect (editor.fetch device key wanted) state
    let done := Session.effect (operation.run editor device) state
    ∃ reads writes,
      done.issued = .sense (editor.senseRequest key .current editor.config.size.headerLength) ::
        (reads.map Command.sense ++ writes.map Command.select) ∧
      editor.PlannedReads device key wanted state reads
        (writes = [] ∧ ∃ e, done.result = .error e) ∧
      editor.LastWrite device key operation.changes
        (∃ images, fetched.result = .ok images ∧ CanSave images)
        (device.afterReads (editor.probeRequest key :: reads) state) done.result writes :=
  (run_fetchesThenWrites operation).exists_commands state

end Editor

end ModeParameters
