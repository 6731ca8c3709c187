import ModeParameters.Proofs.Editor.Configuration
import ModeParameters.Proofs.Editor.Edits

/-! # What a dry run foretells

A dry run does everything that the change would do, up to the write, and hands back the parameters
instead of writing them. So it can be compared with the run that writes: up to the write the two are
one, and the write of the one is what the other hands back. -/

namespace ModeParameters

namespace Command

/-- The request of a read. -/
def sense? : Command → Option SenseRequest
  | sense request => some request
  | select _ => none

/-- The request of a write. -/
def select? : Command → Option SelectRequest
  | sense _ => none
  | select request => some request

end Command

variable {σ α β : Type}

namespace Effect

/-- The reads that an effect issues, in order: the `Command.sense` among them. -/
def reads (e : Effect σ α) : List SenseRequest := e.issued.filterMap Command.sense?

/-- The writes that an effect issues, in order: the `Command.select` among them. -/
def writes (e : Effect σ α) : List SelectRequest := e.issued.filterMap Command.select?

end Effect

namespace Editor

variable {editor : Editor} {device : Device σ} {key : PageKey}

/-- The editor whose changes are written, or only prepared. -/
def withDryRun (editor : Editor) (dryRun : Bool) : Editor :=
  { editor with config := { editor.config with dryRun } }

/-- The effect of a dry run foretells that of the run that writes. -/
structure Foretells (editor : Editor) (device : Device σ) (key : PageKey)
    (dry real : Effect σ EditOutcome) : Prop where
  /-- Both issue the same reads. -/
  reads_eq : real.reads = dry.reads
  /-- The dry run writes nothing, and does not say that it has. -/
  unwritten : dry.writes = [] ∧ ∀ length, dry.result ≠ .ok (.written length)
  /-- The dry run hands parameters back exactly when the real one issues a single write, of them, to be
  saved as configured. -/
  handed_iff : ∀ parameters, dry.result = .ok (.dryRun parameters) ↔
    real.writes = [⟨editor.config.size, editor.config.save, parameters⟩]
  /-- The real run then comes to what the device answers to the write, in the state that the dry run
  leaves. -/
  written : ∀ parameters, dry.result = .ok (.dryRun parameters) →
    let answer := device.select ⟨editor.config.size, editor.config.save, parameters⟩ dry.final
    real.result = editor.written key parameters answer.1 ∧ real.final = answer.2
  /-- Where the dry run fails the real one fails alike, and writes nothing. -/
  failed : ∀ e, dry.result = .error e → real.result = .error e ∧ real.writes = [] ∧
    real.final = dry.final

/-- What fails in a dry run without a write fails alike in the real one: `Foretells` then relates an
effect to itself. -/
theorem Foretells.of_error {e : Error} {issued : List Command} {final : σ}
    (reads : issued.filterMap Command.select? = []) :
    editor.Foretells device key ⟨.error e, issued, final⟩ ⟨.error e, issued, final⟩ where
  reads_eq := rfl
  unwritten := ⟨reads, nofun⟩
  handed_iff parameters := by
    refine iff_of_false nofun fun wrote => ?_
    rw [Effect.writes, reads] at wrote
    cases wrote
  written := nofun
  failed e' failed := ⟨failed, reads, rfl⟩

/-- What `commitEffect` does in a dry run foretells what it does with the same parameters in the
real one. -/
theorem commit_foretells (editor : Editor) (device : Device σ) (key : PageKey) (savable : Bool)
    (parameters : Bytes) (state : σ) :
    editor.Foretells device key
      ((editor.withDryRun true).commitEffect device key savable parameters state)
      ((editor.withDryRun false).commitEffect device key savable parameters state) := by
  by_cases unsavable : editor.config.save ∧ ¬ savable
  · -- a page that cannot be saved is refused in both runs
    have refused (dryRun : Bool) :
        (editor.withDryRun dryRun).commitEffect device key savable parameters state =
          ⟨.error (.conflict (.notSavable key)), [], state⟩ := if_pos unsavable
    rw [refused true, refused false]
    exact .of_error rfl
  · let request : SelectRequest := ⟨editor.config.size, editor.config.save, parameters⟩
    have dry : (editor.withDryRun true).commitEffect device key savable parameters state =
        ⟨.ok (.dryRun parameters), [], state⟩ := (if_neg unsavable).trans (if_pos rfl)
    have real : (editor.withDryRun false).commitEffect device key savable parameters state =
        ⟨editor.written key parameters (device.select request state).1, [.select request],
          (device.select request state).2⟩ := (if_neg unsavable).trans (if_neg Bool.false_ne_true)
    rw [dry, real]
    refine ⟨rfl, ⟨rfl, nofun⟩, fun parameters' => ?_, fun parameters' handed => ?_, nofun⟩
    · simp [Effect.writes, Command.select?, request]
    · cases handed
      exact ⟨rfl, rfl⟩

/-- What follows reads is foretold after them if it was before: `Foretells` is kept by `andThen`. -/
theorem Foretells.after {fetched : Effect σ α} {dry real : α → σ → Effect σ EditOutcome}
    (reads : fetched.writes = [])
    (h : ∀ a state, editor.Foretells device key (dry a state) (real a state)) :
    editor.Foretells device key (fetched.andThen dry) (fetched.andThen real) := by
  cases result : fetched.result with
  | error e =>
    rw [Effect.andThen_of_error result, Effect.andThen_of_error result]
    exact .of_error reads
  | ok a =>
    have next := h a fetched.final
    have writes (rest : List Command) : (fetched.issued ++ rest).filterMap Command.select? =
        rest.filterMap Command.select? := by
      rw [List.filterMap_append]
      exact congrArg (· ++ _) reads
    rw [Effect.andThen_of_ok result, Effect.andThen_of_ok result]
    refine ⟨?_, ⟨?_, next.unwritten.2⟩, fun parameters => ?_, next.written, fun e failed => ?_⟩
    · simp only [Effect.reads, List.filterMap_append]
      exact congrArg (_ ++ ·) next.reads_eq
    · exact (writes _).trans next.unwritten.1
    · rw [Effect.writes, writes]
      exact next.handed_iff parameters
    · rw [Effect.writes, writes]
      exact next.failed e failed

/-- A fetch issues no `Command.select`. -/
theorem writes_fetch (editor : Editor) (device : Device σ) (key : PageKey)
    (wanted : List PageControl) (state : σ) :
    (Session.effect (editor.fetch device key wanted) state).writes = [] := by
  rw [Effect.writes, List.filterMap_eq_nil_iff]
  intro command mem
  cases command with
  | sense request => rfl
  | select request => exact absurd mem (select_notMem_fetch editor device key wanted state request)

/-- A dry edit foretells the one that writes, for a `change` that is the same in both. -/
theorem edit_foretells (editor : Editor) (device : Device σ) (key : PageKey)
    (wanted : List PageControl) (change : PageImages → PageImage → Attempt Error PageImage)
    (state : σ) :
    editor.Foretells device key
      (Session.effect ((editor.withDryRun true).edit device key wanted change) state)
      (Session.effect ((editor.withDryRun false).edit device key wanted change) state) := by
  have alike (dryRun : Bool) : ReadsAlike editor (editor.withDryRun dryRun) := ⟨rfl, rfl, rfl⟩
  rw [(does_edit wanted change).effect_eq, (does_edit wanted change).effect_eq,
    (alike true).fetch_eq, (alike false).fetch_eq]
  -- the change is made of the images alike, and what is left is the write
  refine Foretells.after (writes_fetch editor device key wanted state) fun images fetched =>
    Foretells.after rfl fun made state => ?_
  exact commit_foretells editor device key made.1 made.2 state

/-- **A dry run foretells the write.** Whatever the device, the tables and the settings,
`writeFields` and `restoreDefaults` issue the same reads in a dry run and in the real one. The dry
run hands parameters back exactly when the change issues one write, of these parameters and saved as
configured, and the change then comes to what the device answers; and where the dry run fails the
change fails with the same error, and writes nothing. -/
theorem dry_run_foretells (editor : Editor) (device : Device σ) (state : σ) :
    (∀ request : Request, editor.Foretells device request.page
      (Session.effect ((editor.withDryRun true).writeFields device request) state)
      (Session.effect ((editor.withDryRun false).writeFields device request) state)) ∧
    ∀ key, editor.Foretells device key
      (Session.effect ((editor.withDryRun true).restoreDefaults device key) state)
      (Session.effect ((editor.withDryRun false).restoreDefaults device key) state) :=
  ⟨fun request => edit_foretells editor device request.page _ (editor.applyRequest request) state,
    fun key => edit_foretells editor device key _ (applyDefaults key) state⟩

end Editor

end ModeParameters
