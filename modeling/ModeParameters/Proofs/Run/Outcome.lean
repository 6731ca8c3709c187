import Mathlib.Data.List.Induction
import ModeParameters.Run

/-! # The outcome of a run

The status of a run is that of a list of results, one for each device in order. What it says can be
read off the list: how many devices there were, how many of them failed, and which failure decides.
The list grows at its end, so the step is the status after one more result. -/

namespace ModeParameters

namespace RunStatus

variable {status : RunStatus} {results : List (Except Error Unit)}

/-! ## What is to be said of results -/

/-- The failures among results, in order. -/
def failures (results : List (Except Error Unit)) : List Error :=
  results.filterMap fun
    | .ok () => none
    | .error error => some error

/-- A device was opened and said what it is before the failure: its kind is not `.deviceOpen`. -/
def afterOpening (error : Error) : Bool := error.kind != .deviceOpen

/-- The failure that decides over results: the first one `afterOpening`, or else the first one. -/
def deciding? (results : List (Except Error Unit)) : Option Error :=
  ((failures results).find? afterOpening).or (failures results).head?

/-- A status says of `results` what there is to say. -/
structure Summarizes (status : RunStatus) (results : List (Except Error Unit)) : Prop where
  /-- Every device is counted. -/
  processed : status.processed = results.length
  /-- Every device that failed is counted. -/
  failed : status.failed = (failures results).length
  /-- The failure that decides, `deciding?`, is kept. -/
  firstFailure : status.firstFailure = deciding? results

theorem failures_concat_ok : failures (results ++ [.ok ()]) = failures results := by
  simp [failures]

theorem failures_concat_error (error : Error) :
    failures (results ++ [.error error]) = failures results ++ [error] := by
  simp [failures]

theorem failures_eq_nil_iff : failures results = [] ↔ ∀ result ∈ results, result = .ok () := by
  rw [failures, List.filterMap_eq_nil_iff]
  refine forall₂_congr fun result _ => ?_
  cases result <;> simp

/-- Nothing decides exactly where there are no `failures`. -/
theorem deciding?_eq_none_iff : deciding? results = none ↔ failures results = [] := by
  rw [deciding?, Option.or_eq_none_iff, List.head?_eq_none_iff]
  exact ⟨And.right, fun empty => ⟨by simp [empty], empty⟩⟩

/-- A failure gives way to one `afterOpening` if it is not one itself. -/
theorem givesWay_eq (first later : Error) :
    givesWay first later = (!afterOpening first && afterOpening later) := by
  simp only [givesWay, afterOpening, bne, Bool.not_not]

/-- The failure that decides after one more: the one before it, unless `givesWay` holds of the
two. -/
theorem deciding?_concat_error (error : Error) :
    deciding? (results ++ [.error error]) =
      match deciding? results with
      | none => some error
      | some first => if givesWay first error then some error else some first := by
  unfold deciding?
  rw [failures_concat_error, List.find?_append]
  cases found : (failures results).find? afterOpening with
  | some first =>
    -- a failure after opening stays
    simp [givesWay_eq, List.find?_some found]
  | none =>
    cases all : failures results with
    | nil => cases later : afterOpening error <;> simp [later]
    | cons first rest =>
      -- there were failures of opening alone, and the first of them is the one to give way
      have opening : afterOpening first = false := by
        simpa using List.find?_eq_none.1 found first (by simp [all])
      cases later : afterOpening error <;> simp [givesWay_eq, opening, later]

/-! ## The status -/

/-- **One more result** is taken into the status by `record`. -/
theorem Summarizes.record (h : status.Summarizes results) (result : Except Error Unit) :
    (status.record result).Summarizes (results ++ [result]) := by
  cases result with
  | ok done =>
    refine ⟨?_, ?_, ?_⟩
    · simp [RunStatus.record, h.processed]
    · rw [failures_concat_ok, ← h.failed]
      rfl
    · rw [deciding?, failures_concat_ok, ← deciding?, ← h.firstFailure]
      rfl
  | error error =>
    refine ⟨?_, ?_, ?_⟩
    · simp [RunStatus.record, h.processed]
    · simp [RunStatus.record, failures_concat_error, h.failed]
    · rw [deciding?_concat_error, ← h.firstFailure]
      rfl

/-- **The status of results**, `ofResults`, says of them what there is to say. -/
theorem summarizes_ofResults (results : List (Except Error Unit)) :
    (ofResults results).Summarizes results := by
  induction results using List.reverseRecOn with
  | nil => exact ⟨rfl, rfl, rfl⟩
  | append_singleton before result ih =>
    have step : ofResults (before ++ [result]) = (ofResults before).record result := by
      simp [ofResults]
    rw [step]
    exact ih.record result

/-- The exit status is that of the failure that decides, and 0 if `deciding?` finds none. -/
theorem Summarizes.exitStatus_eq (h : status.Summarizes results) :
    status.exitStatus = ((deciding? results).map Error.exitStatus).getD 0 := by
  rw [RunStatus.exitStatus, h.firstFailure]

/-- The exit status is zero exactly where every result is `.ok ()`, so that no device failed. -/
theorem Summarizes.exitStatus_eq_zero_iff (h : status.Summarizes results) :
    status.exitStatus = 0 ↔ ∀ result ∈ results, result = .ok () := by
  rw [← failures_eq_nil_iff, ← deciding?_eq_none_iff, h.exitStatus_eq]
  cases deciding? results with
  | none => simp
  | some error => simpa [Error.exitStatus] using Nat.pos_iff_ne_zero.1 error.kind.exitStatus_pos

end RunStatus

/-! ## Runs -/

namespace Session

variable {σ : Type}

/-- How the operation went on one device. -/
def deviceResult (bench : Bench σ) (operation : Device σ → DeviceIdentity → Session σ Unit)
    (name : String) : StateM (Channel σ) (Except Error Unit) := fun channel =>
  let (result, after) := outcome (onDevice bench operation name) channel
  let remarks := match result with
    | .ok () => []
    | .error error => [⟨.warn, s!"{name}: {error.message}"⟩]
  (result, { after with log := after.log ++ remarks })

variable {bench : Bench σ} {operation : Device σ → DeviceIdentity → Session σ Unit}

/-- Carrying out the operation on one device by `runOne` is recording how it went there. -/
theorem runOne_eq (status : RunStatus) (name : String) :
    runOne bench operation status name = status.record <$> deviceResult bench operation name := rfl

/-- **A run** records the results of its devices, each a `deviceResult`, one after the other. -/
theorem foldlM_runOne_eq (status : RunStatus) (names : List String) :
    names.foldlM (runOne bench operation) status =
      (·.foldl RunStatus.record status) <$> names.mapM (deviceResult bench operation) := by
  induction names generalizing status with
  | nil => rfl
  | cons name rest ih =>
    -- the result of the first device is recorded before the rest is run
    simp only [List.foldlM_cons, List.mapM_cons, runOne_eq, ih, map_eq_pure_bind, bind_assoc,
      pure_bind, List.foldl_cons]

/-- A run has one result for each device. -/
theorem length_results (names : List String) (channel : Channel σ) :
    ((names.mapM (deviceResult bench operation)).run channel).1.length = names.length := by
  induction names generalizing channel with
  | nil => rfl
  | cons name rest ih =>
    have step : ((name :: rest).mapM (deviceResult bench operation)).run channel =
        let (result, after) := (deviceResult bench operation name).run channel
        let (results, last) := (rest.mapM (deviceResult bench operation)).run after
        (result :: results, last) := by
      rw [List.mapM_cons]
      rfl
    rw [step]
    exact congrArg (· + 1) (ih _)

end Session

/-- **The status of a run is read off its results.** Whatever the results, the status counts the
devices and those that failed (`Summarizes`); the failure that it keeps is the first one after
opening or else the first one; its exit status is that of this failure, and is zero exactly where
every device did what it was asked. A run over devices has one result for each of them, in order,
and its status is the one of these. -/
theorem run_outcome :
    (∀ results, (RunStatus.ofResults results).Summarizes results ∧
      (RunStatus.ofResults results).exitStatus =
        ((RunStatus.deciding? results).map Error.exitStatus).getD 0 ∧
      ((RunStatus.ofResults results).exitStatus = 0 ↔ ∀ result ∈ results, result = .ok ())) ∧
    ∀ {σ : Type} (bench : Bench σ) (operation : Device σ → DeviceIdentity → Session σ Unit)
      (names : List String) (channel : Channel σ),
      let run := (names.mapM (Session.deviceResult bench operation)).run channel
      run.1.length = names.length ∧
        (Session.runAll bench operation names).run channel = (RunStatus.ofResults run.1, run.2) := by
  refine ⟨fun results => ?_, fun bench operation names channel => ?_⟩
  · have summary := RunStatus.summarizes_ofResults results
    exact ⟨summary, summary.exitStatus_eq, summary.exitStatus_eq_zero_iff⟩
  · refine ⟨Session.length_results names channel, ?_⟩
    rw [Session.runAll, Session.foldlM_runOne_eq]
    rfl

end ModeParameters
