import ModeParameters.Editor.Session

/-! # Runs over several devices

An operation is carried out on devices one after the other, and the run has one status. The first
failure decides it, except that a device that could not be opened gives way to a later failure of any
other kind. -/

namespace ModeParameters

/-- The status of a run, as `record` builds it up. -/
structure RunStatus where
  /-- The failure that decides the `exitStatus`. -/
  firstFailure : Option Error := none
  /-- The number of devices. -/
  processed : Nat := 0
  /-- The number of devices that failed. -/
  failed : Nat := 0
deriving DecidableEq, Repr

namespace RunStatus

/-- A failure gives way to a later one: one of the kind `deviceOpen` to one of another kind. -/
def givesWay (first later : Error) : Bool :=
  first.kind == .deviceOpen && later.kind != .deviceOpen

/-- The status after one more device. Its failure is the `firstFailure` if there was none before it,
or one that `givesWay` to it. -/
def record (status : RunStatus) : Except Error Unit → RunStatus
  | .ok () => { status with processed := status.processed + 1 }
  | .error error => {
      firstFailure := match status.firstFailure with
        | none => some error
        | some first => if givesWay first error then some error else some first
      processed := status.processed + 1
      failed := status.failed + 1 }

/-- The exit status of a run, that of its `firstFailure`; 0 without one. -/
def exitStatus (status : RunStatus) : Nat := (status.firstFailure.map Error.exitStatus).getD 0

/-- The status after devices with these results, by `record` one after the other. -/
def ofResults (results : List (Except Error Unit)) : RunStatus := results.foldl record {}

end RunStatus

namespace Session

variable {σ : Type}

/-- A command to a device or a bench that is neither MODE SENSE nor MODE SELECT. -/
def ask {α : Type} (step : σ → Except DeviceError α × σ) (failure : DeviceError → Error) :
    Session σ α :=
  ExceptT.mk fun channel =>
    let (answer, after) := step channel.state
    (answer.mapError failure, { channel with state := after })

/-- Opens a device, asks what it is and carries out the `operation` on it. -/
def onDevice (bench : Bench σ) (operation : Device σ → DeviceIdentity → Session σ Unit)
    (name : String) : Session σ Unit := do
  -- a device that does not say what it is counts as not opened
  let failure (cause : DeviceError) := Error.deviceOpen name cause.message
  let device ← ask (bench.openDevice name) failure
  let identity ← ask device.inquire failure
  remark .debug s!"{name}: {identity}"
  operation device identity

/-- Carries out the operation on one device (`onDevice`), and records how it went. -/
def runOne (bench : Bench σ) (operation : Device σ → DeviceIdentity → Session σ Unit)
    (status : RunStatus) (name : String) : StateM (Channel σ) RunStatus := fun channel =>
  let (result, after) := outcome (onDevice bench operation name) channel
  let remarks := match result with
    | .ok () => []
    | .error error => [⟨.warn, s!"{name}: {error.message}"⟩]
  (status.record result, { after with log := after.log ++ remarks })

/-- Carries out the operation on devices one after the other, by `runOne`. -/
def runAll (bench : Bench σ) (operation : Device σ → DeviceIdentity → Session σ Unit)
    (names : List String) : StateM (Channel σ) RunStatus :=
  names.foldlM (runOne bench operation) {}

end Session

end ModeParameters
