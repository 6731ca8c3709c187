import ModeParameters.Device.Command
import ModeParameters.Error
import ModeParameters.Log
import ModeParameters.Registry.Basic

/-! # Sessions with a device

An operation talks to a device. What it does is recorded as it happens: the commands it issued, in
order and whether or not they were carried out, and the remarks it made. Both records and the state
of the device outlive a failure of the operation. -/

namespace ModeParameters

/-- What an operation was told to do. -/
structure EditConfig where
  /-- The namespace of pages and fields. -/
  space : Namespace := .generic
  /-- The device type to go by, whatever the device says. -/
  typeOverride : Option DeviceType := none
  /-- Some faults of responses are remarked and borne. -/
  flexible : Bool := false
  /-- Changes are prepared but not written. -/
  dryRun : Bool := false
  /-- The form of the mode commands. -/
  size : CommandSize := .ten
  /-- The device is to leave out block descriptors. -/
  withoutBlockDescriptors : Bool := false
  /-- Changes are to be saved too. -/
  save : Bool := false
  /-- Fields are reported in all variants. -/
  allVariants : Bool := false
  /-- Changes of bits that cannot be changed are remarked. -/
  checkChangeable : Bool := false
deriving DecidableEq, Repr

namespace EditConfig

/-- The device type to go by: the `typeOverride`, or else the reported one. -/
def effectiveType (config : EditConfig) (reported : Option DeviceType) : Option DeviceType :=
  config.typeOverride.or reported

end EditConfig

/-- A command as it was issued. -/
inductive Command
  /-- A MODE SENSE. -/
  | sense (request : SenseRequest)
  /-- A MODE SELECT. -/
  | select (request : SelectRequest)
deriving DecidableEq, Repr

/-- The state of a device and the records of what was done with it; a failed `Session` leaves them
too. -/
structure Channel (σ : Type) where
  /-- The state of the device. -/
  state : σ
  /-- The commands issued, oldest first. -/
  commands : List Command := []
  /-- The remarks made, oldest first. -/
  log : List LogRecord := []
deriving Repr

/-- An operation on a device with states of type `σ`. -/
abbrev Session (σ α : Type) := ExceptT Error (StateM (Channel σ)) α

namespace Session

variable {σ α β : Type}

/-- The outcome of an operation, and the channel after it: `x.run.run channel`. -/
def outcome (x : Session σ α) (channel : Channel σ) : Except Error α × Channel σ :=
  x.run.run channel

@[simp] theorem outcome_pure (a : α) (channel : Channel σ) :
    outcome (pure a : Session σ α) channel = (.ok a, channel) := rfl

@[simp] theorem outcome_throw (e : Error) (channel : Channel σ) :
    outcome (throw e : Session σ α) channel = (.error e, channel) := rfl

theorem outcome_bind (x : Session σ α) (f : α → Session σ β) (channel : Channel σ) :
    outcome (x >>= f) channel =
      match outcome x channel with
      | (.ok a, after) => outcome (f a) after
      | (.error e, after) => (.error e, after) := by
  simp only [outcome, ExceptT.run_bind, StateT.run_bind]
  change (StateT.run x.run channel >>= _ : Id _) = _
  rcases StateT.run x.run channel with ⟨result, after⟩
  cases result <;> rfl

theorem outcome_map (f : α → β) (x : Session σ α) (channel : Channel σ) :
    outcome (f <$> x) channel = ((outcome x channel).1.map f, (outcome x channel).2) := by
  rw [map_eq_pure_bind, outcome_bind]
  rcases outcome x channel with ⟨result, after⟩
  cases result <;> rfl

/-- Does work that needs no device, and records its remarks in the `log` of the channel. -/
def attempt (x : Attempt Error α) : Session σ α :=
  ExceptT.mk fun channel => (x.value, { channel with log := channel.log ++ x.log })

@[simp] theorem outcome_attempt (x : Attempt Error α) (channel : Channel σ) :
    outcome (attempt x : Session σ α) channel =
      (x.value, { channel with log := channel.log ++ x.log }) := rfl

/-- Makes one remark. -/
def remark (level : LogLevel) (message : String) : Session σ Unit :=
  attempt (liftM (Logged.remark level message))

/-- Issues a MODE SENSE, which is recorded among the `commands`; a refusal is an answer. -/
def sense (device : Device σ) (request : SenseRequest) :
    Session σ (Except DeviceError SenseResponse) :=
  ExceptT.mk fun channel =>
    let (answer, after) := device.sense request channel.state
    (.ok answer, { channel with
      state := after, commands := channel.commands ++ [.sense request] })

/-- Issues a MODE SELECT, which is recorded among the `commands`; a refusal is an answer. -/
def select (device : Device σ) (request : SelectRequest) : Session σ (Except DeviceError Unit) :=
  ExceptT.mk fun channel =>
    let (answer, after) := device.select request channel.state
    (.ok answer, { channel with
      state := after, commands := channel.commands ++ [.select request] })

@[simp] theorem outcome_sense (device : Device σ) (request : SenseRequest) (channel : Channel σ) :
    outcome (sense device request) channel =
      (.ok (device.sense request channel.state).1, { channel with
        state := (device.sense request channel.state).2
        commands := channel.commands ++ [.sense request] }) := rfl

@[simp] theorem outcome_select (device : Device σ) (request : SelectRequest) (channel : Channel σ) :
    outcome (select device request) channel =
      (.ok (device.select request channel.state).1, { channel with
        state := (device.select request channel.state).2
        commands := channel.commands ++ [.select request] }) := rfl

end Session

end ModeParameters
