/-! # Log records

Work on a page is accompanied by remarks that decide nothing: which variant was refused, which value
was cut, which check was waived. A `Logged` value carries the remarks made on the way to it, and an
`Attempt` keeps them even when the work fails. What a computation yields is its `value`; the laws
below let the log be set aside. -/

namespace ModeParameters

/-- How much a remark matters. -/
inductive LogLevel
  /-- Of interest when looking for a fault. -/
  | debug
  /-- What was done. -/
  | info
  /-- What may not be as it should. -/
  | warn
deriving DecidableEq, Repr

namespace LogLevel

/-- The name of a level. -/
def name : LogLevel → String
  | .debug => "DEBUG"
  | .info => "INFO"
  | .warn => "WARN"

/-- Severity; more is more severe, from `debug` to `warn`. -/
def severity : LogLevel → Nat
  | .debug => 0
  | .info => 1
  | .warn => 2

end LogLevel

/-- One remark. -/
structure LogRecord where
  /-- How much it matters. -/
  level : LogLevel
  /-- What it says. -/
  message : String
deriving DecidableEq, Repr

namespace LogRecord

/-- A record as one line: the level, then the message. -/
def text (record : LogRecord) : String := s!"{record.level.name} {record.message}"

/-- A record is at least as severe as a level: `level.severity ≤ record.level.severity`. -/
def reaches (record : LogRecord) (level : LogLevel) : Bool :=
  level.severity ≤ record.level.severity

end LogRecord

/-- A value and the remarks made on the way to it, oldest first. -/
structure Logged (α : Type) where
  /-- What was computed. -/
  value : α
  /-- What was remarked. -/
  log : List LogRecord
deriving Repr

namespace Logged

instance : Monad Logged where
  pure a := ⟨a, []⟩
  bind x f := ⟨(f x.value).value, x.log ++ (f x.value).log⟩

/-- Makes one remark. -/
def remark (level : LogLevel) (message : String) : Logged Unit := ⟨(), [⟨level, message⟩]⟩

@[simp] theorem value_pure {α : Type} (a : α) : (pure a : Logged α).value = a := rfl

@[simp] theorem value_bind {α β : Type} (x : Logged α) (f : α → Logged β) :
    (x >>= f).value = (f x.value).value := rfl

@[simp] theorem log_bind {α β : Type} (x : Logged α) (f : α → Logged β) :
    (x >>= f).log = x.log ++ (f x.value).log := rfl

@[ext] theorem ext {α : Type} {x y : Logged α} (value : x.value = y.value) (log : x.log = y.log) :
    x = y := by
  cases x
  cases y
  cases value
  cases log
  rfl

instance : LawfulMonad Logged := LawfulMonad.mk' Logged
  (fun _ => ext rfl (List.append_nil _))
  (fun _ _ => ext rfl (List.nil_append _))
  (fun _ _ _ => ext rfl (List.append_assoc _ _ _))

end Logged

/-- Work that may fail with an `ε` and keeps its remarks either way. -/
abbrev Attempt (ε α : Type) := ExceptT ε Logged α

namespace Attempt

variable {ε α β : Type}

/-- What an attempt comes to, with its remarks set aside. -/
def value (x : Attempt ε α) : Except ε α := Logged.value x.run

/-- The remarks of an attempt. -/
def log (x : Attempt ε α) : List LogRecord := Logged.log x.run

@[simp] theorem value_pure (a : α) : Attempt.value (pure a : Attempt ε α) = .ok a := rfl

@[simp] theorem value_throw (e : ε) : Attempt.value (throw e : Attempt ε α) = .error e := rfl

@[simp] theorem value_bind (x : Attempt ε α) (f : α → Attempt ε β) :
    Attempt.value (x >>= f) = x.value.bind fun a => (f a).value := by
  simp only [value, ExceptT.run_bind, Logged.value_bind]
  cases (ExceptT.run x).value <;> rfl

@[simp] theorem value_map (f : α → β) (x : Attempt ε α) :
    Attempt.value (f <$> x) = x.value.map f := by
  rw [map_eq_pure_bind, value_bind]
  cases x.value <;> rfl

@[simp] theorem value_ite {p : Prop} [Decidable p] (x y : Attempt ε α) :
    Attempt.value (if p then x else y) = if p then x.value else y.value := by
  split <;> rfl

@[simp] theorem value_liftLogged (x : Logged α) :
    Attempt.value (liftM x : Attempt ε α) = .ok x.value := rfl

@[simp] theorem value_liftExcept (x : Except ε α) :
    Attempt.value (liftM x : Attempt ε α) = x := rfl

end Attempt

end ModeParameters
