import ModeParameters.Editor.Session

/-! # What a session does

The effect of a session on a device in some state is what comes of it, the commands it issues and the
state it leaves. The records of commands and remarks only grow, and nothing depends on what stood in
them before: a session `Does` an effect when it has it on every channel. The effect of a chain of
steps is then the chain of their effects. -/

namespace ModeParameters

variable {σ α β : Type}

/-- What a session does on a device in some state, its remarks set aside. -/
structure Effect (σ α : Type) where
  /-- What comes of it. -/
  result : Except Error α
  /-- The commands it issues, in order. -/
  issued : List Command
  /-- The state it leaves. -/
  final : σ

/-- An effect followed by another one, unless it fails. -/
def Effect.andThen (first : Effect σ α) (second : α → σ → Effect σ β) : Effect σ β :=
  match first.result with
  | .ok a =>
    let next := second a first.final
    ⟨next.result, first.issued ++ next.issued, next.final⟩
  | .error e => ⟨.error e, first.issued, first.final⟩

/-- What comes of `first.andThen second` is what comes of the second, if something comes of the
first. -/
theorem Effect.result_andThen (first : Effect σ α) (second : α → σ → Effect σ β) :
    (first.andThen second).result =
      first.result.bind fun a => (second a first.final).result := by
  unfold andThen
  cases first.result <;> rfl

/-- What follows an effect that comes to `a`: the second effect of it, behind the commands of the
first. -/
theorem Effect.andThen_of_ok {first : Effect σ α} {a : α} (h : first.result = .ok a)
    (second : α → σ → Effect σ β) :
    first.andThen second = ⟨(second a first.final).result,
      first.issued ++ (second a first.final).issued, (second a first.final).final⟩ := by
  rw [andThen, h]

/-- Nothing follows an effect that fails. -/
theorem Effect.andThen_of_error {first : Effect σ α} {e : Error} (h : first.result = .error e)
    (second : α → σ → Effect σ β) :
    first.andThen second = ⟨.error e, first.issued, first.final⟩ := by
  rw [andThen, h]

/-- A chain that comes to something is the same with any steps `first'` and `second'` that are the
same wherever its own come to something. -/
theorem Effect.andThen_congr {first first' : Effect σ α} {second second' : α → σ → Effect σ β} {b : β}
    (h : (first.andThen second).result = .ok b)
    (same : ∀ a, first.result = .ok a → first' = first)
    (same' : ∀ a state, (second a state).result = .ok b → second' a state = second a state) :
    first'.andThen second' = first.andThen second := by
  cases result : first.result with
  | error e =>
    rw [andThen_of_error result] at h
    cases h
  | ok a =>
    rw [andThen_of_ok result] at h
    rw [same a result, andThen_of_ok result, andThen_of_ok result, same' a _ h]

namespace Session

/-- The effect of a session on a device in a state, run on a fresh `Channel`. -/
def effect (x : Session σ α) (state : σ) : Effect σ α :=
  let (result, after) := outcome x ⟨state, [], []⟩
  ⟨result, after.commands, after.state⟩

/-- A session **has an effect on every channel**, `e channel.state`, and only adds to the records of
it. -/
def Does (x : Session σ α) (e : σ → Effect σ α) : Prop :=
  ∀ channel, ∃ remarks, outcome x channel =
    ((e channel.state).result, ⟨(e channel.state).final,
      channel.commands ++ (e channel.state).issued, channel.log ++ remarks⟩)

/-- A session that `Does` an effect on every channel has it on a fresh one. -/
theorem Does.effect_eq {x : Session σ α} {e : σ → Effect σ α} (h : Does x e) (state : σ) :
    effect x state = e state := by
  -- nothing stands in the records of a fresh channel, so only what is added is left
  obtain ⟨remarks, fresh⟩ := h ⟨state, [], []⟩
  unfold effect
  rw [fresh]
  rfl

theorem Does.congr {x : Session σ α} {e e' : σ → Effect σ α} (h : Does x e)
    (same : ∀ state, e state = e' state) : Does x e' := by
  rw [← funext same]
  exact h

/-- A session that `Does` some effect on every channel does the one that it has on a fresh
channel. -/
theorem Does.does_effect {x : Session σ α} {e : σ → Effect σ α} (h : Does x e) :
    Does x (effect x) :=
  h.congr fun state => (h.effect_eq state).symm

/-! ## Single steps -/

theorem does_pure (a : α) : Does (pure a : Session σ α) fun state => ⟨.ok a, [], state⟩ := by
  intro channel
  exact ⟨[], by simp⟩

theorem does_throw (e : Error) :
    Does (throw e : Session σ α) fun state => ⟨.error e, [], state⟩ := by
  intro channel
  exact ⟨[], by simp⟩

theorem does_attempt (x : Attempt Error α) :
    Does (attempt x : Session σ α) fun state => ⟨x.value, [], state⟩ := by
  intro channel
  exact ⟨x.log, by simp⟩

theorem does_remark (level : LogLevel) (message : String) :
    Does (remark level message : Session σ Unit) fun state => ⟨.ok (), [], state⟩ :=
  does_attempt _

theorem does_sense (device : Device σ) (request : SenseRequest) :
    Does (sense device request) fun state =>
      ⟨.ok (device.sense request state).1, [.sense request], (device.sense request state).2⟩ := by
  intro channel
  exact ⟨[], by simp⟩

theorem does_select (device : Device σ) (request : SelectRequest) :
    Does (select device request) fun state =>
      ⟨.ok (device.select request state).1, [.select request],
        (device.select request state).2⟩ := by
  intro channel
  exact ⟨[], by simp⟩

/-! ## Chains of steps -/

/-- The effect of a chain is the chain of the effects, by `andThen`. -/
theorem Does.bind {x : Session σ α} {f : α → Session σ β} {e : σ → Effect σ α}
    {g : α → σ → Effect σ β} (hx : Does x e) (hf : ∀ a, Does (f a) (g a)) :
    Does (x >>= f) fun state => (e state).andThen g := by
  intro channel
  obtain ⟨remarks, first⟩ := hx channel
  rw [outcome_bind, first]
  dsimp only [Effect.andThen]
  cases (e channel.state).result with
  | error error => exact ⟨remarks, rfl⟩
  | ok a =>
    -- the second step runs on the channel that the first one leaves, not on a fresh one
    obtain ⟨more, second⟩ := hf a ⟨(e channel.state).final,
      channel.commands ++ (e channel.state).issued, channel.log ++ remarks⟩
    exact ⟨remarks ++ more, by simp [second]⟩

/-- A `remark` before a session changes nothing of its effect. -/
theorem Does.remark_bind {x : Session σ α} {e : σ → Effect σ α} (h : Does x e) (level : LogLevel)
    (message : String) : Does (remark level message >>= fun _ => x) e :=
  (does_remark level message).bind fun _ => h

/-- Handing on another result changes neither the commands nor the state. -/
theorem effect_map (f : α → β) (x : Session σ α) (state : σ) :
    effect (f <$> x) state =
      ⟨(effect x state).result.map f, (effect x state).issued, (effect x state).final⟩ := by
  unfold effect
  rw [outcome_map]

end Session

end ModeParameters
