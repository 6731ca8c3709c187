import Mathlib.Data.List.Forall2
import ModeParameters.Log

/-! # What success establishes

A chain of steps that succeeds has succeeded at each step. These laws take a successful chain apart,
for plain results and for attempts with their remarks set aside. -/

namespace ModeParameters

variable {ε ε' α β : Type}

/-- A chain `x.bind f` succeeds exactly when both steps do. -/
theorem bind_eq_ok_iff {x : Except ε α} {f : α → Except ε β} {b : β} :
    x.bind f = .ok b ↔ ∃ a, x = .ok a ∧ f a = .ok b := by
  cases x with
  | error e => simp [Except.bind]
  | ok a => simp [Except.bind]

/-- Wrapping the error by `mapError` changes no success. -/
theorem mapError_eq_ok_iff {x : Except ε α} {f : ε → ε'} {a : α} :
    x.mapError f = .ok a ↔ x = .ok a := by
  cases x with
  | error e => simp [Except.mapError]
  | ok a => simp [Except.mapError]

/-- A mapped result is the image of a result. -/
theorem map_eq_ok_iff {x : Except ε α} {f : α → β} {b : β} :
    x.map f = .ok b ↔ ∃ a, x = .ok a ∧ f a = b := by
  cases x with
  | error e => simp [Except.map]
  | ok a => simp [Except.map]

/-- A chain `x.bind f` fails exactly when one of its steps does. -/
theorem bind_eq_error_iff {x : Except ε α} {f : α → Except ε β} {e : ε} :
    x.bind f = .error e ↔ x = .error e ∨ ∃ a, x = .ok a ∧ f a = .error e := by
  cases x with
  | error e' => simp [Except.bind]
  | ok a => simp [Except.bind]

/-- What holds of the left element of each pair of a `Forall₂` holds of every element of the first
list. -/
theorem of_forall₂_left {P : α → Prop} {xs : List α} {ys : List β}
    (h : List.Forall₂ (fun x _ => P x) xs ys) : ∀ x ∈ xs, P x := by
  induction h with
  | nil =>
    intro x mem
    cases mem
  | cons first _ ih => exact List.forall_mem_cons.2 ⟨first, ih⟩

/-- A list of steps succeeds exactly when each of them does: `xs.mapM f` has the results in
order. -/
theorem mapM_eq_ok_iff {f : α → Except ε β} {xs : List α} {ys : List β} :
    xs.mapM f = .ok ys ↔ List.Forall₂ (fun x y => f x = .ok y) xs ys := by
  induction xs generalizing ys with
  | nil =>
    rw [List.mapM_nil, List.forall₂_nil_left_iff]
    exact ⟨fun h => (Except.ok.inj h).symm, fun h => h ▸ rfl⟩
  | cons x rest ih =>
    rw [List.mapM_cons, List.forall₂_cons_left_iff]
    constructor
    · intro h
      obtain ⟨y, first, others⟩ := bind_eq_ok_iff.1 h
      obtain ⟨ys', mapped, done⟩ := bind_eq_ok_iff.1 others
      cases done
      exact ⟨y, ys', first, ih.1 mapped, rfl⟩
    · rintro ⟨y, ys', first, others, rfl⟩
      exact bind_eq_ok_iff.2 ⟨y, first, bind_eq_ok_iff.2 ⟨ys', ih.2 others, rfl⟩⟩

/-- A list of steps fails with the error of the first one that fails: `xs` splits into successes,
that one and the rest. -/
theorem mapM_eq_error_iff {f : α → Except ε β} {xs : List α} {e : ε} :
    xs.mapM f = .error e ↔ ∃ before x after, xs = before ++ x :: after ∧
      (∀ good ∈ before, ∃ y, f good = .ok y) ∧ f x = .error e := by
  induction xs with
  | nil =>
    constructor
    · intro h
      cases h
    · rintro ⟨before, x, after, whole, -⟩
      simp at whole
  | cons x rest ih =>
    rw [List.mapM_cons]
    constructor
    · intro h
      rcases bind_eq_error_iff.1 h with failed | ⟨y, first, failed⟩
      · exact ⟨[], x, rest, rfl, nofun, failed⟩
      · rcases bind_eq_error_iff.1 failed with failed | ⟨_, -, done⟩
        · obtain ⟨before, x', after, rfl, good, failed⟩ := ih.1 failed
          exact ⟨x :: before, x', after, rfl, List.forall_mem_cons.2 ⟨⟨y, first⟩, good⟩, failed⟩
        · cases done
    · rintro ⟨before, x', after, whole, good, failed⟩
      cases before with
      | nil =>
        obtain ⟨rfl, rfl⟩ := List.cons.inj whole
        exact bind_eq_error_iff.2 (.inl failed)
      | cons _ before =>
        obtain ⟨rfl, rfl⟩ := List.cons.inj whole
        obtain ⟨⟨y, first⟩, good⟩ := List.forall_mem_cons.1 good
        have rest := ih.2 ⟨before, x', after, rfl, good, failed⟩
        exact bind_eq_error_iff.2 (.inr ⟨y, first, bind_eq_error_iff.2 (.inl rest)⟩)

/-- A result with its error wrapped by `mapError` fails where the result does. -/
theorem mapError_eq_error_iff {x : Except ε α} {f : ε → ε'} {e' : ε'} :
    x.mapError f = .error e' ↔ ∃ e, x = .error e ∧ f e = e' := by
  cases x with
  | error e => simp [Except.mapError]
  | ok a => simp [Except.mapError]

/-- A mapped result fails where the result does. -/
theorem map_eq_error_iff {x : Except ε α} {f : α → β} {e : ε} :
    x.map f = .error e ↔ x = .error e := by
  cases x with
  | error e' => simp [Except.map]
  | ok a => simp [Except.map]

/-- A guarded result, `if p then .error e else x`, is a success exactly when the guard lets it
pass. -/
theorem guard_eq_ok_iff {p : Prop} [Decidable p] {e : ε} {x : Except ε α} {a : α} :
    (if p then .error e else x) = .ok a ↔ ¬ p ∧ x = .ok a := by
  by_cases h : p
  · simp [h]
  · simp [h]

namespace Attempt

/-- An attempt with its error wrapped by `ExceptT.adapt` comes to the same. -/
@[simp] theorem value_adapt (f : ε → ε') (x : Attempt ε α) :
    Attempt.value (ExceptT.adapt f x) = x.value.mapError f :=
  rfl

/-- A chain of attempts, `x >>= f`, succeeds exactly when both do. -/
theorem value_bind_eq_ok_iff {x : Attempt ε α} {f : α → Attempt ε β} {b : β} :
    Attempt.value (x >>= f) = .ok b ↔ ∃ a, x.value = .ok a ∧ (f a).value = .ok b := by
  rw [value_bind, bind_eq_ok_iff]

/-- A list of attempts, `xs.mapM f`, succeeds exactly when each of them does. -/
theorem value_mapM_eq_ok_iff {f : α → Attempt ε β} {xs : List α} {ys : List β} :
    Attempt.value (xs.mapM f) = .ok ys ↔
      List.Forall₂ (fun x y => (f x).value = .ok y) xs ys := by
  induction xs generalizing ys with
  | nil =>
    rw [List.mapM_nil, value_pure, List.forall₂_nil_left_iff, Except.ok.injEq]
    exact eq_comm
  | cons x rest ih =>
    rw [List.mapM_cons, value_bind_eq_ok_iff, List.forall₂_cons_left_iff]
    -- the first attempt is `x`, and what is left is the chain for `rest`
    constructor
    · rintro ⟨y, first, others⟩
      obtain ⟨ys', mapped, done⟩ := value_bind_eq_ok_iff.1 others
      cases done
      exact ⟨y, ys', first, ih.1 mapped, rfl⟩
    · rintro ⟨y, ys', first, others, rfl⟩
      exact ⟨y, first, value_bind_eq_ok_iff.2 ⟨ys', ih.2 others, rfl⟩⟩

/-- A list of attempts each of which can succeed succeeds. -/
theorem exists_value_mapM {f : α → Attempt ε β} {xs : List α}
    (h : ∀ x ∈ xs, ∃ y, (f x).value = .ok y) : ∃ ys, Attempt.value (xs.mapM f) = .ok ys := by
  induction xs with
  | nil => exact ⟨[], rfl⟩
  | cons x rest ih =>
    obtain ⟨y, first⟩ := h x List.mem_cons_self
    obtain ⟨ys, others⟩ := ih fun x' mem => h x' (List.mem_cons_of_mem x mem)
    -- the law of lists of attempts puts the two together
    exact ⟨y :: ys, value_mapM_eq_ok_iff.2 (.cons first (value_mapM_eq_ok_iff.1 others))⟩

/-- Where `g` succeeds on every element on which `f` does, with a result that `R` relates, a list on
which `f` succeeds has related results under `g`. -/
theorem exists_value_mapM_of_forall₂ {γ : Type} {f : α → Attempt ε β} {g : α → Attempt ε γ}
    {R : β → γ → Prop} {xs : List α} {ys : List β}
    (step : ∀ x ∈ xs, ∀ y, (f x).value = .ok y → ∃ z, (g x).value = .ok z ∧ R y z)
    (h : Attempt.value (xs.mapM f) = .ok ys) :
    ∃ zs, Attempt.value (xs.mapM g) = .ok zs ∧ List.Forall₂ R ys zs := by
  rw [value_mapM_eq_ok_iff] at h
  induction h with
  | nil => exact ⟨[], rfl, .nil⟩
  | @cons x y xs ys first _ ih =>
    obtain ⟨z, done, related⟩ := step x List.mem_cons_self y first
    obtain ⟨zs, others, related'⟩ := ih fun x' mem => step x' (List.mem_cons_of_mem x mem)
    exact ⟨z :: zs, value_mapM_eq_ok_iff.2 (.cons done (value_mapM_eq_ok_iff.1 others)),
      .cons related related'⟩

/-- A list of attempts each of which comes to the image under `h` of what another one comes to. -/
theorem value_mapM_map {γ : Type} {f : α → Attempt ε β} {g : α → Attempt ε γ} {h : β → γ}
    (each : ∀ x, (g x).value = (f x).value.map h) (xs : List α) :
    Attempt.value (xs.mapM g) = (Attempt.value (xs.mapM f)).map (List.map h) := by
  induction xs with
  | nil => rfl
  | cons x rest ih =>
    simp only [List.mapM_cons, value_bind, value_pure, each, ih]
    cases (f x).value with
    | error e => rfl
    | ok y => cases Attempt.value (rest.mapM f) <;> rfl

/-- In a list of attempts that succeeds, `xs.mapM f`, each of them does. -/
theorem exists_value_of_mapM {f : α → Attempt ε β} {xs : List α} {ys : List β}
    (h : Attempt.value (xs.mapM f) = .ok ys) {x : α} (mem : x ∈ xs) : ∃ y, (f x).value = .ok y := by
  rw [value_mapM_eq_ok_iff] at h
  induction h with
  | nil => cases mem
  | cons first _ ih =>
    rcases List.mem_cons.1 mem with rfl | later
    · exact ⟨_, first⟩
    · exact ih later

/-- The results of a list of attempts are those of its members. -/
theorem mem_value_mapM_iff {f : α → Attempt ε β} {xs : List α} {ys : List β}
    (h : Attempt.value (xs.mapM f) = .ok ys) {y : β} :
    y ∈ ys ↔ ∃ x ∈ xs, (f x).value = .ok y := by
  rw [value_mapM_eq_ok_iff] at h
  induction h with
  | nil => simp
  | cons first _ ih =>
    rw [List.mem_cons, ih, List.exists_mem_cons_iff, first, Except.ok.injEq, @eq_comm _ y]

/-- A list of attempts that fails does so with the error of one of them. -/
theorem exists_value_of_mapM_eq_error {f : α → Attempt ε β} {xs : List α} {e : ε}
    (h : Attempt.value (xs.mapM f) = .error e) : ∃ x ∈ xs, (f x).value = .error e := by
  induction xs with
  | nil => cases h
  | cons x rest ih =>
    rw [List.mapM_cons, value_bind] at h
    cases first : (f x).value with
    | error e' =>
      rw [first] at h
      cases h
      exact ⟨x, List.mem_cons_self, first⟩
    | ok y =>
      rw [first, Except.bind, value_bind] at h
      cases others : Attempt.value (rest.mapM f) with
      | error e' =>
        rw [others] at h
        cases h
        obtain ⟨x', mem, failed⟩ := ih others
        exact ⟨x', List.mem_cons_of_mem x mem, failed⟩
      | ok ys =>
        rw [others] at h
        cases h

end Attempt

end ModeParameters
