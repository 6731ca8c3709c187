import ModeParameters.Proofs.Attempt
import ModeParameters.Proofs.Session.Effects

/-! # Outcomes that agree up to labels

What an item or a field is called goes into errors and reports, and nowhere else. Two computations that
differ in that alone come to related results, or fail for the same reason. Chains, lists and folds of
steps that agree agree, and so do sessions: they issue the same commands and leave the device in the
same state. -/

namespace ModeParameters

/-! ## Errors without labels -/

/-- An item error with the item left blank. -/
def ItemError.unlabelled : ItemError → ItemError
  | .pageContradiction _ expected found => .pageContradiction "" expected found
  | .coordinatesOutOfRange _ cause => .coordinatesOutOfRange "" cause
  | .badItemSyntax _ => .badItemSyntax ""
  | .badValue _ value => .badValue "" value
  | .descriptorIndexOutOfRange _ page index count => .descriptorIndexOutOfRange "" page index count
  | .pageRequired _ => .pageRequired ""
  | error => error

/-- A response error with the field left blank. -/
def ResponseError.unlabelled : ResponseError → ResponseError
  | .fieldBeyondPage _ page startByte pageLength => .fieldBeyondPage "" page startByte pageLength
  | error => error

/-- An error with the item or the field left blank. -/
def Error.unlabelled : Error → Error
  | .item error => .item error.unlabelled
  | .response error => .response error.unlabelled
  | error => error

/-! ## Outcomes -/

section Outcomes

variable {α α' β β' : Type} {R : α → α' → Prop} {S : β → β' → Prop}

/-- Two outcomes agree: both are results, and related by `R`, or both are errors, and the same up to
the label. -/
inductive SameOutcome (R : α → α' → Prop) : Except Error α → Except Error α' → Prop
  /-- Related results. -/
  | ok {a : α} {a' : α'} (related : R a a') : SameOutcome R (.ok a) (.ok a')
  /-- The same error, but for its label: as `unlabelled` leaves them, both are equal. -/
  | error {e e' : Error} (same : e'.unlabelled = e.unlabelled) :
      SameOutcome R (.error e) (.error e')

namespace SameOutcome

theorem refl (x : Except Error α) : SameOutcome Eq x x := by
  cases x with
  | error e => exact .error rfl
  | ok a => exact .ok rfl

/-- Steps that agree after outcomes that agree. -/
theorem bind {x : Except Error α} {x' : Except Error α'} {f : α → Except Error β}
    {f' : α' → Except Error β'} (h : SameOutcome R x x')
    (step : ∀ a a', R a a' → SameOutcome S (f a) (f' a')) :
    SameOutcome S (x.bind f) (x'.bind f') := by
  cases h with
  | ok related => exact step _ _ related
  | error same => exact .error same

/-- Images of outcomes that agree: `map` takes them to outcomes that agree. -/
theorem map {x : Except Error α} {x' : Except Error α'} {f : α → β} {f' : α' → β'}
    (h : SameOutcome R x x') (step : ∀ a a', R a a' → S (f a) (f' a')) :
    SameOutcome S (x.map f) (x'.map f') := by
  cases h with
  | ok related => exact .ok (step _ _ related)
  | error same => exact .error same

/-- Folds with `foldlM` of steps that agree over related lists. -/
theorem foldlM {T : β → β' → Prop} {f : α → β → Attempt Error α} {f' : α' → β' → Attempt Error α'}
    (step : ∀ a a' b b', R a a' → T b b' → SameOutcome R (f a b).value (f' a' b').value)
    {bs : List β} {bs' : List β'} (related : List.Forall₂ T bs bs') {a : α} {a' : α'} (h : R a a') :
    SameOutcome R (bs.foldlM f a).value (bs'.foldlM f' a').value := by
  induction related generalizing a a' with
  | nil => exact .ok h
  | cons first _ ih =>
    rw [List.foldlM_cons, List.foldlM_cons, Attempt.value_bind, Attempt.value_bind]
    exact (step _ _ _ _ h first).bind fun _ _ => ih

/-- Lists made by `mapM` of steps that agree over related lists. -/
theorem mapM {f : α → Attempt Error β} {f' : α' → Attempt Error β'}
    (step : ∀ a a', R a a' → SameOutcome S (f a).value (f' a').value)
    {as : List α} {as' : List α'} (related : List.Forall₂ R as as') :
    SameOutcome (List.Forall₂ S) (Attempt.value (as.mapM f)) (Attempt.value (as'.mapM f')) := by
  induction related with
  | nil => exact .ok .nil
  | cons first _ ih =>
    rw [List.mapM_cons, List.mapM_cons, Attempt.value_bind, Attempt.value_bind]
    refine (step _ _ first).bind fun b b' head => ?_
    rw [Attempt.value_bind, Attempt.value_bind]
    exact ih.bind fun rest rest' tail => .ok (.cons head tail)

end SameOutcome

end Outcomes

/-! ## Effects -/

variable {σ α α' β β' : Type} {R : α → α' → Prop} {S : β → β' → Prop}

/-- Two effects agree: they issue the same commands, leave the same state and come to outcomes that
agree, as `SameOutcome` says. -/
structure Effect.Agrees (R : α → α' → Prop) (e : Effect σ α) (e' : Effect σ α') : Prop where
  /-- Both come to something, or both fail. -/
  result : SameOutcome R e.result e'.result
  /-- The same commands are issued, in the same order. -/
  issued_eq : e'.issued = e.issued
  /-- The device is left in the same state. -/
  final_eq : e'.final = e.final

theorem Effect.Agrees.refl (e : Effect σ α) : Effect.Agrees Eq e e := ⟨.refl _, rfl, rfl⟩

/-- Steps that agree, by `andThen` after effects that agree. -/
theorem Effect.Agrees.andThen {e : Effect σ α} {e' : Effect σ α'} {f : α → σ → Effect σ β}
    {f' : α' → σ → Effect σ β'} (h : Effect.Agrees R e e')
    (step : ∀ a a' state, R a a' → Effect.Agrees S (f a state) (f' a' state)) :
    Effect.Agrees S (e.andThen f) (e'.andThen f') := by
  obtain ⟨result, issued, final⟩ := e
  obtain ⟨result', issued', final'⟩ := e'
  obtain ⟨same, rfl, rfl⟩ := h
  cases same with
  | error same => exact ⟨.error same, rfl, rfl⟩
  | ok related =>
    obtain ⟨next, issued_eq, final_eq⟩ := step _ _ final' related
    exact ⟨next, congrArg (issued' ++ ·) issued_eq, final_eq⟩

end ModeParameters
