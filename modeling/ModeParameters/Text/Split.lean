/-! # Cutting a text at a mark

A text is cut at the first or at the last place where a mark stands; the mark itself is lost. -/

namespace ModeParameters.Text

/-- What stands before and after the first `mark`, if there is one. -/
def cutFirst (mark : Char) : List Char → Option (List Char × List Char)
  | [] => none
  | c :: cs =>
    if c = mark then some ([], cs)
    else (cutFirst mark cs).map fun (before, after) => (c :: before, after)

/-- What stands before and after the last `mark`, if there is one. -/
def cutLast (mark : Char) (cs : List Char) : Option (List Char × List Char) :=
  (cutFirst mark cs.reverse).map fun (after, before) => (before.reverse, after.reverse)

/-- A text is cut where the mark first stands: `cutFirst` splits it as `before ++ mark :: after`. -/
theorem cutFirst_eq_some_iff {mark : Char} {cs before after : List Char} :
    cutFirst mark cs = some (before, after) ↔ cs = before ++ mark :: after ∧ mark ∉ before := by
  induction cs generalizing before with
  | nil => simp [cutFirst]
  | cons c cs ih =>
    rw [cutFirst]
    split
    · next h =>
      subst h
      cases before with
      | nil => simp [eq_comm]
      | cons b before => simp +contextual [eq_comm]
    · next h =>
      cases before with
      | nil => simp [h]
      | cons b before =>
        simp only [Option.map_eq_some_iff, Prod.exists, Prod.mk.injEq, List.cons.injEq]
        constructor
        · rintro ⟨_, _, found, ⟨rfl, rfl⟩, rfl⟩
          obtain ⟨rfl, unmarked⟩ := ih.1 found
          exact ⟨by simp, by simp [unmarked, Ne.symm h]⟩
        · rintro ⟨whole, unmarked⟩
          obtain ⟨rfl, rfl⟩ : c = b ∧ cs = before ++ mark :: after := by simpa using whole
          exact ⟨before, after, ih.2 ⟨rfl, by simp_all⟩, ⟨rfl, rfl⟩, rfl⟩

/-- A text is left whole by `cutFirst` exactly where no mark stands. -/
theorem cutFirst_eq_none_iff {mark : Char} {cs : List Char} :
    cutFirst mark cs = none ↔ mark ∉ cs := by
  induction cs with
  | nil => simp [cutFirst]
  | cons c cs ih =>
    rw [cutFirst]
    split
    · next h => simp [h]
    · next h => simp [ih, Ne.symm h]

/-- A text is cut where the mark last stands: `cutLast` splits it as `before ++ mark :: after`. -/
theorem cutLast_eq_some_iff {mark : Char} {cs before after : List Char} :
    cutLast mark cs = some (before, after) ↔ cs = before ++ mark :: after ∧ mark ∉ after := by
  simp only [cutLast, Option.map_eq_some_iff, Prod.exists, cutFirst_eq_some_iff, Prod.mk.injEq]
  constructor
  · rintro ⟨tail, head, ⟨backwards, unmarked⟩, rfl, rfl⟩
    refine ⟨?_, by simpa using unmarked⟩
    rw [← List.reverse_reverse cs, backwards]
    simp
  · rintro ⟨rfl, unmarked⟩
    exact ⟨after.reverse, before.reverse, ⟨by simp, by simpa using unmarked⟩, by simp, by simp⟩

end ModeParameters.Text
