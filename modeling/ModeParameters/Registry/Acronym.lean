import ModeParameters.Registry.Basic

/-! # Fields by acronym

An acronym may name fields on several pages. They are enumerated one by one with a cursor, which says
where in which table to go on. A search of the generic namespace that finds nothing at all moves to
the fallback table and stays there; results of the two tables are never mixed. -/

namespace ModeParameters

/-- Where a search for an acronym goes on. -/
structure FieldCursor where
  /-- The first position of the table still to be looked at. -/
  position : Nat := 0
  /-- The search has moved to the table of `Namespace.fallback`. -/
  inFallback : Bool := false
deriving DecidableEq, Repr

namespace FieldCursor

/-- The beginning of a search. -/
def start : FieldCursor := {}

end FieldCursor

/-- A field found by its acronym, as `Registry.findField` gives it. -/
structure FieldMatch where
  /-- The field. -/
  field : Field
  /-- The namespace whose table it is in. -/
  space : Namespace
  /-- Where the search goes on. -/
  next : FieldCursor
deriving DecidableEq, Repr

/-- The first field that `answersTo` an acronym, and its position when the list starts at
`position`. -/
def firstNamed? (acronym : String) : Nat → List Field → Option (Nat × Field)
  | _, [] => none
  | position, field :: rest =>
    if field.answersTo acronym then some (position, field)
    else firstNamed? acronym (position + 1) rest

theorem le_of_firstNamed? {acronym : String} {position found : Nat} {fields : List Field}
    {field : Field} (h : firstNamed? acronym position fields = some (found, field)) :
    position ≤ found ∧ found < position + fields.length := by
  induction fields generalizing position with
  | nil => cases h
  | cons first rest ih =>
    rw [firstNamed?] at h
    split at h
    · cases h
      simp
    · have := ih h
      simp only [List.length_cons]
      omega

namespace Registry

/-- The first match in the table of a namespace, from the `position` of a cursor on. -/
def matchFrom? (registry : Registry) (acronym : String) (space : Namespace)
    (cursor : FieldCursor) : Option FieldMatch :=
  (firstNamed? acronym cursor.position ((registry.table space).fields.drop cursor.position)).map
    fun (position, field) => ⟨field, space, ⟨position + 1, cursor.inFallback⟩⟩

/-- The next field with an acronym, from a cursor on. In the `generic` namespace a search that finds
nothing from the start on goes over to the table of `fallback`. -/
def findField (registry : Registry) (acronym : String) (space : Namespace) (cursor : FieldCursor) :
    Logged (Option FieldMatch) :=
  if cursor.inFallback then pure (registry.matchFrom? acronym .fallback cursor)
  else
    let found := registry.matchFrom? acronym space cursor
    if found.isSome ∨ space ≠ .generic ∨ cursor ≠ .start then pure found
    else do
      Logged.remark .debug s!"acronym {acronym} not in generic tables, trying {Namespace.fallback}"
      return registry.matchFrom? acronym .fallback ⟨0, true⟩

/-- How much of the tables a search still has before it, which `matchesFrom` goes down by. -/
def remaining (registry : Registry) (space : Namespace) (cursor : FieldCursor) : Nat :=
  if cursor.inFallback then (registry.table .fallback).fields.length - cursor.position
  else (registry.table .fallback).fields.length + 1 +
    ((registry.table space).fields.length - cursor.position)

/-- A match found in a table leaves the cursor behind it: `found.next` is further on in the same
table. -/
theorem next_of_matchFrom? {registry : Registry} {acronym : String} {space : Namespace}
    {cursor : FieldCursor} {found : FieldMatch}
    (h : registry.matchFrom? acronym space cursor = some found) :
    cursor.position < found.next.position ∧
      found.next.position ≤ (registry.table space).fields.length ∧
      found.next.inFallback = cursor.inFallback := by
  obtain ⟨⟨position, field⟩, first, rfl⟩ := Option.map_eq_some_iff.1 h
  obtain ⟨after, within⟩ := le_of_firstNamed? first
  rw [List.length_drop] at within
  refine ⟨?_, ?_, rfl⟩ <;> simp only <;> omega

/-- Each match leaves less of the tables: `remaining` decreases. -/
theorem remaining_lt_of_findField {registry : Registry} {acronym : String} {space : Namespace}
    {cursor : FieldCursor} {found : FieldMatch}
    (h : (registry.findField acronym space cursor).value = some found) :
    registry.remaining space found.next < registry.remaining space cursor := by
  unfold findField at h
  split at h
  · -- already in the fallback table: the position moves on there
    next moved =>
    obtain ⟨before, within, stays⟩ := next_of_matchFrom? h
    simp only [remaining, stays, moved, if_true]
    omega
  · next notMoved =>
    simp only at h
    split at h
    · -- in the table of the namespace: the position moves on there
      obtain ⟨before, within, stays⟩ := next_of_matchFrom? h
      simp only [remaining, stays, notMoved]
      simp only [Bool.false_eq_true, if_false]
      omega
    · -- the search moves to the fallback table, which it does once
      obtain ⟨before, within, stays⟩ := next_of_matchFrom? h
      simp only [remaining, stays, notMoved, if_true]
      simp only [Bool.false_eq_true, if_false]
      omega

/-- Every match from a cursor on, each found by `findField` behind the one before it. -/
def matchesFrom (registry : Registry) (acronym : String) (space : Namespace)
    (cursor : FieldCursor) : List FieldMatch :=
  match _found : (registry.findField acronym space cursor).value with
  | none => []
  | some found => found :: registry.matchesFrom acronym space found.next
termination_by registry.remaining space cursor
decreasing_by exact remaining_lt_of_findField _found

/-- Every field with an acronym, `matchesFrom` the start. Only the first step of the search has
anything to remark. -/
def fieldsNamed (registry : Registry) (acronym : String) (space : Namespace) :
    Logged (List FieldMatch) :=
  ⟨registry.matchesFrom acronym space .start, (registry.findField acronym space .start).log⟩

end Registry

end ModeParameters
