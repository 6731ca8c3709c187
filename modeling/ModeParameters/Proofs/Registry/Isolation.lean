import ModeParameters.Proofs.Registry.Acronym

/-! # What a lookup cannot see

A lookup in the namespace of a transport or a vendor sees one table, and one in the generic namespace
sees the generic table and the fallback table. Registries that agree on these answer alike, in what is
found and in what is remarked. The one thing that could lead elsewhere is a cursor that has moved to the
fallback table: it goes on there, whatever namespace it is handed to. Such a cursor is reached in the
generic namespace alone. -/

namespace ModeParameters

/-- A cursor has moved to the fallback table only where a search in the namespace may, in
`.generic`. -/
def FieldCursor.StaysIn (cursor : FieldCursor) (space : Namespace) : Prop :=
  cursor.inFallback = true → space = .generic

theorem FieldCursor.staysIn_start (space : Namespace) : FieldCursor.start.StaysIn space := nofun

namespace Registry

variable {registry registry' : Registry} {space : Namespace} {acronym : String} {cursor : FieldCursor}

/-! ## Where a search goes -/

/-- A search within a namespace other than `.generic` looks at the table of the namespace, and has
nothing to remark. -/
theorem findField_of_explicit (explicit : space ≠ .generic) (stays : cursor.StaysIn space) :
    registry.findField acronym space cursor = pure (registry.matchFrom? acronym space cursor) := by
  unfold findField
  rw [if_neg fun moved => explicit (stays moved)]
  dsimp only
  rw [if_pos (.inr (.inl explicit))]

/-- The cursor behind a match, `found.next`, stays where the one before it did. -/
theorem staysIn_next (stays : cursor.StaysIn space) {found : FieldMatch}
    (h : (registry.findField acronym space cursor).value = some found) :
    found.next.StaysIn space := by
  refine fun moved => Decidable.byContradiction fun explicit => ?_
  rw [findField_of_explicit explicit stays] at h
  exact explicit (stays ((next_of_matchFrom? h).2.2 ▸ moved))

/-- The cursors that searches within a namespace come to, from the beginning on and from match to
match. -/
inductive Reaches (registry : Registry) (space : Namespace) : FieldCursor → Prop
  /-- The beginning. -/
  | start : Reaches registry space .start
  /-- The cursor behind a match, for whatever acronym it was found. -/
  | next {acronym : String} {cursor : FieldCursor} {found : FieldMatch}
      (reached : Reaches registry space cursor)
      (h : (registry.findField acronym space cursor).value = some found) :
      Reaches registry space found.next

theorem Reaches.staysIn (h : registry.Reaches space cursor) : cursor.StaysIn space := by
  induction h with
  | start => exact FieldCursor.staysIn_start space
  | next _ found ih => exact staysIn_next ih found

/-- **A match within a namespace other than `.generic`** is a field of this namespace, and says
so. -/
theorem space_of_reaches (explicit : space ≠ .generic) (reached : registry.Reaches space cursor)
    {found : FieldMatch} (h : (registry.findField acronym space cursor).value = some found) :
    found.space = space ∧ found.field ∈ (registry.table space).fields := by
  rw [findField_of_explicit explicit reached.staysIn] at h
  obtain ⟨before, rest, -, -, place⟩ := exists_of_matchFrom? h
  refine ⟨place, List.mem_of_mem_drop (i := cursor.position) ?_⟩
  rw [rest]
  exact List.mem_append_right _ List.mem_cons_self

/-! ## Registries that agree -/

/-- Two registries have the same tables wherever a lookup in a namespace may go. -/
structure AgreesFor (registry : Registry) (space : Namespace) (registry' : Registry) : Prop where
  /-- They have the same table for the namespace. -/
  own : registry'.table space = registry.table space
  /-- A lookup in `.generic` may fall back. -/
  fallback : space = .generic → registry'.table .fallback = registry.table .fallback

namespace AgreesFor

/-- The generic tables are those of the generic namespace. -/
theorem generic_eq (agree : registry.AgreesFor .generic registry') :
    registry'.generic = registry.generic := agree.own

variable (agree : registry.AgreesFor space registry')
include agree

/-- Registries that agree for `.generic` agree for `.fallback`, the one that is tried after it. -/
theorem after_fallback (generic : space = .generic) : registry.AgreesFor .fallback registry' :=
  ⟨agree.fallback generic, nofun⟩

/-- A page is found alike by `findPage`. -/
theorem findPage_eq (key : PageKey) (type : Option DeviceType) :
    registry'.findPage key type space = registry.findPage key type space := by
  unfold findPage
  rw [agree.own]
  cases space with
  | generic => rw [agree.generic_eq]
  | transport | vendor => cases (registry.table _).findPage? key type <;> cases type <;> rfl

theorem matchFrom?_eq (acronym : String) (cursor : FieldCursor) :
    registry'.matchFrom? acronym space cursor = registry.matchFrom? acronym space cursor := by
  rw [matchFrom?, agree.own]
  rfl

/-- **A field is found alike** from every cursor that `StaysIn` the tables of the namespace. -/
theorem findField_eq (stays : cursor.StaysIn space) (acronym : String) :
    registry'.findField acronym space cursor = registry.findField acronym space cursor := by
  by_cases generic : space = .generic
  · simp only [findField, agree.matchFrom?_eq, (agree.after_fallback generic).matchFrom?_eq]
  · rw [findField_of_explicit generic stays, findField_of_explicit generic stays,
      agree.matchFrom?_eq]

theorem matchesFrom_eq (stays : cursor.StaysIn space) (acronym : String) :
    registry'.matchesFrom acronym space cursor = registry.matchesFrom acronym space cursor := by
  fun_induction matchesFrom registry acronym space cursor with
  | case1 cursor nothing =>
    rw [← agree.findField_eq stays] at nothing
    exact matchesFrom_of_none nothing
  | case2 cursor found first ih =>
    have next := ih (staysIn_next stays first)
    rw [← agree.findField_eq stays] at first
    rw [matchesFrom_of_some first, next]

/-- **All fields of an acronym**, `fieldsNamed`, are found alike. -/
theorem fieldsNamed_eq (acronym : String) :
    registry'.fieldsNamed acronym space = registry.fieldsNamed acronym space := by
  have stays := FieldCursor.staysIn_start space
  rw [fieldsNamed, agree.matchesFrom_eq stays, agree.findField_eq stays]
  rfl

end AgreesFor

end Registry

end ModeParameters
