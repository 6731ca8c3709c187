import ModeParameters.Registry.Acronym

/-! # Every field of an acronym

A search for an acronym goes through one table from its beginning to its end: the table of its
namespace, or the fallback table for an acronym that the generic one does not have at all. What it
finds is that table with all other fields left out, so it depends on the acronym up to case alone.
-/

namespace ModeParameters

/-- Fields answer alike to acronyms that differ only in case, as `Text.alike` says. -/
theorem Field.answersTo_congr {acronym acronym' : String} (h : Text.alike acronym acronym' = true) :
    (fun field : Field => field.answersTo acronym') = fun field => field.answersTo acronym := by
  funext field
  unfold Field.answersTo
  cases field.acronym with
  | none => rfl
  | some own =>
    rw [Option.any_some, Option.any_some, Bool.eq_iff_iff]
    exact ⟨fun same => Text.alike_trans same (Text.alike_comm acronym acronym' ▸ h),
      fun same => Text.alike_trans same h⟩

variable {acronym : String} {position : Nat} {fields : List Field}

/-- No field is found where `answersTo` is false of all. -/
theorem firstNamed?_eq_none_iff :
    firstNamed? acronym position fields = none ↔
      ∀ field ∈ fields, field.answersTo acronym = false := by
  induction fields generalizing position with
  | nil => simp [firstNamed?]
  | cons first rest ih =>
    rw [firstNamed?, List.forall_mem_cons]
    split
    · next answers => simp [answers]
    · next silent => rw [ih, Bool.not_eq_true] at *; simp [silent]

/-- The field found is the first one for which `answersTo` is true, with the number of fields before
it. -/
theorem exists_of_firstNamed? {found : Nat} {field : Field}
    (h : firstNamed? acronym position fields = some (found, field)) :
    ∃ before after, fields = before ++ field :: after ∧ found = position + before.length ∧
      (∀ other ∈ before, other.answersTo acronym = false) ∧ field.answersTo acronym = true := by
  induction fields generalizing position with
  | nil => cases h
  | cons first rest ih =>
    rw [firstNamed?] at h
    split at h
    · next answers =>
      cases h
      exact ⟨[], rest, rfl, rfl, List.forall_mem_nil _, answers⟩
    · next silent =>
      obtain ⟨before, after, rfl, place, skipped, answers⟩ := ih h
      refine ⟨first :: before, after, rfl, ?_, ?_, answers⟩
      · rw [place, List.length_cons]
        omega
      · exact List.forall_mem_cons.2 ⟨Bool.eq_false_iff.2 silent, skipped⟩

namespace Registry

variable {registry : Registry} {space : Namespace}

/-- The namespace whose table a search goes through: `.fallback` for an acronym that is not in the
generic tables. -/
def searched (registry : Registry) (acronym : String) (space : Namespace) : Namespace :=
  if space = .generic ∧ ∀ field ∈ registry.generic.fields, field.answersTo acronym = false then
    .fallback
  else space

theorem searched_congr {acronym' : String} (h : Text.alike acronym acronym' = true) :
    registry.searched acronym' space = registry.searched acronym space := by
  have answers (field : Field) := congrFun (Field.answersTo_congr h) field
  simp only [searched, answers]

/-- A search by `findField` that finds nothing ends. -/
theorem matchesFrom_of_none {cursor : FieldCursor}
    (h : (registry.findField acronym space cursor).value = none) :
    registry.matchesFrom acronym space cursor = [] := by
  rw [matchesFrom]
  split <;> simp_all

/-- A search by `findField` that finds a field goes on behind it, at `found.next`. -/
theorem matchesFrom_of_some {cursor : FieldCursor} {found : FieldMatch}
    (h : (registry.findField acronym space cursor).value = some found) :
    registry.matchesFrom acronym space cursor =
      found :: registry.matchesFrom acronym space found.next := by
  rw [matchesFrom]
  split <;> simp_all

/-- The search goes on alike from cursors from which it takes the same first step. -/
theorem matchesFrom_congr {cursor cursor' : FieldCursor}
    (h : (registry.findField acronym space cursor').value =
      (registry.findField acronym space cursor).value) :
    registry.matchesFrom acronym space cursor' = registry.matchesFrom acronym space cursor := by
  cases first : (registry.findField acronym space cursor).value with
  | none => rw [matchesFrom_of_none first, matchesFrom_of_none (h.trans first)]
  | some found => rw [matchesFrom_of_some first, matchesFrom_of_some (h.trans first)]

/-- Nothing is found in the rest of a table, from `cursor.position` on, where no field answers. -/
theorem matchFrom?_eq_none_iff {table : Namespace} {cursor : FieldCursor} :
    registry.matchFrom? acronym table cursor = none ↔
      ∀ field ∈ (registry.table table).fields.drop cursor.position,
        field.answersTo acronym = false := by
  rw [matchFrom?, Option.map_eq_none_iff, firstNamed?_eq_none_iff]

/-- What `matchFrom?` finds in the rest of a table is its first field that answers; the search goes
on behind it. -/
theorem exists_of_matchFrom? {table : Namespace} {cursor : FieldCursor} {found : FieldMatch}
    (h : registry.matchFrom? acronym table cursor = some found) :
    ∃ before, (registry.table table).fields.drop cursor.position =
        before ++ found.field :: (registry.table table).fields.drop found.next.position ∧
      (∀ other ∈ before, other.answersTo acronym = false) ∧
      found.field.answersTo acronym = true ∧ found.space = table := by
  obtain ⟨⟨place, field⟩, first, rfl⟩ := Option.map_eq_some_iff.1 h
  obtain ⟨before, after, left, rfl, skipped, answers⟩ := exists_of_firstNamed? first
  have rest : (registry.table table).fields.drop (cursor.position + before.length + 1) = after := by
    rw [Nat.add_assoc, ← List.drop_drop, left, ← List.drop_drop, List.drop_left, List.drop_one,
      List.tail_cons]
  exact ⟨before, left.trans (by rw [rest]), skipped, answers, rfl⟩

/-- The fields of a table that answer to an acronym, from a cursor on and in table order. Each
leaves the cursor `next` on the position behind its own. -/
def matchesIn (registry : Registry) (acronym : String) (table : Namespace) (cursor : FieldCursor) :
    List FieldMatch :=
  ((((registry.table table).fields.drop cursor.position).zipIdx (cursor.position + 1)).filter
    fun entry => entry.1.answersTo acronym).map
      fun entry => ⟨entry.1, table, ⟨entry.2, cursor.inFallback⟩⟩

/-- Without the cursors, these are what the table has from `cursor.position` on, but for the fields
that do not answer. -/
theorem map_matchesIn (registry : Registry) (acronym : String) (table : Namespace)
    (cursor : FieldCursor) :
    (registry.matchesIn acronym table cursor).map (fun found => (found.field, found.space)) =
      (((registry.table table).fields.drop cursor.position).filter
        fun field => field.answersTo acronym).map fun field => (field, table) := by
  rw [← List.zipIdx_map_fst (cursor.position + 1)
    ((registry.table table).fields.drop cursor.position), List.filter_map, List.map_map, matchesIn,
    List.map_map]
  rfl

/-- Where `matchFrom?` finds no field, there is nothing to find. -/
theorem matchesIn_of_none {table : Namespace} {cursor : FieldCursor}
    (h : registry.matchFrom? acronym table cursor = none) :
    registry.matchesIn acronym table cursor = [] := by
  rw [matchFrom?_eq_none_iff] at h
  rw [matchesIn, List.filter_eq_nil_iff.2 fun entry mem => by
    simp [h entry.1 (List.fst_mem_of_mem_zipIdx mem)], List.map_nil]

/-- Behind a match the table goes on at `found.next` with what was not looked at. -/
theorem matchesIn_of_some {table : Namespace} {cursor : FieldCursor} {found : FieldMatch}
    (h : registry.matchFrom? acronym table cursor = some found) :
    registry.matchesIn acronym table cursor =
      found :: registry.matchesIn acronym table found.next := by
  obtain ⟨before, left, skipped, answers, place⟩ := exists_of_matchFrom? h
  obtain ⟨onward, within, side⟩ := next_of_matchFrom? h
  have silent : (before.zipIdx (cursor.position + 1)).filter
      (fun entry => entry.1.answersTo acronym) = [] :=
    List.filter_eq_nil_iff.2 fun entry mem => by
      simp [skipped entry.1 (List.fst_mem_of_mem_zipIdx mem)]
  -- the cursor behind the match counts the fields before it and the match itself
  have next : found.next.position = cursor.position + 1 + before.length := by
    have lengths := congrArg List.length left
    rw [List.length_append, List.length_cons, List.length_drop, List.length_drop] at lengths
    omega
  rw [matchesIn, left, List.zipIdx_append, List.zipIdx_cons, List.filter_append, silent,
    List.nil_append, List.filter_cons, if_pos answers, List.map_cons, matchesIn, ← next, ← side,
    ← place]

/-- A search that stays in one table finds what `matchesIn` has, the fields of the table that
answer. -/
theorem matchesFrom_of_stays {table : Namespace} {moved : Bool}
    (stays : ∀ cursor : FieldCursor, cursor.inFallback = moved →
      (registry.findField acronym space cursor).value = registry.matchFrom? acronym table cursor)
    (cursor : FieldCursor) (side : cursor.inFallback = moved) :
    registry.matchesFrom acronym space cursor = registry.matchesIn acronym table cursor := by
  fun_induction matchesFrom registry acronym space cursor with
  | case1 cursor nothing =>
    rw [stays cursor side] at nothing
    exact (matchesIn_of_none nothing).symm
  | case2 cursor found first ih =>
    rw [stays cursor side] at first
    -- the next step starts behind the field that was found
    rw [ih ((next_of_matchFrom? first).2.2.trans side), matchesIn_of_some first]

/-- A search that has not moved stays in the table of its namespace, unless that is `.generic` and
has no field that answers. -/
theorem findField_of_stayed
    (there : ¬(space = .generic ∧ ∀ field ∈ registry.generic.fields, field.answersTo acronym = false))
    {cursor : FieldCursor} (stayed : cursor.inFallback = false) :
    (registry.findField acronym space cursor).value = registry.matchFrom? acronym space cursor := by
  unfold findField
  rw [if_neg (by rw [stayed]; decide)]
  dsimp only
  split
  · rfl
  · next moves =>
    simp only [not_or, Decidable.not_not, Option.not_isSome_iff_eq_none,
      matchFrom?_eq_none_iff] at moves
    obtain ⟨nothing, rfl, rfl⟩ := moves
    exact absurd ⟨rfl, nothing⟩ there

/-- In the fallback table a search stays for good, `inFallback` being set. -/
theorem matchesFrom_fallback (registry : Registry) (acronym : String) (space : Namespace)
    {cursor : FieldCursor} (moved : cursor.inFallback = true) :
    registry.matchesFrom acronym space cursor = registry.matchesIn acronym .fallback cursor :=
  matchesFrom_of_stays (fun cursor moved => by rw [findField, if_pos moved, Logged.value_pure])
    cursor moved

/-- The search for an acronym that the generic table does not have starts again in `.fallback`. -/
theorem value_fieldsNamed_of_missing
    (missing : ∀ field ∈ registry.generic.fields, field.answersTo acronym = false) :
    (registry.fieldsNamed acronym .generic).value =
      registry.matchesIn acronym .fallback ⟨0, true⟩ := by
  have nothing : registry.matchFrom? acronym .generic .start = none :=
    matchFrom?_eq_none_iff.2 missing
  have step : (registry.findField acronym .generic .start).value =
      (registry.findField acronym .generic ⟨0, true⟩).value := by
    unfold findField
    simp only [nothing]
    rfl
  exact (matchesFrom_congr step).trans (matchesFrom_fallback registry acronym .generic rfl)

/-- Any other search goes through the table of its namespace. -/
theorem value_fieldsNamed_of_there
    (there : ¬(space = .generic ∧
      ∀ field ∈ registry.generic.fields, field.answersTo acronym = false)) :
    (registry.fieldsNamed acronym space).value = registry.matchesIn acronym space .start :=
  matchesFrom_of_stays (fun _ => findField_of_stayed there) .start rfl

/-- **The fields of an acronym** are those that answer to it in the table `searched`, in table
order, each with the namespace of that table. -/
theorem map_fieldsNamed (registry : Registry) (acronym : String) (space : Namespace) :
    (registry.fieldsNamed acronym space).value.map (fun found => (found.field, found.space)) =
      ((registry.table (registry.searched acronym space)).fields.filter
        fun field => field.answersTo acronym).map
          fun field => (field, registry.searched acronym space) := by
  unfold searched
  split
  · next missing =>
    obtain ⟨rfl, missing⟩ := missing
    rw [value_fieldsNamed_of_missing missing, map_matchesIn, List.drop_zero]
  · next there =>
    rw [value_fieldsNamed_of_there there, map_matchesIn]
    rfl

/-- Every field of an acronym is in the tables that its match names, which are those `searched`. -/
theorem space_of_mem_fieldsNamed {found : FieldMatch}
    (h : found ∈ (registry.fieldsNamed acronym space).value) :
    found.space = registry.searched acronym space ∧
      found.field ∈ (registry.table found.space).fields := by
  have image := List.mem_map_of_mem (f := fun found => (found.field, found.space)) h
  rw [map_fieldsNamed] at image
  obtain ⟨field, mem, same⟩ := List.mem_map.1 image
  obtain ⟨rfl, place⟩ := Prod.mk.inj same
  exact ⟨place.symm, place ▸ (List.mem_filter.1 mem).1⟩

/-- From `.generic` a search goes on to `.fallback` at most. -/
theorem searched_generic_cases (registry : Registry) (acronym : String) :
    registry.searched acronym .generic = .generic ∨
      registry.searched acronym .generic = .fallback := by
  unfold searched
  split
  · exact .inr rfl
  · exact .inl rfl

end Registry

end ModeParameters
