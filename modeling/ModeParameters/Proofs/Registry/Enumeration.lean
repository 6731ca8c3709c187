import ModeParameters.Proofs.Registry.Acronym

/-! # Enumerating the fields of an acronym

The fields of an acronym are searched for one at a time, each search going on where the one before it
left the cursor. The cursor says both where in a table to go on and in which table, so it has to be
shown that the searches come to an end, that they skip nothing and find nothing twice, and that the
move to the fallback table is made before anything is found or not at all. -/

namespace ModeParameters

/-- A field answers to the texts that spell its acronym, in whatever case the ASCII letters are:
`Char.toLower` makes them the same. -/
theorem Field.answersTo_iff {field : Field} {acronym : String} :
    field.answersTo acronym = true ↔ ∃ own, field.acronym = some own ∧
      own.toList.map Char.toLower = acronym.toList.map Char.toLower := by
  unfold answersTo
  simp only [Option.any_eq_true, Text.alike_iff]

namespace Registry

variable {registry : Registry} {acronym : String} {space : Namespace} {cursor : FieldCursor}
  {results : List FieldMatch}

/-- Searches that each go on at `next` of the one before, until one finds nothing, have these
results. -/
inductive Enumerates (registry : Registry) (acronym : String) (space : Namespace) :
    FieldCursor → List FieldMatch → Prop
  /-- A search that finds nothing is the last one. -/
  | done {cursor : FieldCursor}
      (nothing : (registry.findField acronym space cursor).value = none) :
      Enumerates registry acronym space cursor []
  /-- A search that finds a field is followed by one from behind it. -/
  | more {cursor : FieldCursor} {found : FieldMatch} {rest : List FieldMatch}
      (first : (registry.findField acronym space cursor).value = some found)
      (onward : Enumerates registry acronym space found.next rest) :
      Enumerates registry acronym space cursor (found :: rest)

/-- From every cursor the searches come to an end, with the results `matchesFrom`. -/
theorem enumerates_matchesFrom (registry : Registry) (acronym : String) (space : Namespace)
    (cursor : FieldCursor) :
    registry.Enumerates acronym space cursor (registry.matchesFrom acronym space cursor) := by
  fun_induction matchesFrom registry acronym space cursor with
  | case1 cursor nothing => exact .done nothing
  | case2 cursor found first ih => exact .more first ih

/-- The searches from a cursor have one list of results, `matchesFrom`. -/
theorem enumerates_iff :
    registry.Enumerates acronym space cursor results ↔
      results = registry.matchesFrom acronym space cursor := by
  constructor
  · intro searches
    induction searches with
    | done nothing => exact (matchesFrom_of_none nothing).symm
    | more first _ ih => rw [matchesFrom_of_some first, ih]
  · rintro rfl
    exact enumerates_matchesFrom registry acronym space cursor

/-- The fields found in a table come in table order: `next.position` increases, so that none of its
places comes twice. -/
theorem pairwise_matchesIn (registry : Registry) (acronym : String) (table : Namespace)
    (cursor : FieldCursor) :
    (registry.matchesIn acronym table cursor).Pairwise fun found later =>
      found.next.position < later.next.position := by
  rw [matchesIn, List.pairwise_map]
  refine List.Pairwise.filter _ (List.pairwise_map.1 ?_)
  rw [List.zipIdx_map_snd]
  exact List.pairwise_lt_range'

/-- **The enumeration of an acronym is exact.** From every cursor the searches come to an end, with
one list of results. From `.start` they find the fields of the table of the namespace that answer,
each once and in table order, with this namespace. Only where the namespace is `.generic` and its
table has no such field at all, they find those of the fallback table instead, with the fallback
namespace. A field answers if its acronym is the same up to the case of ASCII letters. -/
theorem enumeration_exact (registry : Registry) (acronym : String) (space : Namespace) :
    (∀ cursor, ∃ results, ∀ others,
      registry.Enumerates acronym space cursor others ↔ others = results) ∧
    registry.Enumerates acronym space .start (registry.fieldsNamed acronym space).value ∧
    (registry.fieldsNamed acronym space).value =
      (if space = .generic ∧
          ∀ field ∈ registry.generic.fields, field.answersTo acronym = false then
        registry.matchesIn acronym .fallback ⟨0, true⟩
      else registry.matchesIn acronym space .start) ∧
    ((registry.fieldsNamed acronym space).value.Pairwise fun found later =>
      found.next.position < later.next.position) ∧
    ∀ field : Field, field.answersTo acronym = true ↔ ∃ own, field.acronym = some own ∧
      own.toList.map Char.toLower = acronym.toList.map Char.toLower := by
  have found : (registry.fieldsNamed acronym space).value =
      if space = .generic ∧
          ∀ field ∈ registry.generic.fields, field.answersTo acronym = false then
        registry.matchesIn acronym .fallback ⟨0, true⟩
      else registry.matchesIn acronym space .start := by
    split
    · next missing =>
      obtain ⟨rfl, missing⟩ := missing
      exact value_fieldsNamed_of_missing missing
    · next there => exact value_fieldsNamed_of_there there
  refine ⟨fun cursor => ⟨_, fun others => enumerates_iff⟩,
    enumerates_matchesFrom registry acronym space .start, found, ?_, fun _ => Field.answersTo_iff⟩
  rw [found]
  split <;> exact pairwise_matchesIn registry acronym _ _

end Registry

end ModeParameters
