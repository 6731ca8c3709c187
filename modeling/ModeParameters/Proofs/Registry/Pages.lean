import ModeParameters.Registry.Basic

/-! # Which tables describe a page

The tables of a namespace describe a page when one of their entries for it is for the device; among
the generic ones an entry for the family of the device will do. These are just the pages that a
lookup in this namespace finds, and it finds them whatever is in the tables of the others. -/

namespace ModeParameters.Registry

variable {registry : Registry} {space : Namespace} {key : PageKey} {type : Option DeviceType}
  {entry : PageEntry}

/-- The tables of a namespace have an entry for a page that applies to a device of this `type`. -/
def Describes (registry : Registry) (space : Namespace) (key : PageKey) (type : Option DeviceType) :
    Prop :=
  ∃ entry ∈ (registry.table space).pages, entry.key = key ∧
    (entry.filter.accepts type = true ∨ space = .generic ∧
      ∃ exact, type = some exact ∧ entry.filter.accepts (some exact.family) = true)

/-- What a lookup of a page finds: an entry for exactly this `type`, or else, in `.generic`, one for
its family. -/
theorem value_findPage (registry : Registry) (key : PageKey) (type : Option DeviceType)
    (space : Namespace) :
    (registry.findPage key type space).value =
      ((registry.table space).findPage? key type).or
        (if space = .generic then
          type.bind fun exact => (registry.table space).findPage? key (some exact.family)
        else none) := by
  unfold findPage
  cases found : (registry.table space).findPage? key type with
  | some entry => rfl
  | none =>
    rw [Option.none_or]
    cases space with
    | transport => rfl
    | vendor => rfl
    | generic =>
      cases type with
      | none => rfl
      | some exact =>
        dsimp only
        rw [if_pos rfl, Option.bind_some]
        split
        · next same => rw [same, found, Logged.value_pure]
        · rfl

/-- An entry that `findPage` finds is in the tables of the namespace, and is for the page. -/
theorem mem_pages_of_findPage (h : (registry.findPage key type space).value = some entry) :
    entry ∈ (registry.table space).pages ∧ entry.key = key := by
  have found : ∃ type', (registry.table space).findPage? key type' = some entry := by
    rw [value_findPage, Option.or_eq_some_iff] at h
    rcases h with exact | ⟨-, family⟩
    · exact ⟨_, exact⟩
    · rw [Option.ite_none_right_eq_some] at family
      obtain ⟨exact, -, found⟩ := Option.bind_eq_some_iff.1 family.2
      exact ⟨_, found⟩
  obtain ⟨type', found⟩ := found
  have fits := List.find?_some found
  rw [Bool.and_eq_true, beq_iff_eq] at fits
  exact ⟨List.mem_of_find?_eq_some found, fits.1⟩

/-- **A page is found** exactly where the tables have an entry for it, as `Describes` says. -/
theorem isSome_findPage_iff :
    (registry.findPage key type space).value.isSome = true ↔ registry.Describes space key type := by
  rw [value_findPage, Option.isSome_or, Bool.or_eq_true]
  have search (type' : Option DeviceType) :
      ((registry.table space).findPage? key type').isSome = true ↔
        ∃ entry ∈ (registry.table space).pages,
          entry.key = key ∧ entry.filter.accepts type' = true := by
    simp [PageTable.findPage?, List.find?_isSome]
  constructor
  · rintro (exact | family)
    · obtain ⟨entry, mem, same, accepts⟩ := (search type).1 exact
      exact ⟨entry, mem, same, .inl accepts⟩
    · split at family
      · next generic =>
        cases type with
        | none => cases family
        | some exact =>
          obtain ⟨entry, mem, same, accepts⟩ := (search _).1 family
          exact ⟨entry, mem, same, .inr ⟨generic, exact, rfl, accepts⟩⟩
      · cases family
  · rintro ⟨entry, mem, same, accepts | ⟨generic, exact, rfl, accepts⟩⟩
    · exact .inl ((search type).2 ⟨entry, mem, same, accepts⟩)
    · rw [if_pos generic]
      exact .inr ((search _).2 ⟨entry, mem, same, accepts⟩)

/-- No page is found where `Describes` does not hold. -/
theorem findPage_eq_none_iff :
    (registry.findPage key type space).value = none ↔ ¬ registry.Describes space key type := by
  rw [← isSome_findPage_iff, Option.not_isSome_iff_eq_none]

/-! ## One namespace alone -/

/-- The registry with the tables of one namespace and nothing else. -/
def only (registry : Registry) (space : Namespace) : Registry where
  generic := if space = .generic then registry.generic else {}
  transports transport := if space = .transport transport then registry.transports transport else {}
  vendors vendor := if space = .vendor vendor then registry.vendors vendor else {}

@[simp] theorem table_only (registry : Registry) (space other : Namespace) :
    (registry.only space).table other = if space = other then registry.table other else {} := by
  cases other <;> rfl

/-- A page is looked for in the tables of one namespace alone: `only` keeps what is found. -/
theorem value_findPage_only (registry : Registry) (key : PageKey) (type : Option DeviceType)
    (space : Namespace) :
    ((registry.only space).findPage key type space).value =
      (registry.findPage key type space).value := by
  rw [value_findPage, value_findPage, table_only, if_pos rfl]

end ModeParameters.Registry
