import ModeParameters.Proofs.Item.Resolution
import ModeParameters.Registry.Sample

/-! # The field at raw coordinates

Raw coordinates take the name of a field of the tables at the same place. The tables are searched for
the bit that the field begins at, and the width is compared with the first field that begins there. A
field of another width that comes earlier in the table therefore hides the one that is meant, and the
coordinates stay nameless. -/

namespace ModeParameters

/-- A field of a page begins at the first bit of a span, `startBit` of `startByte`. -/
structure Field.BeginsAt (field : Field) (page : PageKey) (span : BitSpan) : Prop where
  /-- It belongs to the page. -/
  page_eq : field.page = page
  /-- It begins in the same byte. -/
  startByte_eq : field.span.startByte = span.startByte
  /-- It begins at the same bit of this byte. -/
  startBit_eq : field.span.startBit = span.startBit

/-- A field is exactly at a span when it `BeginsAt` the span and has the same width. -/
theorem Field.beginsAt_and_width_iff {field : Field} {page : PageKey} {span : BitSpan} :
    field.BeginsAt page span ∧ field.span.width = span.width ↔
      field.page = page ∧ field.span = span := by
  constructor
  · rintro ⟨⟨same, startByte, startBit⟩, width⟩
    have parts : field.span = ⟨field.span.startByte, field.span.startBit, field.span.width⟩ := rfl
    exact ⟨same, by rw [parts, startByte, startBit, width]⟩
  · rintro ⟨rfl, rfl⟩
    exact ⟨⟨rfl, rfl, rfl⟩, rfl⟩

/-! ## Searching a table -/

namespace PageTable

variable {table : PageTable} {page : PageKey} {span : BitSpan} {field : Field}

/-- The table describes a field of the page at exactly these coordinates. -/
def HasFieldAt (table : PageTable) (page : PageKey) (span : BitSpan) : Prop :=
  ∃ field ∈ table.fields, field.page = page ∧ field.span = span

/-- A field of another width hides what the table has at these coordinates: of the fields of the
page for which `BeginsAt` holds, it is the first one in the table. -/
def Hides (table : PageTable) (page : PageKey) (span : BitSpan) : Prop :=
  ∃ before first after, table.fields = before ++ first :: after ∧
    (∀ other ∈ before, ¬ other.BeginsAt page span) ∧ first.BeginsAt page span ∧
    first.span.width ≠ span.width

/-- What the search by first bit, `fieldAt?`, compares. -/
theorem beginsAt_iff : field.BeginsAt page span ↔
    (field.page == page && field.span.startByte == span.startByte &&
      field.span.startBit == span.startBit) = true := by
  simp only [Bool.and_eq_true, beq_iff_eq]
  exact ⟨fun h => ⟨⟨h.page_eq, h.startByte_eq⟩, h.startBit_eq⟩, fun h => ⟨h.1.1, h.1.2, h.2⟩⟩

/-- The search by first bit finds the first field of the table that `BeginsAt` the span. -/
theorem fieldAt?_eq_some_iff :
    table.fieldAt? page span.startByte span.startBit = some field ↔
      field.BeginsAt page span ∧ ∃ before after, table.fields = before ++ field :: after ∧
        ∀ other ∈ before, ¬ other.BeginsAt page span := by
  unfold fieldAt?
  simp only [List.find?_eq_some_iff_append, Bool.not_eq_true', ← Bool.not_eq_true, ← beginsAt_iff]

/-- The search by first bit finds nothing where no field of the table `BeginsAt` the span. -/
theorem fieldAt?_eq_none_iff :
    table.fieldAt? page span.startByte span.startBit = none ↔
      ∀ field ∈ table.fields, ¬ field.BeginsAt page span := by
  unfold fieldAt?
  simp only [List.find?_eq_none, ← beginsAt_iff]

/-- Coordinates are hidden when `fieldAt?` comes to a field of another width. -/
theorem hides_iff : table.Hides page span ↔ ∃ first,
    table.fieldAt? page span.startByte span.startBit = some first ∧ first.span.width ≠ span.width := by
  simp only [fieldAt?_eq_some_iff]
  constructor
  · rintro ⟨before, first, after, split, none, begins, width⟩
    exact ⟨first, ⟨begins, before, after, split, none⟩, width⟩
  · rintro ⟨first, ⟨begins, before, after, split, none⟩, width⟩
    exact ⟨before, first, after, split, none, begins, width⟩

end PageTable

/-! ## Naming coordinates -/

namespace LookupContext

variable {context : LookupContext} {page : PageKey} {span : BitSpan}

/-- The table that places are looked up in, that of `context.space`. -/
def places (context : LookupContext) : PageTable := context.registry.table context.space

/-- The field that `fieldAt?` comes to is taken if it has the right width. -/
theorem fieldAtSpan_of_found {first : Field}
    (found : context.places.fieldAt? page span.startByte span.startBit = some first) :
    context.fieldAtSpan page span =
      if first.span.width = span.width then first else .ofSpan page span := by
  unfold places at found
  rw [fieldAtSpan, found, Option.filter_some]
  by_cases width : first.span.width = span.width <;> simp [width]

/-- Hidden coordinates stay nameless: they mean `Field.ofSpan`. -/
theorem fieldAtSpan_of_hides (hidden : context.places.Hides page span) :
    context.fieldAtSpan page span = .ofSpan page span := by
  obtain ⟨first, found, width⟩ := PageTable.hides_iff.1 hidden
  rw [fieldAtSpan_of_found found, if_neg width]

/-- Coordinates that the table has no field at stay nameless: they mean `Field.ofSpan`. -/
theorem fieldAtSpan_of_not_hasFieldAt (free : ¬ context.places.HasFieldAt page span) :
    context.fieldAtSpan page span = .ofSpan page span := by
  by_cases hidden : context.places.Hides page span
  · exact fieldAtSpan_of_hides hidden
  · cases found : context.places.fieldAt? page span.startByte span.startBit with
    | none =>
      unfold places at found
      rw [fieldAtSpan, found]
      rfl
    | some first =>
      -- a field that begins there is hiding them or else just what they mean
      obtain ⟨begins, before, after, split, -⟩ := PageTable.fieldAt?_eq_some_iff.1 found
      have mem : first ∈ context.places.fields := by simp [split]
      by_cases width : first.span.width = span.width
      · exact absurd ⟨first, mem, Field.beginsAt_and_width_iff.1 ⟨begins, width⟩⟩ free
      · exact absurd (PageTable.hides_iff.2 ⟨first, found, width⟩) hidden

/-- Coordinates for which `HasFieldAt` holds and that the table does not hide mean such a field. -/
theorem fieldAtSpan_mem (described : context.places.HasFieldAt page span)
    (clear : ¬ context.places.Hides page span) :
    context.fieldAtSpan page span ∈ context.places.fields := by
  obtain ⟨field, mem, exact⟩ := described
  have begins := (Field.beginsAt_and_width_iff.2 exact).1
  cases found : context.places.fieldAt? page span.startByte span.startBit with
  | none => exact absurd begins (PageTable.fieldAt?_eq_none_iff.1 found field mem)
  | some first =>
    have width : first.span.width = span.width := by
      by_contra width
      exact clear (PageTable.hides_iff.2 ⟨first, found, width⟩)
    rw [fieldAtSpan_of_found found, if_pos width]
    obtain ⟨-, before, after, split, -⟩ := PageTable.fieldAt?_eq_some_iff.1 found
    simp [split]

/-- What coordinates of a page are bound to, `field` being the field. -/
structure NamedAt (context : LookupContext) (page : PageKey) (span : BitSpan) (field : Field) :
    Prop where
  /-- A field that the table has there and does not hide is taken from the table as it is. -/
  named : context.places.HasFieldAt page span → ¬ context.places.Hides page span →
    field ∈ context.places.fields ∧ field.page = page ∧ field.span = span
  /-- Where the table has no field, or hides it, there is only the raw field, `Field.ofSpan`. -/
  raw : ¬ context.places.HasFieldAt page span ∨ context.places.Hides page span →
    field = .ofSpan page span

/-- The field that `fieldAtSpan` finds is named as far as the table lets it be. -/
theorem namedAt_fieldAtSpan (context : LookupContext) (page : PageKey) (span : BitSpan) :
    context.NamedAt page span (context.fieldAtSpan page span) where
  named described clear := ⟨fieldAtSpan_mem described clear, page_span_fieldAtSpan context page span⟩
  raw
    | .inl free => fieldAtSpan_of_not_hasFieldAt free
    | .inr hidden => fieldAtSpan_of_hides hidden

/-- Coordinates that `bind` binds are named as far as the table lets them be. -/
theorem namedAt_of_bind {settled : Option PageKey} {item : Item} {binding : Binding}
    (bound : (context.bind settled item).value = .ok binding) (named : item.name = .coordinates span) :
    context.NamedAt (settled.getD binding.field.page) span binding.field := by
  obtain ⟨field, found, rfl⟩ := bind_eq_ok_iff.1 bound
  obtain ⟨key, rfl, -, -, rfl⟩ := (fieldOf_coordinates_eq_ok_iff named).1 found
  exact namedAt_fieldAtSpan context key span

/-- **Which raw coordinates get a name.** In every request the coordinates of a field that the table
describes are bound to a field of the table, unless it `Hides` them: a field of another width that
begins at the same bit comes first; they are bound to the raw field everywhere else. Usable
coordinates that end within the largest response are always bound, on any page. -/
theorem coordinates_named (context : LookupContext) :
    (∀ items page request, (context.resolve items page).value = .ok request →
      List.Forall₂ (fun item binding => ∀ span, item.name = .coordinates span →
        context.NamedAt request.page span binding.field) items request.bindings) ∧
    ∀ (item : Item) span page, item.name = .coordinates span → span.WellFormed →
      span.startByte + span.touched ≤ addressEnd →
        ∃ field, (context.resolve [item] (some page)).value = .ok ⟨page, [item.bindTo field]⟩ ∧
          context.NamedAt page span field := by
  refine ⟨fun items page request resolved => ?_, fun item span page named usable ends => ?_⟩
  · rcases bound_of_bindAll (resolve_eq_ok_iff.1 resolved) with ⟨rfl, same, -⟩ | ⟨key, same, -, all⟩
    · rw [same]
      exact .nil
    · cases same
      refine all.imp fun item binding ⟨before, bound, settled⟩ span named => ?_
      rw [← settled]
      exact namedAt_of_bind bound named
  · have found : (context.fieldOf (some page) item).value = .ok (context.fieldAtSpan page span) :=
      (fieldOf_coordinates_eq_ok_iff named).2 ⟨page, rfl, usable, ends, rfl⟩
    exact ⟨_, resolve_singleton_eq_ok_iff.2 ⟨_, bind_eq_ok_iff.2 ⟨_, found, rfl⟩, rfl⟩,
      namedAt_fieldAtSpan context page span⟩

end LookupContext

/-! ## A field that is hidden -/

namespace Sample

open ModeParameters.Field (named)

/-- A table in which a short and a long field begin at the same bit, the short one first. They are told
apart by the ids of descriptors. -/
def overlaidRegistry : Registry :=
  { generic :=
      { fields :=
        [(named "SHORT" caching.key ⟨2, 7, 8⟩ "First byte").withDescriptorId 0,
         (named "LONG" caching.key ⟨2, 7, 16⟩ "Both bytes").withDescriptorId 1] } }

/-- The table of `overlaidRegistry` as a disk sees it. -/
def overlaid : LookupContext := ⟨overlaidRegistry, .generic, some .disk⟩

/-- The first byte, to be read. -/
def firstByte : Item := ⟨"2:7:8", .coordinates ⟨2, 7, 8⟩, none, none⟩

/-- Both bytes, to be read. -/
def bothBytes : Item := ⟨"2:7:16", .coordinates ⟨2, 7, 16⟩, none, none⟩

/-- The coordinates `2:7:8` of the field that comes first are named after it. -/
theorem first_byte_named :
    ∃ field, (overlaid.resolve [firstByte] (some caching.key)).value =
        .ok ⟨caching.key, [firstByte.bindTo field]⟩ ∧
      field ∈ overlaidRegistry.generic.fields ∧ field.span = ⟨2, 7, 8⟩ := by
  obtain ⟨field, bound, named⟩ := (LookupContext.coordinates_named overlaid).2 firstByte ⟨2, 7, 8⟩
    caching.key rfl ⟨by decide, by decide, by decide⟩ (by decide)
  have clear : ¬ overlaid.places.Hides caching.key ⟨2, 7, 8⟩ := by
    rw [PageTable.hides_iff]
    rintro ⟨first, found, width⟩
    cases found
    exact width rfl
  obtain ⟨mem, -, same⟩ := named.named ⟨_, .head _, rfl, rfl⟩ clear
  exact ⟨field, bound, mem, same⟩

/-- **The field that comes second stays hidden.** The table has a field at exactly `2:7:16`, and yet
these coordinates are bound to the raw field. -/
theorem both_bytes_nameless :
    overlaid.places.HasFieldAt caching.key ⟨2, 7, 16⟩ ∧
      overlaid.places.Hides caching.key ⟨2, 7, 16⟩ ∧
      (overlaid.resolve [bothBytes] (some caching.key)).value =
        .ok ⟨caching.key, [bothBytes.bindTo (.ofSpan caching.key ⟨2, 7, 16⟩)]⟩ := by
  have hidden : overlaid.places.Hides caching.key ⟨2, 7, 16⟩ :=
    ⟨[], _, _, rfl, fun _ mem => absurd mem List.not_mem_nil, ⟨rfl, rfl, rfl⟩, by decide⟩
  refine ⟨⟨_, .tail _ (.head _), rfl, rfl⟩, hidden, ?_⟩
  decide +kernel

end Sample

end ModeParameters
