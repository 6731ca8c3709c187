import ModeParameters.Proofs.Item.Resolution
import ModeParameters.Registry.Sample

/-! # What an acronym comes to

An acronym may be defined more than once: on several pages, for several types of devices, in several
tables. Three things narrow the definitions down, one after the other. The table is chosen first, by
whether any field in it answers at all; of the fields that answer there, those for the device are
kept; of these, the page that is settled picks one. The order matters. Definitions for other devices
keep a search from falling back, and the page never brings back what an earlier choice left out. -/

namespace ModeParameters.LookupContext

variable {context : LookupContext} {page : Option PageKey} {item : Item} {acronym : String}
  {index : Option Nat} {found : List Field}

/-- The definitions of an acronym that hold for the device, in table order: of the table that is
searched, the fields that answer, and of these the ones for `context.type` or its family. -/
def definitions (context : LookupContext) (acronym : String) : List Field :=
  ((context.registry.table (context.registry.searched acronym context.space)).fields.filter
    fun field => field.answersTo acronym).filter fun field => field.filter.applies context.type

/-- The candidates for an acronym are its `definitions`. -/
theorem value_candidates_eq_definitions (context : LookupContext) (acronym : String) :
    (context.candidates acronym).value = context.definitions acronym := by
  rw [value_candidates, definitions, List.filter_filter]

/-! ## The choice among definitions -/

/-- An acronym is unknown if nothing is `found`. -/
theorem choose_eq_unknown_iff {acronym' : String} {space : Namespace} :
    context.choose acronym index page found = .error (.unknownAcronym acronym' space) ↔
      found = [] ∧ acronym' = acronym ∧ space = context.space := by
  cases found with
  | nil => simp [choose, eq_comm]
  | cons first rest =>
    refine iff_of_false ?_ (by simp)
    cases page with
    | none => nofun
    | some key =>
      simp only [choose]
      cases (first :: rest).find? fun field => field.page == key <;> nofun

/-- While the page is open, `found.head?` is taken, the first field. -/
theorem choose_none_eq_ok_iff {field : Field} :
    context.choose acronym index none found = .ok field ↔ found.head? = some field := by
  cases found with
  | nil => simp [choose]
  | cons first rest => simp [choose]

/-- On a settled page, the first field of the page is taken. -/
theorem choose_some_eq_ok_iff {key : PageKey} {field : Field} :
    context.choose acronym index (some key) found = .ok field ↔
      field.page = key ∧ ∃ before after, found = before ++ field :: after ∧
        ∀ other ∈ before, other.page ≠ key := by
  rw [choose_eq_ok_iff]
  simp only [Option.all_some, List.find?_eq_some_iff_append, beq_iff_eq, Bool.not_eq_true',
    beq_eq_false_iff_ne]

/-- The settled page is contradicted if something is found, and nothing on this page. The first
field is then named, by its label at `index`, with the page that it is on. -/
theorem choose_eq_contradiction_iff {label : String} {expected other : PageKey} :
    context.choose acronym index page found =
        .error (.pageContradiction label expected other) ↔
      page = some expected ∧ (∀ field ∈ found, field.page ≠ expected) ∧
        ∃ first rest, found = first :: rest ∧ label = first.labelAt (index.getD 0) ∧
          other = first.page := by
  cases found with
  | nil => simp [choose]
  | cons first rest =>
    cases page with
    | none => simp [choose]
    | some key =>
      simp only [choose]
      cases here : (first :: rest).find? fun field => field.page == key with
      | none =>
        have elsewhere : ∀ field ∈ first :: rest, field.page ≠ key := by
          simpa only [List.find?_eq_none, beq_iff_eq] using here
        constructor
        · intro failed
          cases failed
          exact ⟨rfl, elsewhere, first, rest, rfl, rfl, rfl⟩
        · rintro ⟨same, -, _, _, split, rfl, rfl⟩
          cases same
          cases split
          rfl
      | some field =>
        have there : field.page = key := by simpa only [beq_iff_eq] using List.find?_some here
        refine iff_of_false nofun ?_
        rintro ⟨same, elsewhere, -⟩
        cases same
        exact elsewhere field (List.mem_of_find?_eq_some here) there

/-! ## One acronym -/

/-- A request for one acronym is for the field that `choose` takes of its definitions, on the page
of this field. -/
theorem resolve_acronym_eq_ok_iff (named : item.name = .acronym acronym index) {request : Request} :
    (context.resolve [item] page).value = .ok request ↔ ∃ field,
      context.choose acronym index page (context.definitions acronym) = .ok field ∧
        request = ⟨field.page, [item.bindTo field]⟩ := by
  simp only [resolve_singleton_eq_ok_iff, bind_eq_ok_iff, ← value_candidates_eq_definitions,
    ← value_fieldOf_acronym named]
  constructor
  · rintro ⟨_, ⟨field, means, rfl⟩, rfl⟩
    -- the page that is handed on is the one of the field
    exact ⟨field, means, congrArg (Request.mk · _) (page_of_fieldOf means)⟩
  · rintro ⟨field, means, rfl⟩
    exact ⟨_, ⟨field, means, rfl⟩, congrArg (Request.mk · _) (page_of_fieldOf means).symm⟩

/-- A request for one acronym fails as `choose` does. -/
theorem resolve_acronym_eq_error_iff (named : item.name = .acronym acronym index) {e : ItemError} :
    (context.resolve [item] page).value = .error e ↔
      context.choose acronym index page (context.definitions acronym) = .error e := by
  rw [resolve_singleton_eq_error_iff, ← value_candidates_eq_definitions,
    ← value_fieldOf_acronym named, bind, Attempt.value_bind, bind_eq_error_iff]
  exact or_iff_left fun ⟨field, means, failed⟩ => nomatch failed

/-! ## Lists of items -/

/-- An item is bound, then `rest` on the page that it leaves settled. -/
theorem value_bindAll_cons (context : LookupContext) (page : Option PageKey) (item : Item)
    (rest : List Item) :
    (context.bindAll page (item :: rest)).value =
      (context.bind page item).value.bind fun binding =>
        (context.bindAll (some (page.getD binding.field.page)) rest).value.map fun bound =>
          (binding :: bound.1, bound.2) := by
  rw [bindAll, Attempt.value_bind]
  congr 1
  funext binding
  rw [Attempt.value_bind]
  cases (context.bindAll (some (page.getD binding.field.page)) rest).value <;> rfl

/-- Items are bound in two parts, `before` and `items`, the second one on the page that the first
one settles. -/
theorem value_bindAll_append (context : LookupContext) (page : Option PageKey)
    (before items : List Item) :
    (context.bindAll page (before ++ items)).value =
      (context.bindAll page before).value.bind fun earlier =>
        (context.bindAll earlier.2 items).value.map fun later =>
          (earlier.1 ++ later.1, later.2) := by
  induction before generalizing page with
  | nil =>
    rw [List.nil_append]
    change _ = (context.bindAll page items).value.map id
    cases (context.bindAll page items).value <;> rfl
  | cons first rest ih =>
    rw [List.cons_append, value_bindAll_cons, value_bindAll_cons]
    cases (context.bind page first).value with
    | error e => rfl
    | ok binding =>
      simp only [Except.bind, ih]
      cases (context.bindAll (some (page.getD binding.field.page)) rest).value with
      | error e => rfl
      | ok earlier =>
        simp only [Except.map]
        cases (context.bindAll earlier.2 items).value <;> rfl

/-- Items leave the page `key` settled if it was settled before them. -/
theorem settled_of_bindAll {key : PageKey} {items : List Item} {bindings : List Binding}
    {settled : Option PageKey}
    (h : (context.bindAll (some key) items).value = .ok (bindings, settled)) : settled = some key := by
  rcases bound_of_bindAll h with ⟨-, -, same⟩ | ⟨_, same, keeps, -⟩
  · exact same
  · rw [same, keeps key rfl]

/-- What `bindAll` bound makes a request if a page is settled. -/
theorem value_resolve (context : LookupContext) (items : List Item) (page : Option PageKey) :
    (context.resolve items page).value = (context.bindAll page items).value.bind fun bound =>
      match bound.2 with
      | some key => .ok ⟨key, bound.1⟩
      | none => .error (.badItemSyntax "") := by
  rw [resolve, Attempt.value_bind]
  congr 1
  funext ⟨bindings, settled⟩
  cases settled <;> rfl

/-- **A list of items is judged in two parts**: what follows `first :: before` is resolved as if the
page that these adopt had been required. -/
theorem value_resolve_append (context : LookupContext) (first : Item) (before items : List Item)
    (page : Option PageKey) :
    (context.resolve (first :: before ++ items) page).value =
      (context.resolve (first :: before) page).value.bind fun earlier =>
        (context.resolve items (some earlier.page)).value.map fun later =>
          ⟨earlier.page, earlier.bindings ++ later.bindings⟩ := by
  simp only [value_resolve, value_bindAll_append]
  cases bound : (context.bindAll page (first :: before)).value with
  | error e => rfl
  | ok earlier =>
    obtain ⟨bindings, settled⟩ := earlier
    -- the first item settles a page
    rcases bound_of_bindAll bound with ⟨empty, -⟩ | ⟨key, rfl, -⟩
    · cases empty
    simp only [Except.bind]
    cases others : (context.bindAll (some key) items).value with
    | error e => rfl
    | ok later =>
      obtain ⟨bindings', settled'⟩ := later
      rw [settled_of_bindAll others]
      rfl

/-! ## The outcome -/

/-- **What an acronym comes to.** An acronym is unknown if it has no `definitions` for the device.
While the page is open, the first definition is bound and its page is adopted. On a required page,
the first definition on that page is bound; if all definitions are on other pages, the request fails
and names the page of the first one. What follows in a longer list is judged as if the page that was
adopted before had been required. So two acronyms go together if the second one has a definition on
the page of the first definition of the first one. -/
theorem acronym_outcomes (context : LookupContext) (item : Item) (acronym : String)
    (index : Option Nat) (named : item.name = .acronym acronym index) :
    (∀ page space acronym',
      (context.resolve [item] page).value = .error (.unknownAcronym acronym' space) ↔
        context.definitions acronym = [] ∧ acronym' = acronym ∧ space = context.space) ∧
    (∀ request, (context.resolve [item] none).value = .ok request ↔
      ∃ first rest, context.definitions acronym = first :: rest ∧
        request = ⟨first.page, [item.bindTo first]⟩) ∧
    (∀ key request, (context.resolve [item] (some key)).value = .ok request ↔
      ∃ before field after, context.definitions acronym = before ++ field :: after ∧
        (∀ other ∈ before, other.page ≠ key) ∧ field.page = key ∧
          request = ⟨key, [item.bindTo field]⟩) ∧
    (∀ page label expected other,
      (context.resolve [item] page).value = .error (.pageContradiction label expected other) ↔
        page = some expected ∧ (∀ field ∈ context.definitions acronym, field.page ≠ expected) ∧
          ∃ first rest, context.definitions acronym = first :: rest ∧
            label = first.labelAt (index.getD 0) ∧ other = first.page) ∧
    (∀ first before items page, (context.resolve (first :: before ++ items) page).value =
      (context.resolve (first :: before) page).value.bind fun earlier =>
        (context.resolve items (some earlier.page)).value.map fun later =>
          ⟨earlier.page, earlier.bindings ++ later.bindings⟩) ∧
    ∀ second acronym' index', second.name = .acronym acronym' index' →
      ((∃ request, (context.resolve [item, second] none).value = .ok request) ↔
        ∃ first rest, context.definitions acronym = first :: rest ∧
          ∃ field ∈ context.definitions acronym', field.page = first.page) := by
  have opens (request : Request) : (context.resolve [item] none).value = .ok request ↔
      ∃ first rest, context.definitions acronym = first :: rest ∧
        request = ⟨first.page, [item.bindTo first]⟩ := by
    simp only [resolve_acronym_eq_ok_iff named, choose_none_eq_ok_iff, List.head?_eq_some_iff]
    exact exists_congr fun first => ⟨fun ⟨⟨rest, whole⟩, made⟩ => ⟨rest, whole, made⟩,
      fun ⟨rest, whole, made⟩ => ⟨⟨rest, whole⟩, made⟩⟩
  refine ⟨fun page space acronym' => ?_, opens, fun key request => ?_,
    fun page label expected other => ?_, value_resolve_append context,
    fun second acronym' index' named' => ?_⟩
  · rw [resolve_acronym_eq_error_iff named, choose_eq_unknown_iff]
  · simp only [resolve_acronym_eq_ok_iff named, choose_some_eq_ok_iff]
    constructor
    · rintro ⟨field, ⟨rfl, before, after, whole, elsewhere⟩, rfl⟩
      exact ⟨before, field, after, whole, elsewhere, rfl, rfl⟩
    · rintro ⟨before, field, after, whole, elsewhere, rfl, rfl⟩
      exact ⟨field, ⟨rfl, before, after, whole, elsewhere⟩, rfl⟩
  · rw [resolve_acronym_eq_error_iff named, choose_eq_contradiction_iff]
  · -- the second acronym is judged on the page that the first one adopts
    have split (request : Request) : (context.resolve [item, second] none).value = .ok request ↔
        ∃ earlier, (context.resolve [item] none).value = .ok earlier ∧
          ∃ later, (context.resolve [second] (some earlier.page)).value = .ok later ∧
            ⟨earlier.page, earlier.bindings ++ later.bindings⟩ = request := by
      rw [← List.singleton_append, value_resolve_append context item [] [second] none,
        ModeParameters.bind_eq_ok_iff]
      simp only [map_eq_ok_iff]
    simp only [split, opens]
    constructor
    · rintro ⟨_, _, ⟨first, rest, whole, rfl⟩, later, bound, -⟩
      obtain ⟨field, means, -⟩ := (resolve_acronym_eq_ok_iff named').1 bound
      obtain ⟨here, before, after, whole', -⟩ := choose_some_eq_ok_iff.1 means
      exact ⟨first, rest, whole, field, by simp [whole'], here⟩
    · rintro ⟨first, rest, whole, field, mem, here⟩
      have present : ((context.definitions acronym').find? fun field =>
          field.page == first.page).isSome = true :=
        List.find?_isSome.2 ⟨field, mem, beq_iff_eq.2 here⟩
      obtain ⟨field', means⟩ := Option.isSome_iff_exists.1 present
      exact ⟨_, _, ⟨first, rest, whole, rfl⟩, _,
        (resolve_acronym_eq_ok_iff named').2 ⟨field', choose_eq_ok_iff.2 means, rfl⟩, rfl⟩

end ModeParameters.LookupContext

/-! ## A disputed acronym -/

namespace ModeParameters.Sample

open ModeParameters.Field (named)

/-- Tables in which one acronym is defined for tapes first and then on two pages for all devices, and
another one for tapes alone; the fallback table has both for all devices. -/
def disputedRegistry : Registry :=
  { generic :=
      { fields :=
        [(named "LIM" deviceConfiguration.key ⟨2, 5, 1⟩ "Limit for tapes").restrictedTo tapeOnly,
         named "LIM" control.key ⟨3, 7, 8⟩ "Limit",
         named "lim" caching.key ⟨4, 7, 16⟩ "Limit again",
         (named "CAF" deviceConfiguration.key ⟨2, 4, 1⟩ "Change active format").restrictedTo
           tapeOnly] }
    transports := fun _ =>
      { fields :=
        [named "LIM" portControl.key ⟨4, 7, 16⟩ "Limit of a port",
         named "CAF" portControl.key ⟨6, 7, 8⟩ "Change at a port"] } }

/-- The tables of `disputedRegistry` as a disk sees them. -/
def disputed : LookupContext := ⟨disputedRegistry, .generic, some .disk⟩

/-- A limit to be read. -/
def limit : Item := ⟨"LIM", .acronym "LIM" none, none, none⟩

/-- A format to be read. -/
def format : Item := ⟨"CAF", .acronym "CAF" none, none, none⟩

/-- The definition for tapes counts neither where it comes first nor on its own page, and yet keeps
`format` from being looked for in the fallback table. -/
theorem disputed_outcomes :
    limit.name = .acronym "LIM" none ∧ format.name = .acronym "CAF" none ∧
      (disputed.resolve [limit] none).value =
        .ok ⟨control.key, [limit.bindTo (named "LIM" control.key ⟨3, 7, 8⟩ "Limit")]⟩ ∧
      (disputed.resolve [limit] (some caching.key)).value =
        .ok ⟨caching.key, [limit.bindTo (named "lim" caching.key ⟨4, 7, 16⟩ "Limit again")]⟩ ∧
      (disputed.resolve [limit] (some deviceConfiguration.key)).value =
        .error (.pageContradiction "LIM" deviceConfiguration.key control.key) ∧
      (disputed.resolve [format] none).value = .error (.unknownAcronym "CAF" .generic) := by
  have limits : disputed.definitions "LIM" =
      [named "LIM" control.key ⟨3, 7, 8⟩ "Limit",
       named "lim" caching.key ⟨4, 7, 16⟩ "Limit again"] := by decide
  have formats : disputed.definitions "CAF" = [] := by decide
  obtain ⟨-, opens, placed, contradicted, -⟩ :=
    LookupContext.acronym_outcomes disputed limit "LIM" none rfl
  obtain ⟨unknown, -⟩ := LookupContext.acronym_outcomes disputed format "CAF" none rfl
  refine ⟨rfl, rfl, ?_, ?_, ?_, ?_⟩
  · exact (opens _).2 ⟨_, _, limits, rfl⟩
  · exact (placed _ _).2 ⟨[named "LIM" control.key ⟨3, 7, 8⟩ "Limit"], _, [], limits, by decide, rfl,
      rfl⟩
  · refine (contradicted _ _ _ _).2 ⟨rfl, ?_, _, _, limits, rfl, rfl⟩
    rw [limits]
    decide
  · exact (unknown _ _ _).2 ⟨formats, rfl, rfl⟩

end ModeParameters.Sample
