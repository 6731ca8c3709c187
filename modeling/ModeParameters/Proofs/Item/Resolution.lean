import ModeParameters.Item.Resolution
import ModeParameters.Proofs.Attempt
import ModeParameters.Proofs.Registry.Acronym

/-! # What items are matched with

One read of a page and one write of it serve a whole request, so all its fields have to be on one
page. The page is settled by the first item that brings one and is handed on from item to item. What
one item is bound to is said by `Binds`; a request is then the list of what its items are bound to,
on the page that was settled, and it fails as its first item that cannot be bound. -/

namespace ModeParameters

open Text (wordLimit)

namespace LookupContext

variable {context : LookupContext} {page : Option PageKey} {item : Item}

/-! ## The field of an item -/

/-- The candidates for an acronym are the fields of the table `registry.searched` that answer to it
and are for the device, in table order. -/
theorem value_candidates (context : LookupContext) (acronym : String) :
    (context.candidates acronym).value =
      (context.registry.table (context.registry.searched acronym context.space)).fields.filter
        fun field => field.filter.applies context.type && field.answersTo acronym := by
  have found := congrArg (List.map Prod.fst)
    (Registry.map_fieldsNamed context.registry acronym context.space)
  simp only [List.map_map, Function.comp_def, List.map_id'] at found
  change ((context.registry.fieldsNamed acronym context.space).value.map fun found =>
    found.field).filter _ = _
  rw [found, List.filter_filter]

/-- An acronym means its first candidate whose `page` is the settled one, if one is settled. -/
theorem choose_eq_ok_iff {acronym : String} {index : Option Nat} {candidates : List Field}
    {field : Field} :
    context.choose acronym index page candidates = .ok field ↔
      candidates.find? (fun field => page.all fun key => field.page == key) = some field := by
  unfold choose
  cases candidates with
  | nil => simp
  | cons first rest =>
    cases page with
    | none => simp
    | some key =>
      simp only [Option.all_some]
      cases (first :: rest).find? fun field => field.page == key <;> simp

/-- An acronym is looked for among its `candidates`. -/
theorem value_fieldOf_acronym {acronym : String} {index : Option Nat}
    (named : item.name = .acronym acronym index) :
    (context.fieldOf page item).value =
      context.choose acronym index page (context.candidates acronym).value := by
  unfold fieldOf
  rw [named]
  rfl

/-- An acronym means the first field of the table `registry.searched` that answers to it, is for the
device and is on the settled page, if one is settled. -/
theorem fieldOf_acronym_eq_ok_iff {acronym : String} {index : Option Nat} {field : Field}
    (named : item.name = .acronym acronym index) :
    (context.fieldOf page item).value = .ok field ↔
      ((context.registry.table (context.registry.searched acronym context.space)).fields.filter
        fun field => field.filter.applies context.type && field.answersTo acronym).find?
          (fun field => page.all fun key => field.page == key) = some field := by
  rw [value_fieldOf_acronym named, choose_eq_ok_iff, value_candidates]

/-- Coordinates are bound on a settled page, where they end at `addressEnd` at the latest, within
the largest response. -/
theorem fieldOf_coordinates_eq_ok_iff {span : BitSpan} {field : Field}
    (named : item.name = .coordinates span) :
    (context.fieldOf page item).value = .ok field ↔
      ∃ key, page = some key ∧ span.WellFormed ∧ span.startByte + span.touched ≤ addressEnd ∧
        context.fieldAtSpan key span = field := by
  unfold fieldOf
  rw [named]
  cases page with
  | none => simp
  | some key =>
    dsimp only
    cases fits : span.fit addressEnd with
    | error cause =>
      refine iff_of_false nofun ?_
      rintro ⟨_, -, usable, ends, -⟩
      rw [BitSpan.fit_eq_ok_iff.2 ⟨usable, rfl, ends⟩] at fits
      cases fits
    | ok count =>
      obtain ⟨usable, rfl, ends⟩ := BitSpan.fit_eq_ok_iff.1 fits
      simp [usable, ends]

/-- The field that `fieldAtSpan` finds on a page has these coordinates on this page. -/
theorem page_span_fieldAtSpan (context : LookupContext) (key : PageKey) (span : BitSpan) :
    (context.fieldAtSpan key span).page = key ∧ (context.fieldAtSpan key span).span = span := by
  unfold fieldAtSpan
  cases found : ((context.registry.table context.space).fieldAt? key span.startByte
      span.startBit).filter fun field => field.span.width == span.width with
  | none => exact ⟨rfl, rfl⟩
  | some field =>
    -- a field of the tables is taken only where all three coordinates agree
    obtain ⟨here, width⟩ := Option.filter_eq_some_iff.1 found
    have place := List.find?_some here
    simp only [Bool.and_eq_true, beq_iff_eq] at place width
    obtain ⟨⟨same, startByte⟩, startBit⟩ := place
    have parts : field.span = ⟨field.span.startByte, field.span.startBit, field.span.width⟩ := rfl
    exact ⟨same, by rw [Option.getD_some, parts, startByte, startBit, width]⟩

/-- The field of an acronym answers to it (`answersTo`) and is for the device. -/
theorem answersTo_of_fieldOf {acronym : String} {index : Option Nat} {field : Field}
    (named : item.name = .acronym acronym index)
    (h : (context.fieldOf page item).value = .ok field) :
    field.answersTo acronym = true ∧ field.filter.applies context.type = true := by
  rw [fieldOf_acronym_eq_ok_iff named] at h
  have fits := (List.mem_filter.1 (List.mem_of_find?_eq_some h)).2
  rw [Bool.and_eq_true] at fits
  exact ⟨fits.2, fits.1⟩

/-- The field of an acronym is that of one of its matches, `fieldsNamed`. -/
theorem exists_match_of_fieldOf {acronym : String} {index : Option Nat} {field : Field}
    (named : item.name = .acronym acronym index)
    (h : (context.fieldOf page item).value = .ok field) :
    ∃ found ∈ (context.registry.fieldsNamed acronym context.space).value, found.field = field := by
  rw [value_fieldOf_acronym named, choose_eq_ok_iff] at h
  obtain ⟨found, mem, rfl⟩ := List.mem_map.1 (List.mem_of_mem_filter (List.mem_of_find?_eq_some h))
  exact ⟨found, mem, rfl⟩

/-- An acronym that means a field means it in any case, as `Text.alike` says, and on the page of the
field. -/
theorem fieldOf_alike {again : Item} {acronym acronym' : String} {index index' : Option Nat}
    {field : Field} (named : item.name = .acronym acronym index)
    (h : (context.fieldOf page item).value = .ok field)
    (named' : again.name = .acronym acronym' index') (same : Text.alike acronym acronym' = true) :
    (context.fieldOf (some (page.getD field.page)) again).value = .ok field := by
  rw [fieldOf_acronym_eq_ok_iff named] at h
  have answers (field : Field) := congrFun (Field.answersTo_congr same) field
  simp only [fieldOf_acronym_eq_ok_iff named', Registry.searched_congr same, answers]
  cases page with
  | some key => exact h
  | none =>
    -- the first candidate of all is also the first one on its page
    cases listed :
        (context.registry.table (context.registry.searched acronym context.space)).fields.filter
          fun field => field.filter.applies context.type && field.answersTo acronym with
    | nil =>
      rw [listed] at h
      cases h
    | cons first rest =>
      rw [listed] at h
      cases h
      simp

/-- The field of an item is on the settled page: `field.page` if that is open. -/
theorem page_of_fieldOf {field : Field} (h : (context.fieldOf page item).value = .ok field) :
    page.getD field.page = field.page := by
  cases named : item.name with
  | acronym acronym index =>
    have here := List.find?_some ((fieldOf_acronym_eq_ok_iff named).1 h)
    cases page with
    | none => rfl
    | some key => exact (beq_iff_eq.1 here).symm
  | coordinates span =>
    obtain ⟨key, rfl, -, -, rfl⟩ := (fieldOf_coordinates_eq_ok_iff named).1 h
    exact (page_span_fieldAtSpan context key span).1.symm

end LookupContext

/-! ## The binding of an item -/

namespace Item

/-- The descriptor that an item names, as in `PHID.1`. -/
def index (item : Item) : Option Nat :=
  match item.name with
  | .acronym _ index => index
  | .coordinates _ => none

/-- What an item does with a field: `Action.ofValue` of its value. -/
def bindTo (item : Item) (field : Field) : Binding :=
  ⟨field, .ofValue field.span.width item.value, item.index, item.literal, item.value⟩

variable {context : LookupContext} {item : Item} {field : Field}

theorem index_of_acronym {acronym : String} {index : Option Nat}
    (named : item.name = .acronym acronym index) : item.index = index := by
  rw [Item.index, named]

theorem index_of_coordinates {span : BitSpan} (named : item.name = .coordinates span) :
    item.index = none := by
  rw [Item.index, named]

/-- A number loses bits in a field exactly when it has more of them than the field, being no less
than `1 <<< width`. -/
theorem isTruncated_bindTo_iff {n : Nat} (value : item.value = some (.number n))
    (word : n < wordLimit) :
    (item.bindTo field).isTruncated = true ↔ 1 <<< field.span.width ≤ n := by
  have cut : (item.bindTo field).isTruncated = true ↔ 1 <<< min field.span.width 64 ≤ n := by
    unfold bindTo Binding.isTruncated Action.ofValue
    rw [value]
    dsimp only
    rw [bne_iff_ne, and_mask, ne_comm, Ne, Nat.mod_eq_iff_lt, Nat.not_lt]
    rw [Nat.one_shiftLeft]
    exact Nat.ne_of_gt (Nat.two_pow_pos _)
  rw [cut]
  by_cases narrow : field.span.width ≤ 64
  · rw [Nat.min_eq_left narrow]
  · -- a field of more bits than a number has cuts nothing off
    have wide : 1 <<< 64 ≤ 1 <<< field.span.width := by
      rw [Nat.one_shiftLeft, Nat.one_shiftLeft]
      exact Nat.pow_le_pow_right (by decide) (by omega)
    have limit : 1 <<< 64 = wordLimit := rfl
    rw [Nat.min_eq_right (by omega)]
    omega

/-- Only a `.number` loses bits. -/
theorem isTruncated_bindTo_of_ne (other : ∀ n, item.value ≠ some (.number n)) :
    (item.bindTo field).isTruncated = false := by
  unfold bindTo Binding.isTruncated
  dsimp only
  split
  · next raw value same _ => exact absurd same (other raw)
  · rfl

end Item

namespace LookupContext

variable {context : LookupContext} {page : Option PageKey} {item : Item} {binding : Binding}

/-- An item is bound to the field that `fieldOf` gives, the one that it means. -/
theorem bind_eq_ok_iff :
    (context.bind page item).value = .ok binding ↔
      ∃ field, (context.fieldOf page item).value = .ok field ∧ item.bindTo field = binding := by
  unfold bind
  rw [Attempt.value_bind_eq_ok_iff]
  simp only [Attempt.value_pure, Except.ok.injEq]
  rfl

/-- What an item of a request is bound to, on the page of the request. -/
structure Binds (context : LookupContext) (page : PageKey) (item : Item) (binding : Binding) :
    Prop where
  /-- The field is on the page. -/
  page_eq : binding.field.page = page
  /-- Coordinates are usable and end at `addressEnd` at the latest. The field is just there, in no
  descriptor. -/
  coordinates : ∀ span, item.name = .coordinates span → span.WellFormed ∧
    span.startByte + span.touched ≤ addressEnd ∧ binding.field.span = span ∧ binding.index = none
  /-- An acronym is that of the field up to case, and the field is for `context.type` or its family.
  The descriptor is the one that was named. -/
  acronym : ∀ acronym index, item.name = .acronym acronym index →
    binding.field.answersTo acronym = true ∧ binding.field.filter.applies context.type = true ∧
      binding.index = index
  /-- Without a value the field is read. -/
  query : item.value = none → binding.action = .query
  /-- All ones set every bit of the field: they are `mask` of its width. -/
  allOnes : item.value = some .allOnes → binding.action = .set (mask binding.field.span.width)
  /-- A number sets the field to its low bits, modulo `1 <<< width`. -/
  number : ∀ n, item.value = some (.number n) → binding.field.span.width ≤ 64 →
    binding.action = .set (n % (1 <<< binding.field.span.width))
  /-- A number is said to be cut exactly when it does not fit the field, being no less than
  `1 <<< width`. -/
  truncated : ∀ n, item.value = some (.number n) → n < wordLimit →
    (binding.isTruncated = true ↔ 1 <<< binding.field.span.width ≤ n)
  /-- Nothing else is ever said to be cut. -/
  whole : (∀ n, item.value ≠ some (.number n)) → binding.isTruncated = false
  /-- The value is kept as it was written. -/
  kept : binding.literal = item.literal ∧ binding.requested = item.value

/-- The largest response has 65535 bytes. -/
example : addressEnd = 65535 := rfl

/-- **An item is bound** on the settled page, or else on `binding.field.page`, that of its field. -/
theorem binds_of_bind (h : (context.bind page item).value = .ok binding) :
    context.Binds (page.getD binding.field.page) item binding := by
  obtain ⟨field, found, rfl⟩ := bind_eq_ok_iff.1 h
  refine ⟨(page_of_fieldOf found).symm, fun span named => ?_, fun acronym index named => ?_,
    fun none => ?_, fun ones => ?_, fun n number (narrow : field.span.width ≤ 64) => ?_,
    fun n number => Item.isTruncated_bindTo_iff number, Item.isTruncated_bindTo_of_ne, rfl, rfl⟩
  · obtain ⟨key, -, usable, ends, rfl⟩ := (fieldOf_coordinates_eq_ok_iff named).1 found
    exact ⟨usable, ends, (page_span_fieldAtSpan context key span).2, Item.index_of_coordinates named⟩
  · obtain ⟨answers, applies⟩ := answersTo_of_fieldOf named found
    exact ⟨answers, applies, Item.index_of_acronym named⟩
  · exact congrArg (Action.ofValue field.span.width) none
  · exact congrArg (Action.ofValue field.span.width) ones
  · -- the bits of the number that the field has are its remainder
    have low : n &&& mask field.span.width = n % (1 <<< field.span.width) := by
      rw [and_mask, Nat.min_eq_left narrow]
    exact (congrArg (Action.ofValue field.span.width) number).trans (congrArg Action.set low)

/-! ## The bindings of a request -/

/-- Items are bound one after the other by `bind`, each on the page that is settled before it. -/
theorem bindAll_cons_eq_ok_iff {rest : List Item} {bindings : List Binding}
    {settled : Option PageKey} :
    (context.bindAll page (item :: rest)).value = .ok (bindings, settled) ↔
      ∃ binding bindings', (context.bind page item).value = .ok binding ∧
        (context.bindAll (some (page.getD binding.field.page)) rest).value = .ok (bindings', settled) ∧
        bindings = binding :: bindings' := by
  rw [bindAll, Attempt.value_bind_eq_ok_iff]
  simp only [Attempt.value_bind_eq_ok_iff, Attempt.value_pure, Except.ok.injEq, Prod.exists,
    Prod.mk.injEq]
  constructor
  · rintro ⟨binding, bound, bindings', _, others, rfl, rfl⟩
    exact ⟨binding, bindings', bound, others, rfl⟩
  · rintro ⟨binding, bindings', bound, others, rfl⟩
    exact ⟨binding, bound, bindings', _, others, rfl, rfl⟩

/-- Items that `bindAll` binds settle a page, unless there are none of them and none was settled
before; each of them is bound while the page is still open or settled already. -/
theorem bound_of_bindAll {items : List Item} {bindings : List Binding} {settled : Option PageKey}
    (h : (context.bindAll page items).value = .ok (bindings, settled)) :
    (items = [] ∧ bindings = [] ∧ settled = page) ∨
      ∃ key, settled = some key ∧ (∀ given, page = some given → key = given) ∧
        List.Forall₂ (fun item binding => ∃ before, (context.bind before item).value = .ok binding ∧
          before.getD binding.field.page = key) items bindings := by
  induction items generalizing page bindings with
  | nil =>
    cases h
    exact .inl ⟨rfl, rfl, rfl⟩
  | cons item rest ih =>
    obtain ⟨binding, bindings', bound, others, rfl⟩ := bindAll_cons_eq_ok_iff.1 h
    refine .inr ⟨page.getD binding.field.page, ?_, fun given settles => by rw [settles]; rfl, ?_⟩
    all_goals
      rcases ih others with ⟨rfl, rfl, same⟩ | ⟨key, same, keeps, all⟩
    · exact same
    · rw [same, keeps _ rfl]
    · exact .cons ⟨page, bound, rfl⟩ .nil
    · rw [keeps _ rfl] at all
      exact .cons ⟨page, bound, rfl⟩ all

/-- All items that are bound are bound on the page that they settle, as `Binds` says. -/
theorem binds_of_bindAll {items : List Item} {bindings : List Binding} {settled : Option PageKey}
    (h : (context.bindAll page items).value = .ok (bindings, settled)) :
    (items = [] ∧ bindings = [] ∧ settled = page) ∨
      ∃ key, settled = some key ∧ (∀ given, page = some given → key = given) ∧
        List.Forall₂ (context.Binds key) items bindings := by
  refine (bound_of_bindAll h).imp_right fun ⟨key, settles, keeps, all⟩ => ⟨key, settles, keeps, ?_⟩
  refine all.imp fun item binding ⟨before, bound, same⟩ => ?_
  rw [← same]
  exact binds_of_bind bound

/-- A list of items fails as the first one of them that `bind` refuses, on the page that is settled
before it. -/
theorem bindAll_eq_error_iff {items : List Item} {e : ItemError} :
    (context.bindAll page items).value = .error e ↔
      ∃ before item after bindings settled, items = before ++ item :: after ∧
        (context.bindAll page before).value = .ok (bindings, settled) ∧
        (context.bind settled item).value = .error e := by
  induction items generalizing page with
  | nil => simp [bindAll]
  | cons item rest ih =>
    rw [bindAll, Attempt.value_bind, bind_eq_error_iff]
    simp only [Attempt.value_bind, bind_eq_error_iff, Attempt.value_pure, reduceCtorEq, and_false,
      exists_false, or_false, ih]
    constructor
    · rintro (failed | ⟨binding, bound, before, item', after, bindings, settled, rfl, fine, failed⟩)
      · exact ⟨[], item, rest, [], page, rfl, rfl, failed⟩
      · exact ⟨item :: before, item', after, _, settled, rfl,
          bindAll_cons_eq_ok_iff.2 ⟨binding, bindings, bound, fine, rfl⟩, failed⟩
    · rintro ⟨before, item', after, bindings, settled, split, fine, failed⟩
      cases before with
      | nil =>
        cases fine
        cases split
        exact .inl failed
      | cons first before =>
        cases split
        obtain ⟨binding, bindings', bound, fine', rfl⟩ := bindAll_cons_eq_ok_iff.1 fine
        exact .inr ⟨binding, bound, before, item', after, bindings', settled, rfl, fine', failed⟩

/-- A request is what `bindAll` binds its items to, and the page that they settle. -/
theorem resolve_eq_ok_iff {items : List Item} {request : Request} :
    (context.resolve items page).value = .ok request ↔
      (context.bindAll page items).value = .ok (request.bindings, some request.page) := by
  unfold resolve
  rw [Attempt.value_bind_eq_ok_iff]
  constructor
  · rintro ⟨⟨bindings, settled⟩, bound, made⟩
    cases settled with
    | none => cases made
    | some key =>
      cases made
      exact bound
  · intro bound
    exact ⟨_, bound, rfl⟩

/-- Each item of a request is bound by `bind` while its page is still open or settled already. -/
theorem bound_of_resolve {items : List Item} {request : Request}
    (h : (context.resolve items page).value = .ok request) :
    List.Forall₂ (fun item binding => ∃ before, (context.bind before item).value = .ok binding ∧
      before.getD binding.field.page = request.page) items request.bindings := by
  rcases bound_of_bindAll (resolve_eq_ok_iff.1 h) with ⟨rfl, same, -⟩ | ⟨key, settles, -, all⟩
  · rw [same]
    exact .nil
  · cases settles
    exact all

/-- A request fails as its first item that cannot be bound, or with `badItemSyntax` for want of a
page. -/
theorem resolve_eq_error_iff {items : List Item} {e : ItemError} :
    (context.resolve items page).value = .error e ↔
      (context.bindAll page items).value = .error e ∨
        ∃ bindings, (context.bindAll page items).value = .ok (bindings, none) ∧
          e = .badItemSyntax "" := by
  unfold resolve
  rw [Attempt.value_bind, bind_eq_error_iff]
  refine or_congr_right ⟨?_, ?_⟩
  · rintro ⟨⟨bindings, settled⟩, bound, failed⟩
    cases settled with
    | none =>
      cases failed
      exact ⟨bindings, bound, rfl⟩
    | some key => cases failed
  · rintro ⟨bindings, bound, rfl⟩
    exact ⟨_, bound, rfl⟩

/-- An item on its own makes the request of its binding, on the page that it settles. -/
theorem resolve_singleton_eq_ok_iff {request : Request} :
    (context.resolve [item] page).value = .ok request ↔
      ∃ binding, (context.bind page item).value = .ok binding ∧
        request = ⟨page.getD binding.field.page, [binding]⟩ := by
  obtain ⟨key, bindings⟩ := request
  rw [resolve_eq_ok_iff, bindAll_cons_eq_ok_iff]
  constructor
  · rintro ⟨binding, rest, bound, others, rfl⟩
    cases others
    exact ⟨binding, bound, rfl⟩
  · rintro ⟨binding, bound, same⟩
    cases same
    exact ⟨binding, [], bound, rfl, rfl⟩

/-- An item on its own fails as `bind` does. -/
theorem resolve_singleton_eq_error_iff {e : ItemError} :
    (context.resolve [item] page).value = .error e ↔ (context.bind page item).value = .error e := by
  have single : (context.bindAll page [item]).value = .error e ↔
      (context.bind page item).value = .error e := by
    rw [bindAll, Attempt.value_bind, bind_eq_error_iff]
    exact or_iff_left fun ⟨binding, bound, failed⟩ => nomatch failed
  rw [resolve_eq_error_iff, single]
  constructor
  · rintro (failed | ⟨bindings, bound, -⟩)
    · exact failed
    · -- an item that is bound settles a page
      rcases binds_of_bindAll bound with ⟨empty, -⟩ | ⟨key, same, -⟩
      · cases empty
      · cases same
  · exact .inl

/-- **What a request is made of.** Whatever the tables, the items and the page that was given, a
request is on the given page, and has one binding for each item, in order, which is what the item is
bound to on the page of the request (`Binds`). No request is made exactly where there is neither an
item nor a page, or where an item fails on the page that the items before it settle; the first such
item gives the error. -/
theorem request_of_items (context : LookupContext) (items : List Item) (page : Option PageKey) :
    (∀ request, (context.resolve items page).value = .ok request →
      (∀ given, page = some given → request.page = given) ∧
        List.Forall₂ (context.Binds request.page) items request.bindings) ∧
    ∀ e, (context.resolve items page).value = .error e ↔
      (items = [] ∧ page = none ∧ e = .badItemSyntax "") ∨
        ∃ before item after settled, items = before ++ item :: after ∧
          (before = [] ∧ settled = page ∨ ∃ request,
            (context.resolve before page).value = .ok request ∧ settled = some request.page) ∧
          (context.resolve [item] settled).value = .error e := by
  simp only [resolve_singleton_eq_error_iff]
  simp only [resolve_eq_ok_iff, resolve_eq_error_iff]
  refine ⟨fun request bound => ?_, fun e => ⟨?_, ?_⟩⟩
  · rcases binds_of_bindAll bound with ⟨rfl, same, settled⟩ | ⟨key, settled, keeps, all⟩
    · refine ⟨fun given settles => ?_, by rw [same]; exact .nil⟩
      exact Option.some.inj (settled.trans settles)
    · cases settled
      exact ⟨keeps, all⟩
  · rintro (failed | ⟨bindings, bound, rfl⟩)
    · obtain ⟨before, item, after, bindings, settled, split, fine, failed⟩ :=
        bindAll_eq_error_iff.1 failed
      refine .inr ⟨before, item, after, settled, split, ?_, failed⟩
      rcases binds_of_bindAll fine with ⟨empty, -, same⟩ | ⟨key, rfl, -⟩
      · exact .inl ⟨empty, same⟩
      · exact .inr ⟨⟨key, bindings⟩, fine, rfl⟩
    · -- only where there is no item can the page be left open
      rcases binds_of_bindAll bound with ⟨empty, -, same⟩ | ⟨key, same, -⟩
      · exact .inl ⟨empty, same.symm, rfl⟩
      · cases same
  · rintro (⟨rfl, rfl, rfl⟩ | ⟨before, item, after, settled, split, fine, failed⟩)
    · exact .inr ⟨[], rfl, rfl⟩
    · refine .inl (bindAll_eq_error_iff.2 ?_)
      rcases fine with ⟨rfl, rfl⟩ | ⟨request, fine, rfl⟩
      · exact ⟨[], item, after, [], settled, split, rfl, failed⟩
      · exact ⟨before, item, after, _, _, split, fine, failed⟩

end LookupContext

end ModeParameters
