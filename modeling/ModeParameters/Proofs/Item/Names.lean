import ModeParameters.Proofs.Item.Labels
import ModeParameters.Proofs.Session.Agreement

/-! # Names of fields at the same place

A text names a field of a page when it is an item that reads this field in the first descriptor. What
an item with such a name and any value asks for depends on where the field is: with a name of another
field at the same place it is the same request, but for what the field is called. The coordinates of a
field are such a name, whatever the tables have at this place. -/

namespace ModeParameters

open Text (trim wordLimit)

/-! ## Items by name and value -/

namespace Item

/-- The text of an item: a name, and the value behind `=` if there is one. -/
def written (name : String) : Option String → String
  | none => name
  | some value => name ++ "=" ++ value

/-- The parts of an item are the name and the value, each as `trim` leaves it. -/
theorem parts_written {name : String} (bare : '=' ∉ name.toList) (value : Option String) :
    parts (written name value).toList =
      (trim name.toList, value.map fun value => trim value.toList) := by
  cases value with
  | none => rw [written, parts, Text.cutFirst_eq_none_iff.2 bare]; rfl
  | some value =>
    have text : (written name (some value)).toList = name.toList ++ '=' :: value.toList := by
      simp [written]
    rw [parts, text, Text.cutFirst_eq_some_iff.2 ⟨rfl, bare⟩]
    rfl

/-- An item is read if its name and its value are, the name as `Spells` says and the value as
`valueFor` does. -/
theorem parse_written {mode : ItemMode} {text : String} {name : ItemName}
    (spelled : name.Spells text.toList) (value : Option String) :
    parse mode (written text value) =
      (valueFor mode (written text value).toList (trim text.toList)
        (value.map fun value => trim value.toList)).map fun raw =>
          ⟨written text value, name, raw, value.map fun value => String.ofList (trim value.toList)⟩ := by
  have bare : '=' ∉ text.toList := fun mem => absurd (spelled.noSeparator '=' mem) (by decide)
  rw [parse, ofChars, parts_written bare]
  dsimp only
  rw [ItemName.ofChars?_eq_some_iff.2 spelled]
  cases valueFor mode (written text value).toList (trim text.toList)
    (value.map fun value => trim value.toList) with
  | error e => rfl
  | ok raw => cases value <;> simp [bind, Except.bind, pure, Except.pure, Except.map]

/-- What is wrong with a value is the same whatever the item is called: `SameOutcome` leaves the
label out. -/
theorem valueFor_agrees (mode : ItemMode) (text text' name name' : List Char)
    (literal : Option (List Char)) :
    SameOutcome Eq ((valueFor mode text name literal).mapError Error.item)
      ((valueFor mode text' name' literal).mapError Error.item) := by
  cases mode <;> cases literal <;> simp only [valueFor]
  case set.some literal =>
    cases RawValue.ofChars? literal with
    | none => exact .error rfl
    | some value => exact .ok rfl
  all_goals first | exact .ok rfl | exact .error rfl

end Item

/-! ## Requests that act alike -/

/-- Two bindings act alike: they do the same in the same place. -/
structure Binding.ActsAlike (binding binding' : Binding) : Prop where
  /-- Their fields are at the same place. -/
  span_eq : binding'.field.span = binding.field.span
  /-- They do the same. -/
  action_eq : binding'.action = binding.action
  /-- They mean the same descriptor. -/
  index_eq : binding'.descriptorIndex = binding.descriptorIndex

/-- Two requests act alike: their bindings do, one by one, and on the same page. -/
structure Request.ActsAlike (request request' : Request) : Prop where
  /-- They are on the same page. -/
  page_eq : request'.page = request.page
  /-- Their bindings act alike. -/
  bindings : List.Forall₂ Binding.ActsAlike request.bindings request'.bindings

namespace LookupContext

variable {context : LookupContext} {page : PageKey} {text text' : String} {field field' : Field}
  {name : ItemName}

/-- The request that the text of one item makes on a page, as `Item.parse` and `resolve` make it. -/
def request (context : LookupContext) (mode : ItemMode) (page : PageKey) (text : String) :
    Attempt Error Request := do
  let item ← (Item.parse mode text).mapError Error.item
  ExceptT.adapt Error.item (context.resolve [item] (some page))

/-- A text names a field of a page: with `.get` it reads the field, in the first descriptor. -/
def Names (context : LookupContext) (page : PageKey) (text : String) (field : Field) : Prop :=
  (context.request .get page text).value = .ok ⟨page, [⟨field, .query, none, none, none⟩]⟩

/-- An item means a field by its `name` alone. -/
theorem fieldOf_of_name {page : Option PageKey} {item item' : Item} (same : item'.name = item.name)
    (h : (context.fieldOf page item).value = .ok field) :
    (context.fieldOf page item').value = .ok field := by
  cases named : item.name with
  | acronym acronym index =>
    rw [value_fieldOf_acronym (same.trans named), ← value_fieldOf_acronym named]
    exact h
  | coordinates span =>
    rw [fieldOf_coordinates_eq_ok_iff named] at h
    exact (fieldOf_coordinates_eq_ok_iff (same.trans named)).2 h

/-- The request of one item is that of its binding, `item.bindTo field`. -/
theorem resolve_singleton {item : Item} (h : (context.fieldOf (some page) item).value = .ok field) :
    (context.resolve [item] (some page)).value = .ok ⟨page, [item.bindTo field]⟩ :=
  resolve_singleton_eq_ok_iff.2 ⟨_, bind_eq_ok_iff.2 ⟨_, h, rfl⟩, rfl⟩

/-- A text names a field exactly when it `Spells` a name without a descriptor that means this
field. -/
theorem names_iff :
    context.Names page text field ↔ ∃ name : ItemName, name.Spells text.toList ∧
      ∀ item : Item, item.name = name →
        (context.fieldOf (some page) item).value = .ok field ∧ item.index = none := by
  unfold Names request
  simp only [Attempt.value_bind_eq_ok_iff, Attempt.value_liftExcept, Attempt.value_adapt,
    mapError_eq_ok_iff]
  constructor
  · rintro ⟨item, read, made⟩
    obtain ⟨field', found, bound⟩ : ∃ field', (context.fieldOf (some page) item).value = .ok field' ∧
        item.bindTo field' = ⟨field, .query, none, none, none⟩ := by
      obtain ⟨binding, bound, same⟩ := resolve_singleton_eq_ok_iff.1 made
      obtain ⟨field', found, rfl⟩ := bind_eq_ok_iff.1 bound
      exact ⟨field', found, (List.cons.inj (congrArg Request.bindings same)).1.symm⟩
    simp only [Item.bindTo, Binding.mk.injEq] at bound
    obtain ⟨rfl, -, first, -, -⟩ := bound
    have spells := Item.parse_eq_ok_iff.1 read
    generalize text.toList = cs at spells ⊢
    cases spells with
    | @bare name _ spelled =>
      -- the name decides both, whatever else is in the item
      refine ⟨name, spelled, fun item' named => ⟨fieldOf_of_name named found, ?_⟩⟩
      rw [Item.index, named]
      exact first
    | valued change => cases change
  · rintro ⟨name, spelled, means⟩
    let item : Item := ⟨String.ofList text.toList, name, none, none⟩
    obtain ⟨found, first⟩ := means item rfl
    refine ⟨item, Item.parse_eq_ok_iff.2 (.bare spelled), ?_⟩
    rw [resolve_singleton found, Item.bindTo, first]
    rfl

/-- An acronym names the field that it means on the page. -/
theorem names_acronym {acronym : String} (full : acronym.toList ≠ [])
    (chars : ∀ c ∈ acronym.toList, isAcronymChar c = true)
    (means : ∀ item : Item, item.name = .acronym acronym none →
      (context.fieldOf (some page) item).value = .ok field) :
    context.Names page acronym field := by
  have spelled : (ItemName.acronym (String.ofList acronym.toList) none).Spells acronym.toList :=
    .acronym full chars (.refl _)
  rw [String.ofList_toList] at spelled
  exact names_iff.2 ⟨_, spelled, fun item named => ⟨means item named, Item.index_of_acronym named⟩⟩

/-- **What an item asks for** whose name names a field: the field, and what `valueFor` makes of its
value. -/
theorem value_request_written (named : context.Names page text field) (mode : ItemMode)
    (value : Option String) :
    let literal := value.map fun value => trim value.toList
    (context.request mode page (Item.written text value)).value =
      ((Item.valueFor mode (Item.written text value).toList (trim text.toList) literal).mapError
        Error.item).map fun raw =>
          ⟨page, [⟨field, .ofValue field.span.width raw, none, literal.map String.ofList, raw⟩]⟩ := by
  intro literal
  obtain ⟨name, spelled, means⟩ := names_iff.1 named
  rw [request, Attempt.value_bind, Attempt.value_liftExcept, Item.parse_written spelled]
  cases Item.valueFor mode (Item.written text value).toList (trim text.toList) literal with
  | error e => rfl
  | ok raw =>
    let item : Item := ⟨Item.written text value, name, raw,
      value.map fun value => String.ofList (trim value.toList)⟩
    obtain ⟨found, first⟩ := means item rfl
    change ((context.resolve [item] (some page)).value.mapError Error.item) = _
    rw [resolve_singleton found, Item.bindTo, first]
    cases value <;> rfl

/-- **Names of fields with the same `span` make requests that act alike**, or fail for the same
reason. -/
theorem request_agrees (named : context.Names page text field)
    (named' : context.Names page text' field') (same : field'.span = field.span) (mode : ItemMode)
    (value : Option String) :
    SameOutcome Request.ActsAlike (context.request mode page (Item.written text value)).value
      (context.request mode page (Item.written text' value)).value := by
  rw [value_request_written named, value_request_written named']
  refine (Item.valueFor_agrees mode _ _ _ _ _).map ?_
  rintro raw _ rfl
  exact ⟨rfl, .cons ⟨same, by rw [same], rfl⟩ .nil⟩

/-! ## Coordinates -/

/-- **The coordinates of a usable span** name a field at this place, the one that `fieldAtSpan`
finds, whatever the tables have there, if it ends within the largest response. -/
theorem names_coordinates {span : BitSpan} (usable : span.WellFormed)
    (ends : span.startByte + span.touched ≤ addressEnd) (context : LookupContext) (page : PageKey) :
    context.Names page (Field.coordinates span) (context.fieldAtSpan page span) := by
  have small : span.startByte < wordLimit ∧ span.startBit < 256 ∧ span.width < 256 := by
    have startBit := usable.startBit_le
    have width := usable.width_le
    have startByte : span.startByte ≤ 65535 := Nat.le_of_add_right_le ends
    exact ⟨Nat.lt_of_le_of_lt startByte (by decide), by omega, by omega⟩
  have nameless : (Field.ofSpan page span).acronym = none := rfl
  have spelled : (ItemName.coordinates span).Spells (Field.coordinates span).toList :=
    spells_label nameless small.1 small.2.1 small.2.2
  refine names_iff.2 ⟨_, spelled, fun item named => ⟨?_, Item.index_of_coordinates named⟩⟩
  exact (fieldOf_coordinates_eq_ok_iff named).2 ⟨page, rfl, usable, ends, rfl⟩

end LookupContext

end ModeParameters
