import ModeParameters.Proofs.Item.Lists
import ModeParameters.Proofs.Item.Resolution
import ModeParameters.Registry.Sample

/-! # What a label names

A binding is shown under the label of its field. The label of a field that was found by an acronym
with a notation, and that of a field without one, is itself an item: read again, and looked for in the
same tables on the page of the request, it means the same field in the same descriptor. The tables may
have an acronym several times, on several pages or on one. An item that was not read from a text may
have an acronym without a notation, and then the label is no item. -/

namespace ModeParameters

open Text

/-! ## Acronyms in any case -/

/-- Lowering leaves every character but the capitals, those from 65 to 90, as it is. -/
theorem toLower_eq_self {c : Char} (h : ¬(65 ≤ c.toNat ∧ c.toNat ≤ 90)) : c.toLower = c :=
  dif_neg h

/-- A capital is a character that an acronym may have, and so is what it is lowered to. -/
theorem isAcronymChar_of_capital {c : Char} (h : 65 ≤ c.toNat ∧ c.toNat ≤ 90) :
    isAcronymChar c = true ∧ isAcronymChar c.toLower = true := by
  have all : ∀ k : Fin 91, 65 ≤ k.val → isAcronymChar (Char.ofNat k) = true ∧
      isAcronymChar (Char.ofNat k).toLower = true := by decide
  have capital := all ⟨c.toNat, by omega⟩ h.1
  rwa [Char.ofNat_toNat] at capital

/-- A character that `Char.toLower` makes like a character of an acronym is one. -/
theorem isAcronymChar_of_toLower {c d : Char} (same : c.toLower = d.toLower)
    (char : isAcronymChar d = true) : isAcronymChar c = true := by
  by_cases capital : 65 ≤ c.toNat ∧ c.toNat ≤ 90
  · exact (isAcronymChar_of_capital capital).1
  rw [toLower_eq_self capital] at same
  rw [same]
  by_cases capital' : 65 ≤ d.toNat ∧ d.toNat ≤ 90
  · exact (isAcronymChar_of_capital capital').2
  · rwa [toLower_eq_self capital']

/-- A text that is like an acronym is one. -/
theorem acronymChars_of_alike {s t : String} (same : alike s t = true)
    (chars : ∀ c ∈ t.toList, isAcronymChar c = true) : ∀ c ∈ s.toList, isAcronymChar c = true := by
  intro c mem
  have image : c.toLower ∈ t.toList.map Char.toLower := by
    rw [← alike_iff.1 same]
    exact List.mem_map_of_mem mem
  obtain ⟨d, mem', lowered⟩ := List.mem_map.1 image
  exact isAcronymChar_of_toLower lowered.symm (chars d mem')

/-- A text that is like one with characters has characters. -/
theorem ne_nil_of_alike {s t : String} (same : alike s t = true) (full : t.toList ≠ []) :
    s.toList ≠ [] := by
  intro empty
  have none := alike_iff.1 same
  rw [empty, List.map_nil] at none
  exact full (List.map_eq_nil_iff.1 none.symm)

/-! ## The label of a field as an item -/

/-- An acronym with the number of a descriptor, as a text: the number follows a `.`, unless it is
0. -/
theorem toList_numbered (acronym : String) (index : Nat) :
    (Field.numbered acronym index).toList =
      if index = 0 then acronym.toList else acronym.toList ++ '.' :: digits 10 index := by
  rw [Field.numbered]
  split
  · rfl
  · simp

/-- The label of a field with an acronym `Spells` this acronym, with the descriptor unless that is
the first. -/
theorem spells_labelAt {field : Field} {own : String} {index : Nat}
    (named : field.acronym = some own) (full : own.toList ≠ [])
    (chars : ∀ c ∈ own.toList, isAcronymChar c = true) (fits : index < wordLimit) :
    (ItemName.acronym own (if index = 0 then none else some index)).Spells
      (field.labelAt index).toList := by
  rw [Field.labelAt, Field.label, named, Option.getD_some, toList_numbered]
  have text : own = String.ofList own.toList := String.ofList_toList.symm
  split
  · rw [text]
    exact .acronym full chars (String.toList_ofList ▸ .refl _)
  · rw [text]
    exact .indexed full chars (writesSigned_digits index) fits (String.toList_ofList ▸ .refl _)

/-- The label of a field without an acronym `Spells` its coordinates. -/
theorem spells_label {field : Field} (nameless : field.acronym = none)
    (startByte : field.span.startByte < wordLimit) (startBit : field.span.startBit < 256)
    (width : field.span.width < 256) :
    (ItemName.coordinates field.span).Spells (field.labelAt 0).toList := by
  have text : (field.labelAt 0).toList = (ItemName.coordinates field.span).print := by
    rw [Field.labelAt_zero, Field.label, nameless]
    simp [Field.coordinates, ItemName.print]
  have word : ∀ n < 256, n < wordLimit := fun n small => Nat.lt_trans small (by decide)
  rw [text]
  exact .coordinates (spellsNumber_digits startByte) (spellsNumber_digits (word _ startBit))
    startBit (spellsNumber_digits (word _ width)) width

/-- A name has a notation: some text `Spells` it. -/
def ItemName.Spellable (name : ItemName) : Prop := ∃ text, name.Spells text

/-- Exactly the acronyms with characters, all of them `isAcronymChar`, have a notation, as far as the
number of the descriptor is below `wordLimit`. -/
theorem ItemName.spellable_acronym_iff {acronym : String} {index : Option Nat} :
    (ItemName.acronym acronym index).Spellable ↔
      acronym.toList ≠ [] ∧ (∀ c ∈ acronym.toList, isAcronymChar c = true) ∧
        index.getD 0 < wordLimit := by
  constructor
  · rintro ⟨text, spelled⟩
    cases spelled with
    | acronym full chars => exact ⟨by simpa using full, by simpa using chars, by decide⟩
    | indexed full chars _ fits => exact ⟨by simpa using full, by simpa using chars, fits⟩
  · rintro ⟨full, chars, fits⟩
    have text : acronym = String.ofList acronym.toList := String.ofList_toList.symm
    rw [text]
    cases index with
    | none => exact ⟨_, .acronym full chars (.refl _)⟩
    | some index => exact ⟨_, .indexed full chars (writesSigned_digits index) fits (.refl _)⟩

/-- The name of an item that was read by `Item.parse` has a notation. -/
theorem Item.spellable_of_parse {mode : ItemMode} {text : String} {item : Item}
    (read : Item.parse mode text = .ok item) : item.name.Spellable :=
  (Item.parse_eq_ok_iff.1 read).name

/-! ## Bound again -/

namespace LookupContext

variable {context : LookupContext} {page : Option PageKey} {item : Item} {binding : Binding}

/-- The label of a binding is an item that `bind` takes on the page to the same field in the same
descriptor. -/
def Recovers (context : LookupContext) (page : PageKey) (binding : Binding) : Prop :=
  ∃ again binding', Item.parse .get binding.label = .ok again ∧
    (context.resolve [again] (some page)).value = .ok ⟨page, [binding']⟩ ∧
    binding'.field = binding.field ∧ binding'.descriptorIndex = binding.descriptorIndex

/-- A label recovers its binding when it `Spells` a name with the same descriptor that means the
same field. -/
theorem recovers_of_spells {name : ItemName} {key : PageKey}
    (spelled : name.Spells binding.label.toList)
    (means : ∀ item : Item, item.name = name →
      (context.fieldOf (some key) item).value = .ok binding.field)
    (index : ∀ item : Item, item.name = name → item.index.getD 0 = binding.descriptorIndex) :
    context.Recovers key binding := by
  let again : Item := ⟨String.ofList binding.label.toList, name, none, none⟩
  have bound : (context.bind (some key) again).value = .ok (again.bindTo binding.field) :=
    bind_eq_ok_iff.2 ⟨_, means again rfl, rfl⟩
  refine ⟨again, again.bindTo binding.field, Item.parse_eq_ok_iff.2 (.bare spelled), ?_, rfl,
    index again rfl⟩
  exact resolve_singleton_eq_ok_iff.2 ⟨_, bound, rfl⟩

/-- The label of a field that was found by an acronym with a notation recovers its binding. -/
theorem recovers_of_acronym {acronym : String} {index : Option Nat}
    (named : item.name = .acronym acronym index)
    (spellable : (ItemName.acronym acronym index).Spellable)
    (bound : (context.bind page item).value = .ok binding) :
    context.Recovers (page.getD binding.field.page) binding := by
  obtain ⟨field, found, rfl⟩ := bind_eq_ok_iff.1 bound
  obtain ⟨full, chars, fits⟩ := ItemName.spellable_acronym_iff.1 spellable
  -- the field has the acronym in a case of its own
  obtain ⟨own, has, same⟩ : ∃ own, field.acronym = some own ∧ alike own acronym = true := by
    simpa only [Field.answersTo, Option.any_eq_true] using (answersTo_of_fieldOf named found).1
  have place : (item.bindTo field).descriptorIndex = index.getD 0 := by
    rw [← Item.index_of_acronym named]
    rfl
  have spelled := spells_labelAt has (ne_nil_of_alike same full) (acronymChars_of_alike same chars)
    (place ▸ fits)
  refine recovers_of_spells spelled (fun again named' => ?_) fun again named' => ?_
  · exact fieldOf_alike named found named' (alike_comm own acronym ▸ same)
  · rw [Item.index_of_acronym named']
    split
    · next first => exact first.symm
    · rfl

/-- The label of a field without an acronym that was found by its coordinates `Recovers` its
binding. -/
theorem recovers_of_coordinates {span : BitSpan} (named : item.name = .coordinates span)
    (nameless : binding.field.acronym = none)
    (bound : (context.bind page item).value = .ok binding) :
    context.Recovers (page.getD binding.field.page) binding := by
  obtain ⟨field, found, rfl⟩ := bind_eq_ok_iff.1 bound
  obtain ⟨key, rfl, usable, ends, rfl⟩ := (fieldOf_coordinates_eq_ok_iff named).1 found
  have same := (page_span_fieldAtSpan context key span).2
  have first : (item.bindTo (context.fieldAtSpan key span)).descriptorIndex = 0 := by
    change item.index.getD 0 = 0
    rw [Item.index_of_coordinates named, Option.getD_none]
  have numbers : (context.fieldAtSpan key span).span.startByte < wordLimit ∧
      (context.fieldAtSpan key span).span.startBit < 256 ∧
      (context.fieldAtSpan key span).span.width < 256 := by
    rw [same]
    have startBit := usable.startBit_le
    have width := usable.width_le
    have startByte : span.startByte ≤ 65535 := Nat.le_of_add_right_le ends
    exact ⟨Nat.lt_of_le_of_lt startByte (by decide), by omega, by omega⟩
  have spelled := spells_label nameless numbers.1 numbers.2.1 numbers.2.2
  refine recovers_of_spells (first ▸ spelled) (fun again named' => ?_) fun again named' => ?_
  · have named' : again.name = .coordinates span := named'.trans (congrArg _ same)
    exact (fieldOf_coordinates_eq_ok_iff named').2 ⟨key, rfl, usable, ends, rfl⟩
  · rw [Item.index_of_coordinates named', first, Option.getD_none]

/-- **Labels name what they label.** Each binding of a request that came from an acronym with a
notation (`ItemName.Spellable`, which holds of every item that was read from a text), and each one of
a field that the tables leave without an acronym, has a label that is itself an item and `Recovers` the
binding on the page of the request. -/
theorem labels_recover {items : List Item} {request : Request}
    (made : (context.resolve items page).value = .ok request) :
    List.Forall₂ (fun item binding =>
      (∃ acronym index, item.name = .acronym acronym index ∧
          (ItemName.acronym acronym index).Spellable) ∨ binding.field.acronym = none →
        context.Recovers request.page binding) items request.bindings := by
  refine (bound_of_resolve made).imp ?_
  rintro item binding ⟨before, bound, same⟩ kind
  rw [← same]
  cases named : item.name with
  | acronym acronym index =>
    refine recovers_of_acronym named ?_ bound
    rcases kind with ⟨acronym', index', name, spellable⟩ | nameless
    · rwa [named.symm.trans name]
    · -- a field that was found by an acronym has one
      obtain ⟨field, found, rfl⟩ := bind_eq_ok_iff.1 bound
      have answers := (answersTo_of_fieldOf named found).1
      rw [Field.answersTo, show field.acronym = none from nameless] at answers
      cases answers
  | coordinates span =>
    rcases kind with ⟨acronym, index, other, -⟩ | nameless
    · rw [named] at other
      cases other
    · exact recovers_of_coordinates named nameless bound

end LookupContext

end ModeParameters

/-! ## Labels of a phy page -/

namespace ModeParameters.Sample

open LookupContext
open ModeParameters.Field (named)

/-- The sample tables as a disk sees them that looks for acronyms among the generic ones first. -/
def diskTables : LookupContext := ⟨registry, .generic, some .disk⟩

/-- The identifier of the second phy, typed in lower case and with an extra zero. -/
def typedPhy : Item := ⟨"phid.01", .acronym "phid" (some 1), none, none⟩

/-- A byte of the phy page that the tables do not describe, at `2:7:8`. -/
def typedByte : Item := ⟨"2:7:8", .coordinates ⟨2, 7, 8⟩, none, none⟩

/-- What `typedPhy` and `typedByte` are bound to. -/
def typedRequest : Request where
  page := phyControl.key
  bindings :=
    [⟨(named "PHID" phyControl.key ⟨9, 7, 8⟩ "Phy identifier").withFlags common, .query, some 1, none,
        none⟩,
     ⟨.ofSpan phyControl.key ⟨2, 7, 8⟩, .query, none, none, none⟩]

/-- The acronym of `typedPhy` is found in the fallback table, and settles the page for the
coordinates. -/
theorem resolve_typed :
    (diskTables.resolve [typedPhy, typedByte] none).value = .ok typedRequest := by
  have phy : (diskTables.fieldOf none typedPhy).value =
      .ok ((named "PHID" phyControl.key ⟨9, 7, 8⟩ "Phy identifier").withFlags common) := by
    rw [fieldOf_acronym_eq_ok_iff rfl]
    decide
  have byte : (diskTables.fieldOf (some phyControl.key) typedByte).value =
      .ok (.ofSpan phyControl.key ⟨2, 7, 8⟩) := by decide
  refine resolve_eq_ok_iff.2 (bindAll_cons_eq_ok_iff.2 ⟨_, _, LookupContext.bind_eq_ok_iff.2
    ⟨_, phy, rfl⟩, ?_, rfl⟩)
  exact bindAll_cons_eq_ok_iff.2 ⟨_, [], LookupContext.bind_eq_ok_iff.2 ⟨_, byte, rfl⟩, rfl, rfl⟩

/-- Both bindings of `typedRequest` are recovered by their labels. -/
theorem typed_labels_recover :
    (ItemName.acronym "phid" (some 1)).Spellable ∧
      (diskTables.resolve [typedPhy, typedByte] none).value = .ok typedRequest ∧
      ∀ binding ∈ typedRequest.bindings, diskTables.Recovers phyControl.key binding := by
  have read : Item.parse .get "phid.01" = .ok typedPhy := by decide
  have spellable := Item.spellable_of_parse read
  refine ⟨spellable, resolve_typed, ?_⟩
  cases labels_recover resolve_typed with
  | cons phy others =>
    cases others with
    | cons byte _ =>
      refine List.forall_mem_cons.2 ⟨phy (.inl ⟨_, _, rfl, spellable⟩),
        List.forall_mem_singleton.2 ?_⟩
      exact byte (.inr rfl)

/-- The label drops the extra zero and has the case of the tables. -/
example : typedRequest.bindings.map Binding.label = ["PHID.1", "2:7:8"] := by decide

/-! ## An acronym without a notation -/

/-- A field whose acronym has a dash. -/
def dashedField : Field := named "A-B" caching.key ⟨2, 7, 8⟩ "First byte"

/-- Tables that have `dashedField` alone. -/
def dashedTables : LookupContext := ⟨{ generic := { fields := [dashedField] } }, .generic, none⟩

/-- An item for `dashedField` that no text is read as. -/
def dashedItem : Item := ⟨"A-B", .acronym "A-B" none, none, none⟩

/-- What `dashedItem` is bound to. -/
def dashedBinding : Binding := ⟨dashedField, .query, none, none, none⟩

/-- The tables have the acronym of `dashedItem`, so that it is bound, but the label `A-B` of its
binding is no item, and recovers nothing. -/
theorem dashed_label_refused :
    (dashedTables.resolve [dashedItem] none).value = .ok ⟨caching.key, [dashedBinding]⟩ ∧
      dashedBinding.label = "A-B" ∧ Item.parse .get "A-B" = .error (.badItemSyntax "A-B") ∧
      ¬ dashedTables.Recovers caching.key dashedBinding := by
  have found : (dashedTables.fieldOf none dashedItem).value = .ok dashedField := by
    rw [fieldOf_acronym_eq_ok_iff rfl]
    decide
  have bound := LookupContext.bind_eq_ok_iff.2 ⟨_, found, rfl⟩
  have refused : Item.parse .get dashedBinding.label = .error (.badItemSyntax "A-B") := by decide
  refine ⟨resolve_singleton_eq_ok_iff.2 ⟨_, bound, rfl⟩, rfl, refused, ?_⟩
  rintro ⟨again, binding, read, -⟩
  rw [refused] at read
  cases read

end ModeParameters.Sample
