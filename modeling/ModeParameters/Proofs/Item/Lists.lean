import ModeParameters.Proofs.Attempt
import ModeParameters.Proofs.Item.Grammar

/-! # Lists of items

A list of items is its entries with commas between them. It is read exactly when each entry is the
notation of an item, and its items come back in order; otherwise the first entry that is blank or no
item decides the error. Items that were read can be printed in one plain form, decimal and without
blanks, which is read as the same names and values. -/

namespace ModeParameters

open Text

/-! ## The plain form -/

/-- A name in the plain form: decimal numbers and no blanks, like `PHID.1` or `2:7:8`. -/
def ItemName.print : ItemName → List Char
  | .acronym text none => text.toList
  | .acronym text (some index) => text.toList ++ '.' :: digits 10 index
  | .coordinates span =>
    digits 10 span.startByte ++ ':' :: digits 10 span.startBit ++ ':' :: digits 10 span.width

/-- A value in the plain form, all ones as `-1`. -/
def RawValue.print : RawValue → List Char
  | .number n => digits 10 n
  | .allOnes => ['-', '1']

/-- An item in the plain form: its name, and for `.set` also its value. -/
def Item.print (mode : ItemMode) (item : Item) : List Char :=
  match mode, item.value with
  | .set, some value => item.name.print ++ '=' :: value.print
  | _, _ => item.name.print

/-- Items in the plain form, with commas between them. -/
def Item.printList (mode : ItemMode) (items : List Item) : String :=
  String.ofList ([','].intercalate (items.map (print mode)))

/-- The decimal digits of a number write it. -/
theorem writesSigned_digits (n : Nat) : WritesSigned 10 n (digits 10 n) :=
  .inl (writes_digits (by decide) (by decide) n)

/-- A number below `wordLimit` is spelled by its decimal digits. -/
theorem spellsNumber_digits {n : Nat} (fits : n < wordLimit) : SpellsNumber n (digits 10 n) :=
  ⟨fits, _, .decimal (writesSigned_digits n), .refl _⟩

/-- The plain form of a name that was read `Spells` the name. -/
theorem ItemName.Spells.print {name : ItemName} {cs : List Char} (h : name.Spells cs) :
    name.Spells name.print := by
  cases h with
  | acronym full chars _ =>
    rw [ItemName.print, String.toList_ofList]
    exact .acronym full chars (.refl _)
  | @indexed acronym _ _ index full chars _ fits _ =>
    rw [ItemName.print, String.toList_ofList]
    exact .indexed full chars (writesSigned_digits index) fits (.refl _)
  | coordinates startByte startBit bit width bits =>
    exact .coordinates (spellsNumber_digits startByte.1) (spellsNumber_digits startBit.1) bit
      (spellsNumber_digits width.1) bits

/-- The plain form of a value that was read `Spells` the value. -/
theorem RawValue.Spells.print {value : RawValue} {cs : List Char} (h : value.Spells cs) :
    value.Spells value.print := by
  cases h with
  | allOnes => exact .allOnes
  | @number n _ _ fits => exact .number (.decimal (writesSigned_digits n)) fits

namespace Item

/-- The plain form of an item that was read `Spells` an item with the same name and value. -/
theorem Spells.print {mode : ItemMode} {item : Item} {cs : List Char} (h : Spells mode item cs) :
    ∃ again, Spells mode again (item.print mode) ∧ again.name = item.name ∧
      again.value = item.value := by
  cases h with
  | @bare name _ named =>
    cases mode with
    | get => exact ⟨_, .bare named.print, rfl, rfl⟩
    | clear => exact ⟨_, .bare named.print, rfl, rfl⟩
    | set =>
      -- the implied 1 is written out
      have one : RawValue.Spells (.number 1) (digits 10 1) :=
        .number (.decimal (writesSigned_digits 1)) (by decide)
      exact ⟨_, .valued rfl named.print one (.refl _), rfl, rfl⟩
  | valued change named given _ =>
    subst change
    exact ⟨_, .valued rfl named.print given.print (.refl _), rfl, rfl⟩

/-! ## Entries -/

/-- No item is blank, as `AllBlank` says of a text. -/
theorem Spells.not_allBlank {mode : ItemMode} {item : Item} {cs : List Char}
    (h : Spells mode item cs) : ¬ AllBlank cs := by
  intro blank
  cases h with
  | @bare name _ named =>
    have nothing := ItemName.ofChars?_eq_some_iff.2 named
    rw [trim_eq_nil_iff.2 blank] at nothing
    cases nothing
  | valued => exact absurd (blank '=' (by simp)) (by decide)

/-- An entry is read as the item that it `Spells`. -/
theorem ofEntry_eq_ok_iff {mode : ItemMode} {whole entry : List Char} {item : Item} :
    ofEntry mode whole entry = .ok item ↔ Spells mode item entry := by
  rw [ofEntry]
  split
  · next blank => exact ⟨nofun, fun h => absurd (trim_eq_nil_iff.1 blank) h.not_allBlank⟩
  · exact ofChars_eq_ok_iff

/-- A blank entry is blamed on the `whole` list, any other one on itself. -/
theorem ofEntry_eq_error_iff {mode : ItemMode} {whole entry : List Char} {e : ItemError} :
    ofEntry mode whole entry = .error e ↔
      (AllBlank entry ∧ e = .badItemSyntax (String.ofList whole)) ∨
        (¬ AllBlank entry ∧ ofChars mode entry = .error e) := by
  rw [ofEntry, ← trim_eq_nil_iff]
  split
  · next blank => simp [blank, eq_comm]
  · next full => simp [full]

/-- **A list is read exactly from its entries**: a text for each of its items that `Spells` the
item, with commas between them. -/
theorem parseList_eq_ok_iff {mode : ItemMode} {text : String} {items : List Item} :
    parseList mode text = .ok items ↔
      ∃ entries, entries ≠ [] ∧ text.toList = [','].intercalate entries ∧
        List.Forall₂ (fun entry item => Spells mode item entry) entries items := by
  simp only [parseList, mapM_eq_ok_iff, ofEntry_eq_ok_iff]
  constructor
  · intro h
    exact ⟨_, List.splitOn_ne_nil _ _, (List.intercalate_splitOn ',').symm, h⟩
  · rintro ⟨entries, some, whole, h⟩
    have noComma : ∀ entry ∈ entries, ',' ∉ entry :=
      of_forall₂_left (h.imp fun _ _ spelled => spelled.noComma)
    rwa [whole, List.splitOn_intercalate ',' noComma some]

/-- A list is rejected at the first entry that is blank or no item, `before` being the entries in
front of it. -/
theorem parseList_eq_error_iff {mode : ItemMode} {text : String} {e : ItemError} :
    parseList mode text = .error e ↔
      ∃ before entry after, text.toList.splitOn ',' = before ++ entry :: after ∧
        (∀ good ∈ before, ∃ item, Spells mode item good) ∧
        ((AllBlank entry ∧ e = .badItemSyntax text) ∨
          (¬ AllBlank entry ∧ parse mode (String.ofList entry) = .error e)) := by
  simp only [parseList, mapM_eq_error_iff, ofEntry_eq_ok_iff, ofEntry_eq_error_iff, parse,
    String.toList_ofList, String.ofList_toList]

/-- The plain form of the items of a list, by `printList`, is read as items with the same names and
values. -/
theorem parseList_printList {mode : ItemMode} {text : String} {items : List Item}
    (h : parseList mode text = .ok items) :
    ∃ again, parseList mode (printList mode items) = .ok again ∧
      again.map Item.name = items.map Item.name ∧ again.map Item.value = items.map Item.value := by
  obtain ⟨entries, some, -, spelled⟩ := parseList_eq_ok_iff.1 h
  have some' : items ≠ [] := by
    rintro rfl
    exact some (List.forall₂_nil_right_iff.1 spelled)
  -- entry by entry the plain form is read again
  obtain ⟨again, written, names, values⟩ : ∃ again,
      List.Forall₂ (fun entry item => Spells mode item entry) (items.map (Item.print mode)) again ∧
        again.map Item.name = items.map Item.name ∧ again.map Item.value = items.map Item.value := by
    clear h some some'
    induction spelled with
    | nil => exact ⟨[], .nil, rfl, rfl⟩
    | @cons _ item _ _ first _ ih =>
      obtain ⟨item', first', name, value⟩ := first.print
      obtain ⟨again, written, names, values⟩ := ih
      exact ⟨item' :: again, .cons first' written, by simp [name, names], by simp [value, values]⟩
  refine ⟨again, parseList_eq_ok_iff.2 ⟨_, ?_, String.toList_ofList, written⟩, names, values⟩
  simpa using some'

/-- **Item lists through text.** A list is read exactly when each of its entries `Spells` an item,
and what is read are these items: their names, the values given or implied by the mode, and the
texts of the values. The plain form of what was read (`printList`) is read as the same names and
values. A list is rejected exactly when one of its entries is blank or no item, and the first such
entry decides the error: a blank one is blamed on the whole list. -/
theorem lists_round_trip (mode : ItemMode) (text : String) :
    (∀ items, parseList mode text = .ok items ↔
      ∃ entries, entries ≠ [] ∧ text.toList = [','].intercalate entries ∧
        List.Forall₂ (fun entry item => Spells mode item entry) entries items) ∧
    (∀ items, parseList mode text = .ok items →
      ∃ again, parseList mode (printList mode items) = .ok again ∧
        again.map Item.name = items.map Item.name ∧ again.map Item.value = items.map Item.value) ∧
    ((∃ e, parseList mode text = .error e) ↔
      ∃ entry ∈ text.toList.splitOn ',',
        AllBlank entry ∨ ∃ e, parse mode (String.ofList entry) = .error e) ∧
    ∀ e, parseList mode text = .error e ↔
      ∃ before entry after, text.toList.splitOn ',' = before ++ entry :: after ∧
        (∀ good ∈ before, ¬ AllBlank good ∧ ∃ item, parse mode (String.ofList good) = .ok item) ∧
        ((AllBlank entry ∧ e = .badItemSyntax text) ∨
          (¬ AllBlank entry ∧ parse mode (String.ofList entry) = .error e)) := by
  have good : ∀ entry, (∃ item, Spells mode item entry) ↔
      ¬ AllBlank entry ∧ ∃ item, parse mode (String.ofList entry) = .ok item := by
    intro entry
    simp only [parse, String.toList_ofList, ofChars_eq_ok_iff]
    exact ⟨fun h => ⟨h.elim fun _ spelled => spelled.not_allBlank, h⟩, And.right⟩
  refine ⟨fun _ => parseList_eq_ok_iff, fun _ => parseList_printList, ?_, fun e => ?_⟩
  · constructor
    · rintro ⟨e, failed⟩
      obtain ⟨before, entry, after, whole, -, bad⟩ := parseList_eq_error_iff.1 failed
      refine ⟨entry, by simp [whole], ?_⟩
      rcases bad with ⟨blank, -⟩ | ⟨-, rejected⟩
      · exact .inl blank
      · exact .inr ⟨e, rejected⟩
    · rintro ⟨entry, mem, bad⟩
      rcases read : parseList mode text with e | items
      · exact ⟨e, rfl⟩
      · -- a list that is read has an item for each of its entries
        rw [parseList, mapM_eq_ok_iff] at read
        have accepted := of_forall₂_left (read.imp fun entry item h =>
          (good entry).1 ⟨item, ofEntry_eq_ok_iff.1 h⟩)
        obtain ⟨full, item, taken⟩ := accepted entry mem
        rcases bad with blank | ⟨e, rejected⟩
        · exact absurd blank full
        · rw [taken] at rejected
          cases rejected
  · rw [parseList_eq_error_iff]
    simp only [good]

end Item

end ModeParameters
