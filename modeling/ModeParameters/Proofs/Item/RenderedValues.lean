import Mathlib.Data.Int.ModEq
import ModeParameters.Proofs.Item.Names
import ModeParameters.Registry.Sample

/-! # Texts of values as values of items

The text of a value can be given back as the value of an item. Each style writes one integer, which is
the value up to a multiple of the number of values that the field has. The texts that are refused as
values are those of negative integers, but for `-1`; every other one sets the field to the value that it
is the text of, and no bit is lost. `-1` means all ones wherever it comes from: it is the text of all
ones, and of no other value. -/

namespace ModeParameters

open Text (Denotes decimal digits markedHex signedDecimal trim wordLimit)

/-! ## Integers as values of items -/

/-- A text of an integer as values are printed, by `signedDecimal` or by `markedHex`. -/
inductive Text.Prints : Int → String → Prop
  /-- In decimal digits, behind a minus sign for a negative one. -/
  | decimal (z : Int) : Prints z (signedDecimal z)
  /-- In hexadecimal digits behind `0x`. -/
  | hex (n : Nat) : Prints n (markedHex n)

/-- The text of an integer `Denotes` this integer and no other. -/
theorem Text.Prints.denotes_iff {z : Int} {text : String} (printed : Prints z text) (z' : Int) :
    Denotes z' text.toList ↔ z' = z := by
  have own : Denotes z text.toList := by
    cases printed with
    | decimal => exact denotes_signedDecimal z
    | hex n => exact denotes_markedHex n
  exact ⟨fun other => other.unique own, fun same => same ▸ own⟩

namespace RawValue

/-- The value that an integer asks for: a number, or all ones for `-1`. -/
def ofInt? : Int → Option RawValue
  | .ofNat n => some (.number n)
  | .negSucc 0 => some .allOnes
  | .negSucc (_ + 1) => none

/-- No value is asked for by a negative integer other than `-1`. -/
theorem ofInt?_eq_none_iff {z : Int} : ofInt? z = none ↔ z < 0 ∧ z ≠ -1 := by
  match z with
  | .ofNat n =>
    exact iff_of_false nofun fun negative => absurd negative.1 (Int.not_lt.2 (Int.natCast_nonneg n))
  | .negSucc 0 => exact iff_of_false nofun fun other => other.2 rfl
  | .negSucc (n + 1) => exact iff_of_true rfl ⟨by omega, by omega⟩

/-- A numeral for a number below `wordLimit` is read as this number. -/
theorem ofChars?_of_numeral {n : Nat} {cs : List Char} (numeral : Numeral n cs)
    (fits : n < wordLimit) : ofChars? cs = some (.number n) := by
  rw [ofChars?_eq_some_iff, Text.trim_of_padded numeral.bare (.refl cs)]
  exact .number numeral fits

/-- Behind a minus sign only the digit `1` is a value. -/
theorem ofChars?_minus {cs : List Char} (bare : Text.Bare ('-' :: cs)) :
    ofChars? ('-' :: cs) = if cs = ['1'] then some .allOnes else none := by
  split
  · next one => rw [one]; decide +kernel
  · next other =>
    rw [Option.eq_none_iff_forall_ne_some]
    intro raw read
    rw [ofChars?_eq_some_iff, Text.trim_of_padded bare (.refl _)] at read
    cases read with
    | allOnes => exact other rfl
    | number numeral => exact numeral.ne_minus List.mem_cons_self

/-- The text of an integer below `wordLimit` is read as `ofInt?` of it, the value that it asks
for. -/
theorem parse?_of_prints {z : Int} {text : String} (printed : Text.Prints z text)
    (fits : z < wordLimit) : parse? text = ofInt? z := by
  cases printed with
  | hex n =>
    have written : Text.WritesSigned 16 n (digits 16 n) :=
      .inl (Text.writes_digits (by decide) (by decide) n)
    have text : (markedHex n).toList = '0' :: 'x' :: digits 16 n := by simp [markedHex]
    rw [parse?, text]
    exact ofChars?_of_numeral (.marked (.inl rfl) written) (by exact_mod_cast fits)
  | decimal z =>
    have written (n : Nat) : Text.Writes 10 n (digits 10 n) :=
      Text.writes_digits (by decide) (by decide) n
    cases z with
    | ofNat n =>
      rw [parse?, signedDecimal, Text.toList_decimal]
      exact ofChars?_of_numeral (.decimal (.inl (written n))) (Int.ofNat_lt.1 fits)
    | negSucc n =>
      have text : (signedDecimal (.negSucc n)).toList = '-' :: digits 10 (n + 1) := by
        simp [signedDecimal]
      have bare : Text.Bare ('-' :: digits 10 (n + 1)) :=
        Text.bare_of_forall (List.forall_mem_cons.2 ⟨by decide, fun c mem => by
          simpa using (written (n + 1)).of_all (p := fun c => !Text.isBlank c) (by decide) c mem⟩)
      -- 1 is the only number with the digit 1 alone
      have one : digits 10 (n + 1) = ['1'] ↔ n = 0 := by
        refine ⟨fun same => ?_, fun zero => by rw [zero]; rfl⟩
        have single : Text.Writes 10 1 (digits 10 (n + 1)) := by
          rw [same]
          exact written 1
        have := (written (n + 1)).unique single
        omega
      rw [parse?, text, ofChars?_minus bare]
      cases n with
      | zero => rw [if_pos (one.2 rfl)]; rfl
      | succ n => rw [if_neg (by simp [one])]; rfl

end RawValue

/-! ## The integer of a value -/

namespace FieldValue

/-- The integer that stands for a value where it is shown with a sign: `signed?` of it, or else its
bits within the width. -/
def signedNumber (value width : Nat) : Int := (signed? value width).getD (value &&& mask width : Nat)

/-- The integer that the text of a value writes. -/
def shown (fieldValue : FieldValue) (width : Nat) (presentation : Presentation) : ValueStyle → Int
  | .auto =>
    if fieldValue.allOnes then -1
    else if presentation.signed then signedNumber fieldValue.value width
    else fieldValue.value
  | .decimal => fieldValue.value
  | .hex => fieldValue.value
  | .signed => signedNumber fieldValue.value width

/-- The text that `signedText` makes is that of the signed number. -/
theorem prints_signedText (value width : Nat) :
    Text.Prints (signedNumber value width) (signedText value width false) := by
  unfold signedNumber signedText
  cases signed? value width with
  | none => exact .decimal (.ofNat _)
  | some z => exact .decimal z

/-- The text of a value is that of the integer that is `shown`. -/
theorem prints_render (fieldValue : FieldValue) (width : Nat) (presentation : Presentation)
    (style : ValueStyle) :
    Text.Prints (fieldValue.shown width presentation style)
      (fieldValue.render width presentation style) := by
  have minusOne : Text.Prints (-1) "-1" := .decimal (-1)
  cases style with
  | decimal => exact .decimal (.ofNat _)
  | hex => exact .hex _
  | signed => exact prints_signedText _ _
  | auto =>
    unfold shown render autoText
    dsimp only
    split
    · exact minusOne
    split
    · exact prints_signedText _ _
    split
    · exact .hex _
    · exact .decimal (.ofNat _)

/-- A field has a value: `1 <<< width` is the number of values. -/
theorem one_shiftLeft_pos (width : Nat) : 0 < 1 <<< width := by
  rw [Nat.one_shiftLeft]
  exact Nat.two_pow_pos width

/-- One more bit doubles the number of values. -/
theorem one_shiftLeft_eq {width : Nat} (positive : 0 < width) :
    1 <<< width = 2 * (1 <<< (width - 1)) := by
  rw [Nat.one_shiftLeft, Nat.one_shiftLeft, ← Nat.pow_succ']
  congr 1
  omega

/-- The integer `z` stands for a value of a field of `width` bits. -/
structure Stands (width value : Nat) (z : Int) : Prop where
  /-- Its low bits are those of the value. -/
  modEq : z ≡ value [ZMOD (1 <<< width : Nat)]
  /-- It has no more bits than the field. -/
  lt : z < (1 <<< width : Nat)

variable {width value : Nat}

/-- A value of a field below `1 <<< width` stands for itself. -/
theorem stands_self (fits : value < 1 <<< width) : Stands width value value :=
  ⟨rfl, Int.ofNat_lt.2 fits⟩

/-- `-1` stands for all ones. -/
theorem stands_minus_one (word : width ≤ 64) (ones : value = mask width) :
    Stands width value (-1) := by
  have positive := one_shiftLeft_pos width
  have whole : (value : Int) = -1 + (1 <<< width : Nat) := by
    rw [ones, mask_eq word]
    omega
  refine ⟨?_, by omega⟩
  rw [whole]
  exact (Int.add_modEq_right).symm

/-- The integers of two's complement in `width` bits: half of them negative. -/
def InSignedRange (width : Nat) (z : Int) : Prop :=
  -((1 <<< (width - 1) : Nat) : Int) ≤ z ∧ z < (1 <<< (width - 1) : Nat)

/-- The number in two's complement is the one `InSignedRange` with the same low bits. -/
theorem signedNumber_eq_iff (listed : width ∈ signedWidths) (z : Int) :
    z = signedNumber value width ↔
      z ≡ value [ZMOD (1 <<< width : Nat)] ∧ InSignedRange width z := by
  have positive : 0 < width := by
    have all : ∀ w ∈ signedWidths, 0 < w := by decide
    exact all width listed
  have number : signedNumber value width = Int.bmod value (1 <<< width) := by
    rw [signedNumber, signed?, if_pos (List.contains_iff_mem.2 listed)]
    rfl
  have halves := one_shiftLeft_eq positive
  have some := one_shiftLeft_pos width
  rw [number]
  constructor
  · rintro rfl
    have least := Int.le_bmod (x := value) some
    have greatest := Int.bmod_lt (x := value) some
    exact ⟨Int.bmod_emod, by omega, by omega⟩
  · rintro ⟨same, least, greatest⟩
    have own : z.bmod (1 <<< width) = z := Int.bmod_eq_of_le (by omega) (by omega)
    rw [← own, ← Int.emod_bmod z, same, Int.emod_bmod]

/-- The `signedNumber` of a value stands for it. -/
theorem stands_signedNumber (positive : 0 < width) (word : width ≤ 64) (fits : value < 1 <<< width) :
    Stands width value (signedNumber value width) := by
  by_cases listed : width ∈ signedWidths
  · obtain ⟨same, -, greatest⟩ := (signedNumber_eq_iff listed (signedNumber value width)).1 rfl
    have halves := one_shiftLeft_eq positive
    exact ⟨same, by omega⟩
  · have number : signedNumber value width = value := by
      rw [signedNumber, signed?, if_neg (by simpa using listed), Option.getD_none, and_mask,
        Nat.min_eq_left word, Nat.mod_eq_of_lt fits]
    rw [number]
    exact stands_self fits

/-- What is `shown` of a value stands for it. -/
theorem stands_shown (positive : 0 < width) (word : width ≤ 64) (fits : value < 1 <<< width)
    (presentation : Presentation) (style : ValueStyle) :
    Stands width value ((ofNat value width).shown width presentation style) := by
  have signed := stands_signedNumber positive word fits
  cases style with
  | decimal => exact stands_self fits
  | hex => exact stands_self fits
  | signed => exact signed
  | auto =>
    unfold shown
    dsimp only
    split
    · next ones =>
      have full : value = mask width := by
        simp only [ofNat, isAllOnes, Bool.and_eq_true, beq_iff_eq] at ones
        exact ones.2
      exact stands_minus_one word full
    split
    · exact signed
    · exact stands_self fits

/-- **What stands for a value sets it**, as far as `ofInt?` makes a value of it at all. -/
theorem Stands.sets {z : Int} (stands : Stands width value z) (word : width ≤ 64)
    (fits : value < 1 <<< width) {raw : RawValue} (asked : RawValue.ofInt? z = some raw) :
    Action.ofValue width (some raw) = .set value ∧ ∀ n, raw = .number n → n = value := by
  match z, stands with
  | .ofNat n, ⟨same, small⟩ =>
    cases asked
    have equal : n = value := by
      have low : n % (1 <<< width) = value % (1 <<< width) := Int.natCast_modEq_iff.1 same
      rwa [Nat.mod_eq_of_lt (Int.ofNat_lt.1 small), Nat.mod_eq_of_lt fits] at low
    have kept : n &&& mask width = value := by
      rw [and_mask, Nat.min_eq_left word, equal, Nat.mod_eq_of_lt fits]
    exact ⟨congrArg Action.set kept, fun n' same => by cases same; exact equal⟩
  | .negSucc 0, ⟨same, _⟩ =>
    cases asked
    have full : mask width = value := by
      have ones : (mask width : Int) ≡ value [ZMOD (1 <<< width : Nat)] := by
        have self := (stands_minus_one word (rfl : mask width = mask width)).modEq
        exact self.symm.trans same
      have low : mask width % (1 <<< width) = value % (1 <<< width) := Int.natCast_modEq_iff.1 ones
      rw [Nat.mod_eq_of_lt fits, Nat.mod_eq_of_lt] at low
      · exact low
      · rw [mask_eq word]
        omega
    exact ⟨congrArg Action.set full, nofun⟩
  | .negSucc (n + 1), _ => cases asked

end FieldValue

/-! ## Giving a text back -/

/-- A text as the value of an item sets a field to a number: behind every name, the item is read,
and wherever it means the field it is bound to it with `.set value`, of which nothing is cut. -/
def SetsTo (field : Field) (value : Nat) (text : String) : Prop :=
  ∀ (nameText : String) (name : ItemName), name.Spells nameText.toList →
    ∃ item, Item.parse .set (Item.written nameText (some text)) = .ok item ∧ item.name = name ∧
      ∀ (context : LookupContext) (page : Option PageKey),
        (context.fieldOf page item).value = .ok field →
          ∃ binding, (context.resolve [item] page).value = .ok ⟨field.page, [binding]⟩ ∧
            binding.field = field ∧ binding.action = .set value ∧ binding.isTruncated = false

/-- A value that `Action.ofValue` makes set a field to a number sets it to this number in every
item. -/
theorem setsTo_of_parse? {field : Field} {value : Nat} {text : String} {raw : RawValue}
    (read : RawValue.parse? text = some raw)
    (sets : Action.ofValue field.span.width (some raw) = .set value)
    (whole : ∀ n, raw = .number n → n = value) : SetsTo field value text := by
  intro nameText name spelled
  have trimmed : RawValue.ofChars? (trim text.toList) = some raw := by
    rw [RawValue.ofChars?_eq_some_iff, Text.trim_trim]
    exact RawValue.ofChars?_eq_some_iff.1 read
  let item : Item := ⟨Item.written nameText (some text), name, some raw,
    some (String.ofList (trim text.toList))⟩
  have parsed : Item.parse .set (Item.written nameText (some text)) = .ok item := by
    rw [Item.parse_written spelled]
    simp only [Option.map_some, Item.valueFor, trimmed]
    rfl
  refine ⟨item, parsed, rfl, fun context page found => ?_⟩
  refine ⟨item.bindTo field, ?_, rfl, sets, ?_⟩
  · rw [LookupContext.resolve_singleton_eq_ok_iff]
    exact ⟨_, LookupContext.bind_eq_ok_iff.2 ⟨field, found, rfl⟩,
      by rw [Item.bindTo, LookupContext.page_of_fieldOf found]⟩
  · cases raw with
    | allOnes =>
      refine Item.isTruncated_bindTo_of_ne fun n asked => ?_
      cases asked
    | number n =>
      obtain rfl := whole n rfl
      have kept : (item.bindTo field).action = .set n := sets
      unfold Binding.isTruncated
      rw [kept]
      exact bne_self_eq_false n

/-- **Texts of values are never misread.** For every field of 1 to 64 bits, every value that fits it
and every style, what `render` writes `Denotes` one integer, with the same low bits as the value; in
the signed style, at the `signedWidths`, it is that of the signed range. The text is refused as a
value exactly when the integer is negative and not `-1`, and otherwise it `SetsTo` the value. -/
theorem FieldValue.rendered_values (field : Field) (value : Nat) (style : ValueStyle)
    (positive : 0 < field.span.width) (word : field.span.width ≤ 64)
    (fits : value < 1 <<< field.span.width) :
    let width := field.span.width
    let text := (FieldValue.ofNat value width).render width field.presentation style
    ∃ shown : Int, (∀ z, Denotes z text.toList ↔ z = shown) ∧
      shown ≡ value [ZMOD (1 <<< width : Nat)] ∧
      (style = .signed → width ∈ signedWidths →
        ∀ z, z = shown ↔ z ≡ value [ZMOD (1 <<< width : Nat)] ∧ InSignedRange width z) ∧
      (RawValue.parse? text = none ↔ shown < 0 ∧ shown ≠ -1) ∧
      (¬ (shown < 0 ∧ shown ≠ -1) → SetsTo field value text) := by
  intro width text
  have printed := prints_render (FieldValue.ofNat value width) width field.presentation style
  have stands := stands_shown positive word fits field.presentation style
  have small : (FieldValue.ofNat value width).shown width field.presentation style < wordLimit := by
    have limit : 1 <<< width ≤ wordLimit := by
      rw [Nat.one_shiftLeft]
      exact Nat.pow_le_pow_right (by decide) word
    exact lt_of_lt_of_le stands.lt (Int.ofNat_le.2 limit)
  have read := RawValue.parse?_of_prints printed small
  refine ⟨_, printed.denotes_iff, stands.modEq, ?_, ?_, fun accepted => ?_⟩
  · rintro rfl listed z
    exact signedNumber_eq_iff listed z
  · rw [read, RawValue.ofInt?_eq_none_iff]
  · rw [← RawValue.ofInt?_eq_none_iff] at accepted
    obtain ⟨raw, asked⟩ := Option.ne_none_iff_exists'.1 accepted
    obtain ⟨sets, whole⟩ := stands.sets word fits asked
    exact setsTo_of_parse? (read.trans asked) sets whole

/-! ## All ones without a sentinel -/

namespace Sample

open ModeParameters.Field (named)

/-- The sample tables as a disk sees them. -/
def diskContext : LookupContext := ⟨registry, .generic, some .disk⟩

/-- Four bits have no `-1` of their own. All ones are shown as `-1` with a sign, and `-1` sets all ones
again. -/
theorem retention_given_back :
    let field := named "DRRP" caching.key ⟨3, 7, 4⟩ "Demand read retention priority"
    0 < field.span.width ∧ field.span.width ≤ 64 ∧ 15 < 1 <<< field.span.width ∧
      (FieldValue.ofNat 15 4).render 4 field.presentation .signed = "-1" ∧ SetsTo field 15 "-1" ∧
      ∃ item, Item.parse .set "DRRP=-1" = .ok item ∧
        ∃ binding, (diskContext.resolve [item] none).value = .ok ⟨caching.key, [binding]⟩ ∧
          binding.field = field ∧ binding.action = .set 15 ∧ binding.isTruncated = false := by
  intro field
  have text : (FieldValue.ofNat 15 4).render 4 field.presentation .signed = "-1" := by decide +kernel
  obtain ⟨shown, -, -, -, refused, sets⟩ :=
    FieldValue.rendered_values field 15 .signed (by decide) (by decide) (by decide)
  have read : RawValue.parse? "-1" = some .allOnes := by decide +kernel
  have given : SetsTo field 15 "-1" := by
    refine text ▸ sets fun negative => ?_
    have none : RawValue.parse? "-1" = none := text ▸ refused.2 negative
    cases read.symm.trans none
  refine ⟨by decide, by decide, by decide, text, given, ?_⟩
  have full : "DRRP".toList ≠ [] := by decide
  have letters : "DRRP".toList.all isAcronymChar = true := by decide
  have spelled : (ItemName.acronym "DRRP" none).Spells "DRRP".toList :=
    .acronym full (List.all_eq_true.1 letters) (.refl _)
  obtain ⟨item, parsed, name, resolves⟩ := given "DRRP" _ spelled
  refine ⟨item, parsed, resolves diskContext none ?_⟩
  rw [LookupContext.fieldOf_acronym_eq_ok_iff name]
  decide +kernel

end Sample

end ModeParameters
