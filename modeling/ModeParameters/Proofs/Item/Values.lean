import ModeParameters.Proofs.Item.Grammar

/-! # Which texts are values

The forms of a numeral are tried in turn: a text that begins with a mark of hexadecimal is not judged
by its last letter, and one that ends with a mark is not decimal. So a text has one form at most and
writes one number at most. A text is read as a value exactly when, without the blanks around it, it is
`-1` or has a form that writes a number of 64 bits; every other text is refused. -/

namespace ModeParameters

open Text

/-! ## Forms -/

/-- The text `cs` is `digits` behind a mark of hexadecimal. -/
def BehindMark (digits cs : List Char) : Prop := cs = '0' :: 'x' :: digits ∨ cs = '0' :: 'X' :: digits

/-- The text `cs` is `digits` before a mark of hexadecimal. -/
def BeforeMark (digits cs : List Char) : Prop := cs = digits ++ ['h'] ∨ cs = digits ++ ['H']

/-- The text `cs` has the form of the number `n`. Each form is for the texts that the ones before it
leave. -/
inductive NumberForm (n : Nat) (cs : List Char) : Prop
  /-- Hexadecimal digits behind `0x` or `0X`. -/
  | marked (digits : List Char) (behind : BehindMark digits cs) (written : WritesSigned 16 n digits)
  /-- Hexadecimal digits before `h` or `H`. -/
  | suffixed (digits : List Char) (unmarked : ∀ rest, ¬ BehindMark rest cs)
      (before : BeforeMark digits cs) (written : WritesSigned 16 n digits)
  /-- Decimal digits. -/
  | decimal (unmarked : ∀ rest, ¬ BehindMark rest cs) (unsuffixed : ∀ front, ¬ BeforeMark front cs)
      (written : WritesSigned 10 n cs)

/-- A text with a leading mark has the letter of one in it, `x` or `X`. -/
theorem BehindMark.mem {digits cs : List Char} (h : BehindMark digits cs) : 'x' ∈ cs ∨ 'X' ∈ cs := by
  rcases h with rfl | rfl <;> simp

/-- A text with a trailing mark has the letter of one in it, `h` or `H`. -/
theorem BeforeMark.mem {digits cs : List Char} (h : BeforeMark digits cs) : 'h' ∈ cs ∨ 'H' ∈ cs := by
  rcases h with rfl | rfl <;> simp

/-- What is behind a mark is settled by the text. -/
theorem BehindMark.unique {digits digits' cs : List Char} (h : BehindMark digits cs)
    (h' : BehindMark digits' cs) : digits = digits' := by
  rcases h with rfl | rfl <;> simpa [BehindMark] using h'

/-- What is before a mark is settled by the text. -/
theorem BeforeMark.unique {digits digits' cs : List Char} (h : BeforeMark digits cs)
    (h' : BeforeMark digits' cs) : digits = digits' := by
  rcases h with rfl | rfl <;> simpa [BeforeMark] using h'

/-- **The numerals are the texts that have a form**: `Numeral` and `NumberForm` are the same for
every number. -/
theorem numeral_iff_form {n : Nat} {cs : List Char} : Numeral n cs ↔ NumberForm n cs := by
  constructor
  · intro numeral
    cases numeral with
    | decimal digits =>
      obtain ⟨unmarked, unsuffixed⟩ := digits.noMark
      refine .decimal (fun rest behind => ?_) (fun front before => ?_) digits
      · exact behind.mem.elim unmarked.1 unmarked.2
      · exact before.mem.elim unsuffixed.1 unsuffixed.2
    | marked letter digits =>
      refine .marked _ ?_ digits
      rcases letter with rfl | rfl
      · exact .inl rfl
      · exact .inr rfl
    | @suffixed front mark letter digits =>
      have unmarked := digits.unmarked letter
      refine .suffixed front (fun rest behind => behind.mem.elim unmarked.1 unmarked.2) ?_ digits
      rcases letter with rfl | rfl
      · exact .inl rfl
      · exact .inr rfl
  · intro form
    cases form with
    | marked digits behind written =>
      rcases behind with rfl | rfl
      · exact .marked (.inl rfl) written
      · exact .marked (.inr rfl) written
    | suffixed digits _ before written =>
      rcases before with rfl | rfl
      · exact .suffixed (.inl rfl) written
      · exact .suffixed (.inr rfl) written
    | decimal _ _ written => exact .decimal written

/-- **A text has the form of one number at most.** -/
theorem NumberForm.unique {n n' : Nat} {cs : List Char} (h : NumberForm n cs)
    (h' : NumberForm n' cs) : n = n' := by
  cases h with
  | marked digits behind written =>
    cases h' with
    | marked digits' behind' written' =>
      obtain rfl := behind.unique behind'
      exact written.unique written'
    | suffixed _ unmarked => exact absurd behind (unmarked digits)
    | decimal unmarked => exact absurd behind (unmarked digits)
  | suffixed digits unmarked before written =>
    cases h' with
    | marked digits' behind' => exact absurd behind' (unmarked digits')
    | suffixed digits' _ before' written' =>
      obtain rfl := before.unique before'
      exact written.unique written'
    | decimal _ unsuffixed => exact absurd before (unsuffixed digits)
  | decimal unmarked unsuffixed written =>
    cases h' with
    | marked digits' behind' => exact absurd behind' (unmarked digits')
    | suffixed digits' _ before' => exact absurd before' (unsuffixed digits')
    | decimal _ _ written' => exact written.unique written'

/-- No form has a minus sign. -/
theorem NumberForm.noMinus {n : Nat} {cs : List Char} (h : NumberForm n cs) : '-' ∉ cs :=
  (numeral_iff_form.2 h).ne_minus

/-! ## Values -/

namespace RawValue

variable {text : String}

/-- A text is read as all ones exactly when it is `-1`. -/
theorem parse?_eq_allOnes_iff :
    parse? text = some .allOnes ↔ trim text.toList = ['-', '1'] := by
  rw [parse?, ofChars?_eq_some_iff]
  constructor
  · intro spelled
    generalize trim text.toList = literal at spelled ⊢
    cases spelled
    rfl
  · intro minus
    rw [minus]
    exact .allOnes

/-- A text is read as a number exactly when, without the blanks around it, it has the `NumberForm`
of the number and the number fits. -/
theorem parse?_eq_number_iff {n : Nat} :
    parse? text = some (.number n) ↔ n < wordLimit ∧ NumberForm n (trim text.toList) := by
  rw [parse?, ofChars?_eq_some_iff, ← numeral_iff_form]
  constructor
  · intro spelled
    cases spelled with
    | number numeral fits => exact ⟨fits, numeral⟩
  · rintro ⟨fits, numeral⟩
    exact .number numeral fits

/-- A text is refused as a value exactly when it is neither `-1` nor of the `NumberForm` of a number
that fits. -/
theorem parse?_eq_none_iff : parse? text = none ↔ trim text.toList ≠ ['-', '1'] ∧
    ¬ ∃ n, n < wordLimit ∧ NumberForm n (trim text.toList) := by
  rw [Option.eq_none_iff_forall_ne_some]
  constructor
  · intro refused
    refine ⟨fun minus => refused _ (parse?_eq_allOnes_iff.2 minus), ?_⟩
    rintro ⟨n, fits⟩
    exact refused _ (parse?_eq_number_iff.2 fits)
  · rintro ⟨plain, large⟩ value read
    cases value with
    | allOnes => exact plain (parse?_eq_allOnes_iff.1 read)
    | number n => exact large ⟨n, parse?_eq_number_iff.1 read⟩

/-- **Which texts are values.** Let `literal` be what is left of a text without the blanks around
it. The text is read as all ones exactly when that is `-1`, and as a number exactly when that has
the `NumberForm` of the number and the number has 64 bits. Every other text is refused, among them
each one with another minus sign and each one that has the form of a larger number. -/
theorem accepted_texts (text : String) :
    let literal := trim text.toList
    (Bare literal ∧ Padded literal text.toList) ∧
      (parse? text = some .allOnes ↔ literal = ['-', '1']) ∧
      (∀ n, parse? text = some (.number n) ↔ n < wordLimit ∧ NumberForm n literal) ∧
      (parse? text = none ↔
        literal ≠ ['-', '1'] ∧ ¬ ∃ n, n < wordLimit ∧ NumberForm n literal) ∧
      ('-' ∈ literal → literal ≠ ['-', '1'] → parse? text = none) ∧
      ∀ n, NumberForm n literal → wordLimit ≤ n → parse? text = none := by
  intro literal
  refine ⟨trim_eq_iff.1 rfl, parse?_eq_allOnes_iff, fun n => parse?_eq_number_iff,
    parse?_eq_none_iff, fun minus plain => ?_, fun n form large => ?_⟩
  · refine parse?_eq_none_iff.2 ⟨plain, ?_⟩
    rintro ⟨n, -, form⟩
    exact form.noMinus minus
  · have plain : literal ≠ ['-', '1'] := fun minus =>
      form.noMinus (minus ▸ List.mem_cons_self)
    refine parse?_eq_none_iff.2 ⟨plain, ?_⟩
    -- the text has no other number
    rintro ⟨n', fits, form'⟩
    rw [form'.unique form] at fits
    exact Nat.not_lt.2 large fits

/-- A leading mark goes before a trailing one, and `h` is no digit. -/
example : parse? "0x1fh" = none ∧ parse? " 1Fh\t" = some (.number 31) := by decide +kernel

end RawValue

end ModeParameters
