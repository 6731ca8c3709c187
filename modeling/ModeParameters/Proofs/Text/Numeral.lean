import Mathlib.Data.List.Forall2
import Mathlib.Data.Nat.Digits.Defs
import ModeParameters.Text.Numeral

/-! # What digits write

The number that digits of a base write, the first one weighing most, and after an optional plus
sign. A text is read as a 64-bit number exactly when it is such digits and their number fits; every
number is written by its own digits. An integer is written behind a minus sign or a mark as well, and
no text writes two of them. -/

namespace ModeParameters.Text

/-- The character `c` is the digit `value` of the base, its letter in either case. -/
def IsDigit (base : Nat) (c : Char) (value : Nat) : Prop :=
  value < base ∧ value < 16 ∧ (c = Nat.digitChar value ∨ c = (Nat.digitChar value).toUpper)

/-- The characters `cs` are digits of the base, one or more, that write `n`. -/
def Writes (base n : Nat) (cs : List Char) : Prop :=
  cs ≠ [] ∧ ∃ values, List.Forall₂ (IsDigit base) cs values ∧ Nat.ofDigits base values.reverse = n

/-- The characters `cs` are digits that write `n`, after an optional plus sign. -/
def WritesSigned (base n : Nat) (cs : List Char) : Prop :=
  Writes base n cs ∨ ∃ digits, cs = '+' :: digits ∧ Writes base n digits

/-! ## Digits -/

/-- A character is read as the digit that it `IsDigit`. -/
theorem digitIn?_eq_some_iff {base value : Nat} {c : Char} :
    digitIn? base c = some value ↔ IsDigit base c value := by
  rw [digitIn?, Option.filter_eq_some_iff, IsDigit]
  constructor
  · rintro ⟨read, below⟩
    -- what is read as a digit is an ASCII character
    have small : c.toNat < 128 := by
      rw [digitValue?] at read
      split at read
      · next h => exact Nat.lt_of_le_of_lt (show c.toNat ≤ 57 from h.2) (by decide)
      split at read
      · next h => exact Nat.lt_of_le_of_lt (show c.toNat ≤ 102 from h.2) (by decide)
      split at read
      · next h => exact Nat.lt_of_le_of_lt (show c.toNat ≤ 70 from h.2) (by decide)
      · cases read
    have all : ∀ k : Fin 128, ∀ v ∈ digitValue? (Char.ofNat k), v < 16 ∧
        (Char.ofNat k = Nat.digitChar v ∨ Char.ofNat k = (Nat.digitChar v).toUpper) := by decide
    have digit := all ⟨c.toNat, small⟩ value (by simpa using read)
    rw [Char.ofNat_toNat] at digit
    exact ⟨by simpa using below, digit⟩
  · rintro ⟨below, small, digit⟩
    refine ⟨?_, by simpa using below⟩
    have all : ∀ v : Fin 16, digitValue? (Nat.digitChar v).toUpper = some v.val := by decide
    rcases digit with rfl | rfl
    · exact digitValue?_digitChar small
    · exact all ⟨value, small⟩

/-- What holds of every digit in both cases holds of a character that is one. -/
theorem IsDigit.of_all {p : Char → Bool} {base value : Nat} {c : Char} (h : IsDigit base c value)
    (all : ∀ v : Fin 16, v.val < base →
      p (Nat.digitChar v) = true ∧ p (Nat.digitChar v).toUpper = true) : p c = true := by
  obtain ⟨below, small, rfl | rfl⟩ := h
  · exact (all ⟨value, small⟩ below).1
  · exact (all ⟨value, small⟩ below).2

/-- Further digits multiply what was read so far, `value`, by the base and add what they write
themselves. -/
theorem extendBy?_eq_some_iff {base value n : Nat} {cs : List Char} :
    extendBy? base value cs = some n ↔
      ∃ values, List.Forall₂ (IsDigit base) cs values ∧
        values.foldl (fun before digit => before * base + digit) value = n := by
  induction cs generalizing value with
  | nil =>
    constructor
    · intro h
      exact ⟨[], .nil, Option.some.inj h⟩
    · rintro ⟨values, digits, rfl⟩
      cases digits
      rfl
  | cons c cs ih =>
    rw [extendBy?_cons, Option.bind_eq_some_iff]
    constructor
    · rintro ⟨digit, first, rest⟩
      obtain ⟨values, digits, rfl⟩ := ih.1 rest
      exact ⟨digit :: values, .cons (digitIn?_eq_some_iff.1 first) digits, rfl⟩
    · rintro ⟨values, digits, rfl⟩
      obtain _ | ⟨first, digits⟩ := digits
      exact ⟨_, digitIn?_eq_some_iff.2 first, ih.2 ⟨_, digits, rfl⟩⟩

/-- Multiplying and adding from the first digit on is the value of the digits, `Nat.ofDigits`. -/
theorem foldl_eq_ofDigits (base : Nat) (values : List Nat) :
    values.foldl (fun before digit => before * base + digit) 0 =
      Nat.ofDigits base values.reverse := by
  rw [Nat.ofDigits_eq_foldr, List.foldr_reverse]
  simp [Nat.mul_comm, Nat.add_comm]

/-- Digits are read by `ofDigits?` as the number that they write. -/
theorem ofDigits?_eq_some_iff {base n : Nat} {cs : List Char} :
    ofDigits? base cs = some n ↔ Writes base n cs := by
  rw [ofDigits?, Writes]
  split
  · next empty => simp [empty]
  · next full => simp [full, extendBy?_eq_some_iff, foldl_eq_ofDigits]

/-- What holds of every digit holds of the characters of digits. -/
theorem Writes.of_all {p : Char → Bool} {base n : Nat} {cs : List Char} (h : Writes base n cs)
    (all : ∀ v : Fin 16, v.val < base →
      p (Nat.digitChar v) = true ∧ p (Nat.digitChar v).toUpper = true) : ∀ c ∈ cs, p c = true := by
  obtain ⟨-, values, digits, -⟩ := h
  induction digits with
  | nil => exact nofun
  | cons first _ ih => exact List.forall_mem_cons.2 ⟨first.of_all all, ih⟩

/-- A character that is no digit of either case is not among digits. -/
theorem Writes.notMem {base n : Nat} {cs : List Char} {c : Char} (h : Writes base n cs)
    (other : ∀ v : Fin 16, Nat.digitChar v ≠ c ∧ (Nat.digitChar v).toUpper ≠ c) : c ∉ cs := by
  intro mem
  have self := h.of_all (p := (· != c)) (fun v _ => by simpa using other v) c mem
  simp at self

/-- Digits after an optional plus sign are read as the number that they write, if it is below
`wordLimit`. -/
theorem readWord?_eq_some_iff {base n : Nat} {cs : List Char} :
    readWord? base cs = some n ↔ WritesSigned base n cs ∧ n < wordLimit := by
  rw [readWord?, Option.filter_eq_some_iff, decide_eq_true_eq, ofDigits?_eq_some_iff, WritesSigned]
  refine and_congr_left fun _ => ?_
  rcases cs with _ | ⟨c, cs⟩
  · simp [dropPlus, Writes]
  by_cases plus : c = '+'
  · subst plus
    have noDigits : ¬ Writes base n ('+' :: cs) := fun h =>
      h.notMem (by decide) List.mem_cons_self
    simp [dropPlus, noDigits]
  · have whole : dropPlus (c :: cs) = c :: cs := by
      unfold dropPlus
      split
      · next h => exact absurd (List.cons.inj h).1 plus
      · rfl
    simp [whole, plus]

/-- What holds of every digit and of `+` holds of the characters of signed digits. -/
theorem WritesSigned.of_all {p : Char → Bool} {base n : Nat} {cs : List Char}
    (h : WritesSigned base n cs) (plus : p '+' = true)
    (all : ∀ v : Fin 16, v.val < base →
      p (Nat.digitChar v) = true ∧ p (Nat.digitChar v).toUpper = true) : ∀ c ∈ cs, p c = true := by
  rcases h with h | ⟨digits, rfl, h⟩
  · exact h.of_all all
  · exact List.forall_mem_cons.2 ⟨plus, h.of_all all⟩

/-- A character that is neither a digit nor `+` is not among signed digits. -/
theorem WritesSigned.notMem {base n : Nat} {cs : List Char} {c : Char} (h : WritesSigned base n cs)
    (plus : c ≠ '+') (other : ∀ v : Fin 16, Nat.digitChar v ≠ c ∧ (Nat.digitChar v).toUpper ≠ c) :
    c ∉ cs := by
  rcases h with h | ⟨digits, rfl, h⟩
  · exact h.notMem other
  · exact List.not_mem_cons_of_ne_of_not_mem plus (h.notMem other)

/-- No digits write no number. -/
theorem WritesSigned.ne_nil {base n : Nat} {cs : List Char} (h : WritesSigned base n cs) :
    cs ≠ [] := by
  rcases h with h | ⟨digits, rfl, -⟩
  · exact h.1
  · exact List.cons_ne_nil _ _

/-! ## A number in its own digits -/

/-- A number is written by its `digits`. -/
theorem writes_digits {base : Nat} (two : 1 < base) (small : base ≤ 16) (n : Nat) :
    Writes base n (digits base n) := by
  have digit : ∀ value < base, IsDigit base (Nat.digitChar value) value := fun value below =>
    ⟨below, by omega, .inl rfl⟩
  induction n using Nat.strongRecOn with
  | ind n ih =>
    rcases Nat.lt_or_ge n base with below | above
    · rw [digits, Nat.toDigits_of_lt_base below]
      exact ⟨List.cons_ne_nil _ _, [n], .cons (digit n below) .nil, by simp⟩
    · obtain ⟨-, values, written, value⟩ := ih (n / base) (Nat.div_lt_self (by omega) two)
      rw [digits, Nat.toDigits_of_base_le two above]
      have last := digit (n % base) (Nat.mod_lt n (by omega))
      refine ⟨by simp, values ++ [n % base], List.rel_append written (.cons last .nil), ?_⟩
      rw [List.reverse_append, List.reverse_singleton, List.singleton_append, Nat.ofDigits_cons,
        value]
      exact Nat.mod_add_div n base

/-! ## Integers -/

/-- The characters `cs` write an integer: decimal digits, behind `-` for one that is not positive,
or hexadecimal digits behind `0x`. -/
inductive Denotes : Int → List Char → Prop
  /-- Decimal digits. -/
  | decimal {n : Nat} {cs : List Char} (digits : Writes 10 n cs) : Denotes n cs
  /-- Decimal digits behind `-`. -/
  | negative {n : Nat} {cs : List Char} (digits : Writes 10 n cs) : Denotes (-n) ('-' :: cs)
  /-- Hexadecimal digits behind `0x`. -/
  | marked {n : Nat} {cs : List Char} (digits : Writes 16 n cs) : Denotes n ('0' :: 'x' :: cs)

/-- Digits write one number. -/
theorem Writes.unique {base n n' : Nat} {cs : List Char} (h : Writes base n cs)
    (h' : Writes base n' cs) : n = n' :=
  Option.some.inj ((ofDigits?_eq_some_iff.2 h).symm.trans (ofDigits?_eq_some_iff.2 h'))

/-- Signed digits write one number. -/
theorem WritesSigned.unique {base n n' : Nat} {cs : List Char} (h : WritesSigned base n cs)
    (h' : WritesSigned base n' cs) : n = n' := by
  have unsigned {m : Nat} {digits : List Char} : ¬ Writes base m ('+' :: digits) := fun written =>
    written.notMem (by decide) List.mem_cons_self
  rcases h with h | ⟨digits, rfl, h⟩
  · rcases h' with h' | ⟨digits, rfl, -⟩
    · exact h.unique h'
    · exact absurd h unsigned
  · rcases h' with h' | ⟨digits', same, h'⟩
    · exact absurd h' unsigned
    · obtain rfl := (List.cons.inj same).2
      exact h.unique h'

/-- Neither `-` nor `x` is among decimal digits. -/
theorem Writes.unsigned {n : Nat} {cs : List Char} (h : Writes 10 n cs) : '-' ∉ cs ∧ 'x' ∉ cs :=
  ⟨h.notMem (by decide), h.notMem (by decide)⟩

/-- A text `Denotes` one integer. -/
theorem Denotes.unique {z z' : Int} {cs : List Char} (h : Denotes z cs) (h' : Denotes z' cs) :
    z = z' := by
  cases h with
  | decimal digits =>
    cases h' with
    | decimal digits' => rw [digits.unique digits']
    | negative => exact absurd List.mem_cons_self digits.unsigned.1
    | marked => exact absurd (List.mem_cons_of_mem _ List.mem_cons_self) digits.unsigned.2
  | negative digits =>
    cases h' with
    | decimal digits' => exact absurd List.mem_cons_self digits'.unsigned.1
    | negative digits' => rw [digits.unique digits']
  | marked digits =>
    cases h' with
    | decimal digits' => exact absurd (List.mem_cons_of_mem _ List.mem_cons_self) digits'.unsigned.2
    | marked digits' => rw [digits.unique digits']

/-- A number is denoted by its hexadecimal text, `markedHex`. -/
theorem denotes_markedHex (n : Nat) : Denotes n (markedHex n).toList := by
  have text : (markedHex n).toList = '0' :: 'x' :: digits 16 n := by simp [markedHex]
  rw [text]
  exact .marked (writes_digits (by decide) (by decide) n)

/-- An integer is denoted by its decimal text, `signedDecimal`. -/
theorem denotes_signedDecimal (z : Int) : Denotes z (signedDecimal z).toList := by
  cases z with
  | ofNat n =>
    rw [signedDecimal, toList_decimal]
    exact .decimal (writes_digits (by decide) (by decide) n)
  | negSucc n =>
    have text : (signedDecimal (.negSucc n)).toList = '-' :: digits 10 (n + 1) := by
      simp [signedDecimal]
    rw [text]
    exact .negative (writes_digits (by decide) (by decide) (n + 1))

end ModeParameters.Text
