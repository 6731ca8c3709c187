import ModeParameters.Item.Parser
import ModeParameters.Proofs.Attempt
import ModeParameters.Proofs.Text.Numeral
import ModeParameters.Proofs.Text.Padding

/-! # The notation of items

Which texts write a number, a value, a name and an item. Each notation is a relation between what is
written and its text, with every blank, mark and sign that a text may have; each reader accepts
exactly the texts of its notation and returns what they write. -/

namespace ModeParameters

open Text

/-! ## Numbers -/

/-- The notation of a number: decimal digits, or hexadecimal ones behind `0x` or before `h`. -/
inductive Numeral (n : Nat) : List Char → Prop
  /-- Decimal digits. -/
  | decimal {cs : List Char} (digits : WritesSigned 10 n cs) : Numeral n cs
  /-- Hexadecimal digits behind `0x` or `0X`. -/
  | marked {cs : List Char} {mark : Char} (letter : mark = 'x' ∨ mark = 'X')
      (digits : WritesSigned 16 n cs) : Numeral n ('0' :: mark :: cs)
  /-- Hexadecimal digits before `h` or `H`. -/
  | suffixed {cs : List Char} {mark : Char} (letter : mark = 'h' ∨ mark = 'H')
      (digits : WritesSigned 16 n cs) : Numeral n (cs ++ [mark])

/-- The text `cs` is a numeral for the 64-bit number `n` between blanks. -/
def SpellsNumber (n : Nat) (cs : List Char) : Prop :=
  n < wordLimit ∧ ∃ numeral, Numeral n numeral ∧ Padded numeral cs

/-- A text without `x` and `X`, the letters of a leading mark, is judged by its last character. -/
theorem readNumber?_of_notMem {cs : List Char} (unmarked : 'x' ∉ cs ∧ 'X' ∉ cs) :
    readNumber? cs =
      if cs.getLast? = some 'h' ∨ cs.getLast? = some 'H' then readWord? 16 cs.dropLast
      else readWord? 10 cs := by
  unfold readNumber?
  split
  · exact absurd (by simp) unmarked.1
  · exact absurd (by simp) unmarked.2
  · rfl

/-- No letter of a mark, be it `x` or `h`, is among signed digits. -/
theorem Text.WritesSigned.noMark {base n : Nat} {cs : List Char} (h : WritesSigned base n cs) :
    ('x' ∉ cs ∧ 'X' ∉ cs) ∧ 'h' ∉ cs ∧ 'H' ∉ cs :=
  ⟨⟨h.notMem (by decide) (by decide), h.notMem (by decide) (by decide)⟩,
    h.notMem (by decide) (by decide), h.notMem (by decide) (by decide)⟩

/-- No letter of a leading mark, `x` or `X`, is in a text that ends with a mark. -/
theorem Text.WritesSigned.unmarked {base n : Nat} {cs : List Char} {mark : Char}
    (h : WritesSigned base n cs) (letter : mark = 'h' ∨ mark = 'H') :
    'x' ∉ cs ++ [mark] ∧ 'X' ∉ cs ++ [mark] := by
  have other : 'x' ≠ mark ∧ 'X' ≠ mark := by rcases letter with rfl | rfl <;> decide
  simpa [h.noMark.1] using other

/-- A text is read as a number exactly when it is a `Numeral` for it that fits. -/
theorem readNumber?_eq_some_iff {n : Nat} {cs : List Char} :
    readNumber? cs = some n ↔ Numeral n cs ∧ n < wordLimit := by
  constructor
  · intro h
    unfold readNumber? at h
    split at h
    · obtain ⟨digits, fits⟩ := readWord?_eq_some_iff.1 h
      exact ⟨.marked (.inl rfl) digits, fits⟩
    · obtain ⟨digits, fits⟩ := readWord?_eq_some_iff.1 h
      exact ⟨.marked (.inr rfl) digits, fits⟩
    split at h
    · next last =>
      obtain ⟨digits, fits⟩ := readWord?_eq_some_iff.1 h
      obtain ⟨mark, letter, whole⟩ :
          ∃ mark, (mark = 'h' ∨ mark = 'H') ∧ cs.dropLast ++ [mark] = cs := by
        rcases last with last | last
        · exact ⟨'h', .inl rfl, List.dropLast_append_getLast? _ last⟩
        · exact ⟨'H', .inr rfl, List.dropLast_append_getLast? _ last⟩
      rw [← whole]
      exact ⟨.suffixed letter digits, fits⟩
    · obtain ⟨digits, fits⟩ := readWord?_eq_some_iff.1 h
      exact ⟨.decimal digits, fits⟩
  · rintro ⟨numeral, fits⟩
    cases numeral with
    | decimal digits =>
      obtain ⟨unmarked, unsuffixed⟩ := digits.noMark
      have last : ¬(cs.getLast? = some 'h' ∨ cs.getLast? = some 'H') := by
        rintro (last | last)
        · exact unsuffixed.1 (List.mem_of_getLast? last)
        · exact unsuffixed.2 (List.mem_of_getLast? last)
      rw [readNumber?_of_notMem unmarked, if_neg last]
      exact readWord?_eq_some_iff.2 ⟨digits, fits⟩
    | marked letter digits =>
      rcases letter with rfl | rfl
      all_goals exact readWord?_eq_some_iff.2 ⟨digits, fits⟩
    | @suffixed front mark letter digits =>
      rw [readNumber?_of_notMem (digits.unmarked letter), if_pos (by simpa using letter),
        List.dropLast_concat]
      exact readWord?_eq_some_iff.2 ⟨digits, fits⟩

/-- The characters of a numeral are letters, figures and `+`. -/
theorem Numeral.chars {n : Nat} {cs : List Char} (h : Numeral n cs) :
    ∀ c ∈ cs, (c.isAlphanum || c == '+') = true := by
  cases h with
  | decimal digits => exact digits.of_all (by decide) (by decide)
  | marked letter digits =>
    have rest := digits.of_all (p := fun c => c.isAlphanum || c == '+') (by decide) (by decide)
    refine List.forall_mem_cons.2 ⟨by decide, List.forall_mem_cons.2 ⟨?_, rest⟩⟩
    rcases letter with rfl | rfl <;> decide
  | suffixed letter digits =>
    have front := digits.of_all (p := fun c => c.isAlphanum || c == '+') (by decide) (by decide)
    refine List.forall_mem_append.2 ⟨front, List.forall_mem_singleton.2 ?_⟩
    rcases letter with rfl | rfl <;> decide

/-- No numeral is empty. -/
theorem Numeral.ne_nil {n : Nat} {cs : List Char} (h : Numeral n cs) : cs ≠ [] := by
  cases h with
  | decimal digits => exact digits.ne_nil
  | marked => exact List.cons_ne_nil _ _
  | suffixed => simp

/-- No blank begins or ends a numeral: it is `Bare`. -/
theorem Numeral.bare {n : Nat} {cs : List Char} (h : Numeral n cs) : Bare cs := by
  refine bare_of_forall fun c mem => ?_
  have char := h.chars c mem
  rw [Bool.or_eq_true, beq_iff_eq] at char
  rcases char with letter | rfl
  · exact isBlank_eq_false_of_isAlphanum letter
  · decide

/-- A text is read as a number exactly when it `SpellsNumber`: a numeral for it between blanks. -/
theorem parseNumber_eq_some_iff {n : Nat} {cs : List Char} :
    parseNumber cs = some n ↔ SpellsNumber n cs := by
  rw [parseNumber, readNumber?_eq_some_iff, SpellsNumber, and_comm]
  refine and_congr_right fun _ => ⟨fun numeral => ⟨_, numeral, padded_trim cs⟩, ?_⟩
  rintro ⟨core, numeral, padded⟩
  rwa [trim_of_padded numeral.bare padded]

/-- A text is read as a byte exactly when it `SpellsNumber` and the number is below 256. -/
theorem parseByte_eq_some_iff {n : Nat} {cs : List Char} :
    parseByte cs = some n ↔ SpellsNumber n cs ∧ n < 256 := by
  rw [parseByte, Option.filter_eq_some_iff, parseNumber_eq_some_iff, decide_eq_true_eq]

/-- Blanks that are added to a number are blanks around it. -/
theorem SpellsNumber.extend {n : Nat} {cs left right : List Char} (h : SpellsNumber n cs)
    (blank : AllBlank left) (blank' : AllBlank right) : SpellsNumber n (left ++ cs ++ right) := by
  obtain ⟨fits, numeral, written, padded⟩ := h
  exact ⟨fits, numeral, written, padded.extend blank blank'⟩

/-- A number between blanks has no character but letters, figures, `+` and blanks. -/
theorem SpellsNumber.not_mem {n : Nat} {cs : List Char} {mark : Char} (h : SpellsNumber n cs)
    (visible : isBlank mark = false) (other : (mark.isAlphanum || mark == '+') = false) :
    mark ∉ cs := by
  obtain ⟨-, numeral, written, padded⟩ := h
  intro mem
  refine padded.forall_mem (p := (· ≠ mark)) ?_ ?_ mark mem rfl
  · rintro c blank rfl
    simp [visible] at blank
  · rintro c inside rfl
    rw [written.chars c inside] at other
    cases other

/-! ## Values -/

/-- The notation of a value: `-1` for all ones, or a numeral. -/
inductive RawValue.Spells : RawValue → List Char → Prop
  /-- All ones, written `-1`. -/
  | allOnes : Spells .allOnes ['-', '1']
  /-- A number of 64 bits. -/
  | number {n : Nat} {cs : List Char} (numeral : Numeral n cs) (fits : n < wordLimit) :
      Spells (.number n) cs

/-- No numeral has a minus sign, so that none is `-1`. -/
theorem Numeral.ne_minus {n : Nat} {cs : List Char} (h : Numeral n cs) : '-' ∉ cs :=
  fun mem => absurd (h.chars '-' mem) (by decide)

/-- No blank begins or ends a value: it is `Bare`. -/
theorem RawValue.Spells.bare {value : RawValue} {cs : List Char} (h : value.Spells cs) :
    Bare cs := by
  cases h with
  | allOnes =>
    refine bare_of_forall (List.forall_mem_cons.2 ⟨?_, List.forall_mem_singleton.2 ?_⟩)
    all_goals decide
  | number numeral => exact numeral.bare

/-- A text is read as a value exactly when it `Spells` the value without the blanks around it. -/
theorem RawValue.ofChars?_eq_some_iff {value : RawValue} {cs : List Char} :
    RawValue.ofChars? cs = some value ↔ value.Spells (trim cs) := by
  rw [RawValue.ofChars?, parseNumber]
  split
  · next minus =>
    rw [minus]
    constructor
    · intro h
      cases h
      exact .allOnes
    · intro h
      cases h with
      | allOnes => rfl
      | number numeral => exact absurd List.mem_cons_self numeral.ne_minus
  · next plain =>
    rw [Option.map_eq_some_iff]
    constructor
    · rintro ⟨n, read, rfl⟩
      obtain ⟨numeral, fits⟩ := readNumber?_eq_some_iff.1 read
      exact .number numeral fits
    · intro h
      generalize trim cs = literal at h plain ⊢
      cases h with
      | allOnes => exact absurd rfl plain
      | number numeral fits => exact ⟨_, readNumber?_eq_some_iff.2 ⟨numeral, fits⟩, rfl⟩

/-! ## Names -/

/-- The notation of a name: an acronym, an acronym with a descriptor index behind a dot (`PHID.1`),
or coordinates with colons (`2:7:8`), each number of them between blanks of its own. -/
inductive ItemName.Spells : ItemName → List Char → Prop
  /-- An acronym. -/
  | acronym {acronym cs : List Char} (full : acronym ≠ [])
      (chars : ∀ c ∈ acronym, isAcronymChar c = true) (padded : Padded acronym cs) :
      Spells (.acronym (String.ofList acronym) none) cs
  /-- An acronym and the index of a descriptor. -/
  | indexed {acronym digits cs : List Char} {index : Nat} (full : acronym ≠ [])
      (chars : ∀ c ∈ acronym, isAcronymChar c = true) (written : WritesSigned 10 index digits)
      (fits : index < wordLimit) (padded : Padded (acronym ++ '.' :: digits) cs) :
      Spells (.acronym (String.ofList acronym) (some index)) cs
  /-- Coordinates. -/
  | coordinates {span : BitSpan} {first second third : List Char}
      (startByte : SpellsNumber span.startByte first)
      (startBit : SpellsNumber span.startBit second) (bit : span.startBit < 256)
      (width : SpellsNumber span.width third) (bits : span.width < 256) :
      Spells (.coordinates span) (first ++ ':' :: second ++ ':' :: third)

/-- An index is split off a text exactly where signed digits for a number below `wordLimit` follow
the last dot and a name goes before it. -/
theorem splitIndex_eq_some_iff {cs name : List Char} {index : Nat} :
    splitIndex cs = (name, some index) ↔ name ≠ [] ∧
      ∃ digits, WritesSigned 10 index digits ∧ index < wordLimit ∧ name ++ '.' :: digits = cs := by
  constructor
  · intro h
    unfold splitIndex at h
    split at h
    · next cut =>
      split at h
      · next read =>
        split at h
        · cases h
        · next full =>
          cases h
          obtain ⟨written, fits⟩ := readWord?_eq_some_iff.1 read
          exact ⟨full, _, written, fits, (cutLast_eq_some_iff.1 cut).1.symm⟩
      · cases h
    · cases h
  · rintro ⟨full, digits, written, fits, rfl⟩
    have noDot : '.' ∉ digits := written.notMem (by decide) (by decide)
    have cut : cutLast '.' (name ++ '.' :: digits) = some (name, digits) :=
      cutLast_eq_some_iff.2 ⟨rfl, noDot⟩
    simp only [splitIndex, cut, readWord?_eq_some_iff.2 ⟨written, fits⟩, if_neg full]

/-- A text for which `splitIndex` finds no index is left whole. -/
theorem eq_of_splitIndex_eq_none {cs name : List Char} (h : splitIndex cs = (name, none)) :
    name = cs := by
  unfold splitIndex at h
  split at h
  · split at h
    · split at h
      · exact (Prod.mk.inj h).1.symm
      · cases h
    · exact (Prod.mk.inj h).1.symm
  · exact (Prod.mk.inj h).1.symm

/-- No index is split off a text without a dot. -/
theorem splitIndex_of_not_mem {cs : List Char} (h : '.' ∉ cs) : splitIndex cs = (cs, none) := by
  rcases split : splitIndex cs with ⟨name, _ | index⟩
  · rw [eq_of_splitIndex_eq_none split]
  · obtain ⟨-, digits, -, -, rfl⟩ := splitIndex_eq_some_iff.1 split
    simp at h

/-- What holds of letters, figures and `_` holds of the characters of an acronym. -/
theorem forall_acronymChar {p : Char → Prop} {cs : List Char} (h : ∀ c ∈ cs, isAcronymChar c = true)
    (low : p '_') (letter : ∀ c, c.isAlphanum = true → p c) : ∀ c ∈ cs, p c := by
  intro c mem
  have char := h c mem
  rw [isAcronymChar, Bool.or_eq_true, beq_iff_eq] at char
  rcases char with char | rfl
  · exact letter c char
  · exact low

/-- No blank begins or ends an acronym: it is `Bare`. -/
theorem bare_of_acronymChars {cs : List Char} (h : ∀ c ∈ cs, isAcronymChar c = true) : Bare cs :=
  bare_of_forall (forall_acronymChar h (by decide) fun _ => isBlank_eq_false_of_isAlphanum)

/-- A mark for which `isAcronymChar` is false is not in an acronym. -/
theorem not_mem_of_acronymChars {cs : List Char} {mark : Char}
    (h : ∀ c ∈ cs, isAcronymChar c = true) (other : isAcronymChar mark = false) : mark ∉ cs :=
  fun mem => absurd (h mark mem) (by simp [other])

namespace ItemName

/-- A text without a colon that `acronym?` reads as a name is an acronym, with or without an
index. -/
theorem acronym?_eq_some_iff {name : ItemName} {cs : List Char} :
    acronym? cs = some name ↔ ∃ acronym index, splitIndex cs = (acronym, index) ∧ acronym ≠ [] ∧
      (∀ c ∈ acronym, isAcronymChar c = true) ∧ name = .acronym (String.ofList acronym) index := by
  rw [acronym?]
  rcases splitIndex cs with ⟨acronym, index⟩
  constructor
  · intro h
    obtain ⟨⟨full, chars⟩, named⟩ : (acronym ≠ [] ∧ acronym.all isAcronymChar = true) ∧
        ItemName.acronym (String.ofList acronym) index = name := by
      simpa only [Option.ite_none_right_eq_some, Option.some.injEq] using h
    exact ⟨acronym, index, rfl, full, List.all_eq_true.1 chars, named.symm⟩
  · rintro ⟨_, _, split, full, chars, rfl⟩
    cases split
    exact if_pos ⟨full, List.all_eq_true.2 chars⟩

/-- A text is read as coordinates exactly when it is three numbers with colons between them, each of
them spelled as `SpellsNumber` says and the last two of them bytes. -/
theorem coordinates?_eq_some_iff {name : ItemName} {cs : List Char} :
    coordinates? cs = some name ↔ ∃ span first second third,
      SpellsNumber span.startByte first ∧
      (SpellsNumber span.startBit second ∧ span.startBit < 256) ∧
      (SpellsNumber span.width third ∧ span.width < 256) ∧
      cs = first ++ ':' :: second ++ ':' :: third ∧ name = .coordinates span := by
  constructor
  · intro h
    unfold coordinates? at h
    split at h
    · next first second third pieces =>
      have whole : [':'].intercalate (cs.splitOn ':') = cs := List.intercalate_splitOn ':'
      rw [pieces] at whole
      simp only [Option.bind_eq_bind, Option.bind_eq_some_iff, Option.pure_def, Option.some.injEq,
        parseNumber_eq_some_iff, parseByte_eq_some_iff] at h
      obtain ⟨startByte, first', startBit, second', width, third', rfl⟩ := h
      refine ⟨⟨startByte, startBit, width⟩, first, second, third, first', second', third', ?_, rfl⟩
      simpa [List.intercalate_cons_cons] using whole.symm
    · cases h
  · rintro ⟨⟨startByte, startBit, width⟩, first, second, third, first', ⟨second', bit⟩,
      ⟨third', bits⟩, rfl, rfl⟩
    have pieces :
        (first ++ ':' :: second ++ ':' :: third).splitOn ':' = [first, second, third] := by
      rw [List.append_assoc, List.cons_append,
        List.splitOn_append_cons_self_of_not_mem (first'.not_mem (by decide) (by decide)),
        List.splitOn_append_cons_self_of_not_mem (second'.not_mem (by decide) (by decide)),
        List.splitOn_eq_singleton (third'.not_mem (by decide) (by decide))]
    simp only [coordinates?, pieces, parseNumber_eq_some_iff.2 first',
      parseByte_eq_some_iff.2 ⟨second', bit⟩, parseByte_eq_some_iff.2 ⟨third', bits⟩,
      Option.bind_eq_bind, Option.bind_some, Option.pure_def]

/-- **A name is read exactly from its notation**, the texts that it `Spells`. -/
theorem ofChars?_eq_some_iff {name : ItemName} {cs : List Char} :
    ofChars? (trim cs) = some name ↔ name.Spells cs := by
  rw [ofChars?]
  constructor
  · intro h
    split at h
    · obtain ⟨span, first, second, third, startByte, ⟨startBit, bit⟩, ⟨width, bits⟩, whole, rfl⟩ :=
        coordinates?_eq_some_iff.1 h
      -- the blanks around the whole are blanks around the first and the last number
      obtain ⟨left, right, before, after, cut⟩ := padded_trim cs
      have startByte' : SpellsNumber span.startByte (left ++ first ++ []) :=
        startByte.extend before nofun
      have width' : SpellsNumber span.width ([] ++ third ++ right) := width.extend nofun after
      rw [List.append_nil] at startByte'
      rw [List.nil_append] at width'
      have cut : cs = left ++ first ++ ':' :: second ++ ':' :: (third ++ right) := by
        rw [cut, whole]
        simp
      rw [cut]
      exact .coordinates startByte' startBit bit width' bits
    · obtain ⟨acronym, index, split, full, chars, rfl⟩ := acronym?_eq_some_iff.1 h
      have padded := padded_trim cs
      cases index with
      | none =>
        rw [← eq_of_splitIndex_eq_none split] at padded
        exact .acronym full chars padded
      | some index =>
        obtain ⟨-, digits, written, fits, whole⟩ := splitIndex_eq_some_iff.1 split
        rw [← whole] at padded
        exact .indexed full chars written fits padded
  · intro h
    cases h with
    | @acronym acronym _ full chars padded =>
      rw [trim_of_padded (bare_of_acronymChars chars) padded,
        if_neg (not_mem_of_acronymChars chars (by decide)), acronym?_eq_some_iff]
      have noDot : '.' ∉ acronym := not_mem_of_acronymChars chars (by decide)
      exact ⟨acronym, none, splitIndex_of_not_mem noDot, full, chars, rfl⟩
    | @indexed acronym digits _ index full chars written fits padded =>
      have noColon : ':' ∉ digits := written.notMem (by decide) (by decide)
      have noBlank := written.of_all (p := fun c => !isBlank c) (by decide) (by decide)
      have bare : Bare (acronym ++ '.' :: digits) := by
        refine bare_of_forall (List.forall_mem_append.2 ⟨?_, ?_⟩)
        · exact forall_acronymChar chars (by decide) fun _ => isBlank_eq_false_of_isAlphanum
        · exact List.forall_mem_cons.2 ⟨by decide, by simpa using noBlank⟩
      have unmarked : ':' ∉ acronym ++ '.' :: digits := by
        rw [List.mem_append, List.mem_cons, not_or, not_or]
        exact ⟨not_mem_of_acronymChars chars (by decide), by decide, noColon⟩
      rw [trim_of_padded bare padded, if_neg unmarked, acronym?_eq_some_iff]
      have split : splitIndex (acronym ++ '.' :: digits) = (acronym, some index) :=
        splitIndex_eq_some_iff.2 ⟨full, digits, written, fits, rfl⟩
      exact ⟨acronym, some index, split, full, chars, rfl⟩
    | @coordinates span first second third startByte startBit bit width bits =>
      obtain ⟨fits, byte, byteWritten, left, inner, before, between, rfl⟩ := startByte
      obtain ⟨fits', number, numberWritten, inner', right, between', after, rfl⟩ := width
      -- the first and the last numeral delimit what is left without the blanks around the whole
      let core := byte ++ (inner ++ ':' :: second ++ ':' :: inner') ++ number
      have bare : Bare core :=
        byteWritten.bare.append numberWritten.bare byteWritten.ne_nil numberWritten.ne_nil _
      have padded : Padded core
          (left ++ byte ++ inner ++ ':' :: second ++ ':' :: (inner' ++ number ++ right)) :=
        ⟨left, right, before, after, by simp [core]⟩
      rw [trim_of_padded bare padded, if_pos (by simp [core]), coordinates?_eq_some_iff]
      have first : SpellsNumber span.startByte (byte ++ inner) :=
        ⟨fits, byte, byteWritten, [], inner, nofun, between, rfl⟩
      have last : SpellsNumber span.width (inner' ++ number) :=
        ⟨fits', number, numberWritten, inner', [], between', nofun, by simp⟩
      exact ⟨span, _, second, _, first, ⟨startBit, bit⟩, ⟨last, bits⟩, by simp [core], rfl⟩

end ItemName

/-! ## Items -/

/-- The marks that cut items apart: `,` between items and `=` between name and value. -/
def isSeparator (c : Char) : Bool := c == '=' || c == ','

/-- A character with a property that neither `=` nor `,` has is no separator. -/
theorem isSeparator_eq_false {p : Char → Bool} {c : Char} (h : p c = true) (equals : p '=' = false)
    (comma : p ',' = false) : isSeparator c = false := by
  rw [Bool.eq_false_iff, Ne, isSeparator, Bool.or_eq_true, beq_iff_eq, beq_iff_eq]
  rintro (rfl | rfl)
  · simp [equals] at h
  · simp [comma] at h

/-- No separator is in a text between blanks, as `Padded` says, when none is in the text itself. -/
theorem Text.Padded.noSeparator {core cs : List Char} (padded : Padded core cs)
    (h : ∀ c ∈ core, isSeparator c = false) : ∀ c ∈ cs, isSeparator c = false :=
  padded.forall_mem (fun _ blank => isSeparator_eq_false blank (by decide) (by decide)) h

/-- No separator is in a numeral. -/
theorem Numeral.noSeparator {n : Nat} {cs : List Char} (h : Numeral n cs) :
    ∀ c ∈ cs, isSeparator c = false := fun c mem =>
  isSeparator_eq_false (p := fun c => c.isAlphanum || c == '+') (h.chars c mem) (by decide)
    (by decide)

/-- No separator is in a number between blanks, as `SpellsNumber` says. -/
theorem SpellsNumber.noSeparator {n : Nat} {cs : List Char} (h : SpellsNumber n cs) :
    ∀ c ∈ cs, isSeparator c = false := by
  obtain ⟨-, numeral, written, padded⟩ := h
  exact padded.noSeparator written.noSeparator

/-- No separator is in a value, neither `=` nor `,`. -/
theorem RawValue.Spells.noSeparator {value : RawValue} {cs : List Char} (h : value.Spells cs) :
    ∀ c ∈ cs, isSeparator c = false := by
  cases h with
  | allOnes =>
    refine List.forall_mem_cons.2 ⟨?_, List.forall_mem_singleton.2 ?_⟩
    all_goals decide
  | number numeral => exact numeral.noSeparator

/-- No separator is in a name, neither `=` nor `,`. -/
theorem ItemName.Spells.noSeparator {name : ItemName} {cs : List Char} (h : name.Spells cs) :
    ∀ c ∈ cs, isSeparator c = false := by
  have acronymChar : ∀ c, isAcronymChar c = true → isSeparator c = false := fun c char =>
    isSeparator_eq_false char (by decide) (by decide)
  cases h with
  | acronym _ chars padded => exact padded.noSeparator fun c mem => acronymChar c (chars c mem)
  | indexed _ chars written _ padded =>
    have index := written.of_all (p := fun c => !isSeparator c) (by decide) (by decide)
    refine padded.noSeparator (List.forall_mem_append.2 ⟨?_, ?_⟩)
    · exact fun c mem => acronymChar c (chars c mem)
    · exact List.forall_mem_cons.2 ⟨by decide, by simpa using index⟩
  | coordinates startByte startBit _ width _ =>
    rw [List.forall_mem_append, List.forall_mem_append, List.forall_mem_cons, List.forall_mem_cons]
    exact ⟨⟨startByte.noSeparator, by decide, startBit.noSeparator⟩, by decide, width.noSeparator⟩

/-- The value of an item that gives none: 1 for `.set`, 0 for `.clear`. -/
def ItemMode.implied : ItemMode → Option RawValue
  | .get => none
  | .set => some (.number 1)
  | .clear => some (.number 0)

namespace Item

/-- The notation of an item: a name, and for a change also a value behind an equals sign. The
literal is the value without the blanks around it. -/
inductive Spells (mode : ItemMode) : Item → List Char → Prop
  /-- A name alone. -/
  | bare {name : ItemName} {cs : List Char} (named : name.Spells cs) :
      Spells mode ⟨String.ofList cs, name, mode.implied, none⟩ cs
  /-- A name and a value, with `=` between them. -/
  | valued {name : ItemName} {value : RawValue} {front literal back : List Char}
      (change : mode = .set) (named : name.Spells front) (given : value.Spells literal)
      (padded : Padded literal back) :
      Spells mode
        ⟨String.ofList (front ++ '=' :: back), name, some value, some (String.ofList literal)⟩
        (front ++ '=' :: back)

/-- An item without `=` has the value that the mode implies. -/
theorem valueFor_none (mode : ItemMode) (text name : List Char) :
    valueFor mode text name none = .ok mode.implied := by
  cases mode <;> rfl

/-- A value is taken only for `.set`, and only where it is one. -/
theorem valueFor_some_eq_ok_iff {mode : ItemMode} {text name literal : List Char}
    {value : Option RawValue} :
    valueFor mode text name (some literal) = .ok value ↔
      mode = .set ∧ ∃ given, RawValue.ofChars? literal = some given ∧ value = some given := by
  cases mode with
  | get => simp [valueFor]
  | clear => simp [valueFor]
  | set =>
    rw [valueFor]
    cases RawValue.ofChars? literal <;> simp [eq_comm]

/-- An item without `=` is a name. -/
theorem ofChars_eq_ok_iff_of_not_mem {mode : ItemMode} {item : Item} {cs : List Char}
    (whole : '=' ∉ cs) :
    ofChars mode cs = .ok item ↔
      ∃ name : ItemName, name.Spells cs ∧ item = ⟨String.ofList cs, name, mode.implied, none⟩ := by
  simp only [ofChars, parts, cutFirst_eq_none_iff.2 whole, valueFor_none]
  constructor
  · intro h
    split at h
    · cases h
    · next name named =>
      cases h
      exact ⟨name, ItemName.ofChars?_eq_some_iff.1 named, rfl⟩
  · rintro ⟨name, named, rfl⟩
    rw [ItemName.ofChars?_eq_some_iff.2 named]
    rfl

/-- An item with `=` is the name before the first one and the value after it. -/
theorem ofChars_eq_ok_iff_of_cut {mode : ItemMode} {item : Item} {front back : List Char}
    (first : '=' ∉ front) :
    ofChars mode (front ++ '=' :: back) = .ok item ↔ mode = .set ∧
      ∃ (name : ItemName) (value : RawValue), name.Spells front ∧ value.Spells (trim back) ∧
        item = ⟨String.ofList (front ++ '=' :: back), name, some value,
          some (String.ofList (trim back))⟩ := by
  simp only [ofChars, parts, cutFirst_eq_some_iff.2 ⟨rfl, first⟩]
  constructor
  · intro h
    split at h
    · cases h
    · next name named =>
      obtain ⟨value, taken, rest⟩ := bind_eq_ok_iff.1 h
      cases rest
      obtain ⟨change, given, read, rfl⟩ := valueFor_some_eq_ok_iff.1 taken
      exact ⟨change, name, given, ItemName.ofChars?_eq_some_iff.1 named,
        trim_trim back ▸ RawValue.ofChars?_eq_some_iff.1 read, rfl⟩
  · rintro ⟨change, name, value, named, given, rfl⟩
    rw [ItemName.ofChars?_eq_some_iff.2 named]
    have read : RawValue.ofChars? (trim back) = some value := by
      rw [RawValue.ofChars?_eq_some_iff, trim_trim]
      exact given
    have taken : valueFor mode (front ++ '=' :: back) (trim front) (some (trim back)) =
        .ok (some value) :=
      valueFor_some_eq_ok_iff.2 ⟨change, value, read, rfl⟩
    simp only [taken]
    rfl

/-- **An item is read exactly from its notation**, the texts that it `Spells` in the mode. -/
theorem ofChars_eq_ok_iff {mode : ItemMode} {item : Item} {cs : List Char} :
    ofChars mode cs = .ok item ↔ Spells mode item cs := by
  constructor
  · intro h
    rcases cut : cutFirst '=' cs with _ | ⟨front, back⟩
    · obtain ⟨name, named, rfl⟩ := (ofChars_eq_ok_iff_of_not_mem (cutFirst_eq_none_iff.1 cut)).1 h
      exact .bare named
    · obtain ⟨rfl, first⟩ := cutFirst_eq_some_iff.1 cut
      obtain ⟨change, name, value, named, given, rfl⟩ := (ofChars_eq_ok_iff_of_cut first).1 h
      exact .valued change named given (padded_trim back)
  · intro h
    cases h with
    | bare named =>
      have whole : '=' ∉ cs := fun mem => absurd (named.noSeparator '=' mem) (by decide)
      exact (ofChars_eq_ok_iff_of_not_mem whole).2 ⟨_, named, rfl⟩
    | @valued name value front literal back change named given padded =>
      have first : '=' ∉ front := fun mem => absurd (named.noSeparator '=' mem) (by decide)
      have trimmed := trim_of_padded given.bare padded
      refine (ofChars_eq_ok_iff_of_cut first).2 ⟨change, name, value, named, ?_, ?_⟩
      · rwa [trimmed]
      · rw [trimmed]

/-- A text is read as the item that it `Spells`. -/
theorem parse_eq_ok_iff {mode : ItemMode} {item : Item} {text : String} :
    parse mode text = .ok item ↔ Spells mode item text.toList := ofChars_eq_ok_iff

/-- No comma is in an item. -/
theorem Spells.noComma {mode : ItemMode} {item : Item} {cs : List Char} (h : Spells mode item cs) :
    ',' ∉ cs := by
  intro mem
  have clean : ∀ text : List Char, (∀ c ∈ text, isSeparator c = false) → ',' ∉ text :=
    fun text none mem => absurd (none ',' mem) (by decide)
  cases h with
  | bare named => exact clean cs named.noSeparator mem
  | valued _ named given padded =>
    rw [List.mem_append, List.mem_cons] at mem
    rcases mem with mem | mem | mem
    · exact clean _ named.noSeparator mem
    · cases mem
    · exact clean _ (padded.noSeparator given.noSeparator) mem

/-- The name of an item is in its text. -/
theorem Spells.name {mode : ItemMode} {item : Item} {cs : List Char} (h : Spells mode item cs) :
    ∃ front, item.name.Spells front := by
  cases h with
  | bare named => exact ⟨_, named⟩
  | valued _ named => exact ⟨_, named⟩

end Item

end ModeParameters
