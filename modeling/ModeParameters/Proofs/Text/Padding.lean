import ModeParameters.Text.Blank

/-! # Blanks around a text

Blanks around a text do not count: stripping them leaves the one text that neither begins nor ends
with a blank and from which the whole comes by adding blanks. No visible ASCII character is a blank.
-/

namespace ModeParameters.Text

/-- A text of blanks alone. -/
def AllBlank (cs : List Char) : Prop := ∀ c ∈ cs, isBlank c = true

/-- The text `core` between blanks. -/
def Padded (core cs : List Char) : Prop :=
  ∃ left right, AllBlank left ∧ AllBlank right ∧ cs = left ++ core ++ right

/-- A text that neither begins nor ends with a blank. -/
def Bare (cs : List Char) : Prop :=
  (∀ c, cs.head? = some c → isBlank c = false) ∧ ∀ c, cs.getLast? = some c → isBlank c = false

/-- A visible ASCII character, from `0x21` to `0x7E`, is no blank. -/
theorem isBlank_eq_false {c : Char} (low : 0x21 ≤ c.toNat) (high : c.toNat ≤ 0x7E) :
    isBlank c = false := by
  rw [isBlank, Bool.eq_false_iff, Ne, inRanges_iff]
  rintro ⟨range, mem, first, last⟩
  simp only [blankRanges, List.mem_cons, List.not_mem_nil, or_false] at mem
  rcases mem with rfl | rfl | rfl | rfl | rfl | rfl | rfl | rfl | rfl | rfl
  all_goals
    dsimp only at first last
    omega

/-- A letter or a figure is no blank. -/
theorem isBlank_eq_false_of_isAlphanum {c : Char} (h : c.isAlphanum = true) :
    isBlank c = false := by
  have ranges : ((decide (65 ≤ c.val ∧ c.val ≤ 90) ||
      (decide (97 ≤ c.val) && decide (c.val ≤ 122))) ||
        (decide (48 ≤ c.val) && decide (c.val ≤ 57))) = true := h
  simp only [Bool.or_eq_true, Bool.and_eq_true, decide_eq_true_eq,
    UInt32.le_iff_toNat_le] at ranges
  change ((65 ≤ c.toNat ∧ c.toNat ≤ 90) ∨ 97 ≤ c.toNat ∧ c.toNat ≤ 122) ∨
    48 ≤ c.toNat ∧ c.toNat ≤ 57 at ranges
  exact isBlank_eq_false (by omega) (by omega)

/-- A text without any blank is `Bare`: it neither begins nor ends with one. -/
theorem bare_of_forall {cs : List Char} (h : ∀ c ∈ cs, isBlank c = false) : Bare cs :=
  ⟨fun c first => h c (List.mem_of_mem_head? first), fun c last => h c (List.mem_of_getLast? last)⟩

theorem Padded.refl (core : List Char) : Padded core core := ⟨[], [], nofun, nofun, by simp⟩

/-- Blanks that are added to a `Padded` text are blanks around it. -/
theorem Padded.extend {core cs left right : List Char} (h : Padded core cs) (blank : AllBlank left)
    (blank' : AllBlank right) : Padded core (left ++ cs ++ right) := by
  obtain ⟨left', right', before, after, rfl⟩ := h
  refine ⟨left ++ left', right' ++ right, ?_, ?_, by simp⟩
  · exact List.forall_mem_append.2 ⟨blank, before⟩
  · exact List.forall_mem_append.2 ⟨after, blank'⟩

/-- What holds of blanks and of `core` holds of the text with blanks around it. -/
theorem Padded.forall_mem {p : Char → Prop} {core cs : List Char} (h : Padded core cs)
    (blank : ∀ c, isBlank c = true → p c) (inside : ∀ c ∈ core, p c) : ∀ c ∈ cs, p c := by
  obtain ⟨left, right, before, after, rfl⟩ := h
  rw [List.forall_mem_append, List.forall_mem_append]
  exact ⟨⟨fun c mem => blank c (before c mem), inside⟩, fun c mem => blank c (after c mem)⟩

/-- A text that begins and ends with texts that are `Bare` is so too. -/
theorem Bare.append {first last : List Char} (bare : Bare first) (bare' : Bare last)
    (full : first ≠ []) (full' : last ≠ []) (inside : List Char) :
    Bare (first ++ inside ++ last) := by
  obtain ⟨c, rest, rfl⟩ := List.exists_cons_of_ne_nil full
  obtain ⟨front, d, rfl⟩ := List.eq_nil_or_concat last |>.resolve_left full'
  constructor
  · intro c' h
    exact bare.1 c' (by simpa using h)
  · intro d' h
    rw [List.concat_eq_append, ← List.append_assoc, List.getLast?_concat] at h
    exact bare'.2 d' (by simpa using h)

/-- Blanks that open a text are blanks. -/
theorem allBlank_takeWhile (cs : List Char) : AllBlank (cs.takeWhile isBlank) :=
  List.all_eq_true.1 List.all_takeWhile

/-- Before the blanks at the end of a text stands what is left without them, the reverse of
`dropWhile` of the reverse. -/
theorem dropEnd_append (cs : List Char) :
    (cs.reverse.dropWhile isBlank).reverse ++ (cs.reverse.takeWhile isBlank).reverse = cs := by
  rw [← List.reverse_append, List.takeWhile_append_dropWhile, List.reverse_reverse]

/-- A text is what `trim` leaves of it between its blanks. -/
theorem padded_trim (cs : List Char) : Padded (trim cs) cs := by
  refine ⟨cs.takeWhile isBlank, ((cs.dropWhile isBlank).reverse.takeWhile isBlank).reverse,
    allBlank_takeWhile cs, fun c mem => allBlank_takeWhile _ c (List.mem_reverse.1 mem), ?_⟩
  rw [trim, strip, List.append_assoc, dropEnd_append, List.takeWhile_append_dropWhile]

/-- What follows the blanks that open a text does not begin with one. -/
theorem isBlank_head_dropWhile {cs : List Char} {c : Char}
    (h : (cs.dropWhile isBlank).head? = some c) : isBlank c = false := by
  have := List.head?_dropWhile_not isBlank cs
  simpa [h] using this

/-- What `trim` leaves of a text neither begins nor ends with a blank. -/
theorem bare_trim (cs : List Char) : Bare (trim cs) := by
  refine ⟨fun c first => ?_, fun c last => ?_⟩
  · -- the first character is also the first one before the blanks at the end went
    have first : ((cs.dropWhile isBlank).reverse.dropWhile isBlank).reverse.head? = some c := first
    have opening : (cs.dropWhile isBlank).head? = some c := by
      rw [← dropEnd_append (cs.dropWhile isBlank), List.head?_append, first, Option.some_or]
    exact isBlank_head_dropWhile opening
  · rw [trim, strip, List.getLast?_reverse] at last
    exact isBlank_head_dropWhile last

/-- Of a text between blanks `trim` leaves that text. -/
theorem trim_of_padded {core cs : List Char} (bare : Bare core) (h : Padded core cs) :
    trim cs = core := by
  obtain ⟨left, right, blank, blank', rfl⟩ := h
  cases core with
  | nil =>
    have all : ∀ c ∈ left ++ [] ++ right, isBlank c = true := by
      intro c mem
      rw [List.append_nil, List.mem_append] at mem
      exact mem.elim (blank c) (blank' c)
    have nothing : (left ++ [] ++ right ++ []).dropWhile isBlank = [].dropWhile isBlank :=
      List.dropWhile_append_of_pos all
    rw [List.append_nil, List.dropWhile_nil] at nothing
    rw [trim, strip, nothing]
    rfl
  | cons c core =>
    -- the blanks go at the front up to `c`, then at the back up to the last of the text
    have front : (left ++ c :: core ++ right).dropWhile isBlank = c :: core ++ right := by
      rw [List.append_assoc, List.dropWhile_append_of_pos blank, List.cons_append,
        List.dropWhile_cons_of_neg (by simp [bare.1 c rfl])]
    have back : (c :: core ++ right).reverse.dropWhile isBlank =
        (c :: core).reverse.dropWhile isBlank := by
      rw [List.reverse_append, List.dropWhile_append_of_pos
        fun d mem => blank' d (List.mem_reverse.1 mem)]
    have whole : trim (c :: core) = c :: core := strip_eq_self bare.1 bare.2
    rw [trim, strip, front, back]
    rwa [trim, strip, List.dropWhile_cons_of_neg (by simp [bare.1 c rfl])] at whole

/-- **Stripping the blanks around a text** with `trim` leaves the text without blanks around it. -/
theorem trim_eq_iff {core cs : List Char} : trim cs = core ↔ Bare core ∧ Padded core cs :=
  ⟨fun h => h ▸ ⟨bare_trim cs, padded_trim cs⟩, fun h => trim_of_padded h.1 h.2⟩

/-- Nothing is left to strip. -/
theorem trim_trim (cs : List Char) : trim (trim cs) = trim cs :=
  trim_of_padded (bare_trim cs) (.refl _)

/-- Nothing is left of blanks alone: `trim` makes of them the empty text. -/
theorem trim_eq_nil_iff {cs : List Char} : trim cs = [] ↔ AllBlank cs := by
  rw [trim_eq_iff]
  constructor
  · rintro ⟨-, padded⟩
    exact padded.forall_mem (fun _ blank => blank) nofun
  · intro blank
    exact ⟨⟨nofun, nofun⟩, cs, [], blank, nofun, by simp⟩

end ModeParameters.Text
