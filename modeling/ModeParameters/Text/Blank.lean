/-! # Blanks and case

What does not count in a text: the blanks around the names and values of an item, and the case of the
letters of a name. The class of the blanks is the Unicode property White_Space, stated as its list of
ranges, so a no-break space or an ideographic space is blank and a zero-width space is not. Texts that
differ only in the case of ASCII letters are alike. Other letters keep their case: `É` and `é` differ,
and so do the Kelvin sign and `k`. -/

namespace ModeParameters.Text

/-- The ranges of the Unicode property White_Space, both ends included. -/
def blankRanges : List (Nat × Nat) :=
  [(0x9, 0xD), (0x20, 0x20), (0x85, 0x85), (0xA0, 0xA0), (0x1680, 0x1680), (0x2000, 0x200A),
   (0x2028, 0x2029), (0x202F, 0x202F), (0x205F, 0x205F), (0x3000, 0x3000)]

/-- A character lies in one of the given ranges of code points. -/
def inRanges (ranges : List (Nat × Nat)) (c : Char) : Bool :=
  ranges.any fun range => range.1 ≤ c.toNat && c.toNat ≤ range.2

theorem inRanges_iff {ranges : List (Nat × Nat)} {c : Char} :
    inRanges ranges c = true ↔ ∃ range ∈ ranges, range.1 ≤ c.toNat ∧ c.toNat ≤ range.2 := by
  simp [inRanges]

/-- A blank character: one with the property White_Space (`blankRanges`). -/
def isBlank (c : Char) : Bool := inRanges blankRanges c

/-! ## Stripping both ends -/

/-- Characters without the leading and the trailing ones that satisfy `p`. -/
def strip (p : Char → Bool) (cs : List Char) : List Char :=
  ((cs.dropWhile p).reverse.dropWhile p).reverse

/-- Characters without the blanks at both ends: `strip isBlank`. -/
def trim (cs : List Char) : List Char := strip isBlank cs

/-- Nothing is stripped from a text whose first and last characters do not satisfy `p`. -/
theorem strip_eq_self {p : Char → Bool} {cs : List Char}
    (first : ∀ c, cs.head? = some c → p c = false)
    (last : ∀ c, cs.getLast? = some c → p c = false) : strip p cs = cs := by
  have keep : ∀ ds : List Char, (∀ c, ds.head? = some c → p c = false) → ds.dropWhile p = ds := by
    intro ds h
    cases ds with
    | nil => rfl
    | cons d ds => simp [h d rfl]
  rw [strip, keep cs first, keep cs.reverse (by simpa using last), List.reverse_reverse]

/-! ## Comparison without case -/

/-- Two texts are alike: equal once ASCII capitals are lowered by `Char.toLower`. -/
def alike (s t : String) : Bool := s.toList.map Char.toLower == t.toList.map Char.toLower

theorem alike_iff {s t : String} :
    alike s t = true ↔ s.toList.map Char.toLower = t.toList.map Char.toLower := by
  simp [alike]

theorem alike_comm (s t : String) : alike s t = alike t s := by
  rw [Bool.eq_iff_iff, alike_iff, alike_iff, eq_comm]

theorem alike_trans {s t u : String} (h : alike s t = true) (h' : alike t u = true) :
    alike s u = true := by
  rw [alike_iff] at *
  exact h.trans h'

end ModeParameters.Text
