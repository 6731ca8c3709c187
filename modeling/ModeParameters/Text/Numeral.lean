/-! # Numerals

Decimal and hexadecimal texts of natural numbers, written and read. Writing uses the fewest digits
and lower-case letters; reading takes letters of either case, any number of leading zeros and one
optional plus sign, and refuses a number that does not fit 64 bits. -/

namespace ModeParameters.Text

/-- The digits of a number in the given base, most significant first, as `Nat.toDigits` has them. -/
def digits (base n : Nat) : List Char := Nat.toDigits base n

/-- The decimal text of a number. -/
def decimal (n : Nat) : String := String.ofList (digits 10 n)

/-- The lower-case hexadecimal text of a number, without a mark. -/
def hex (n : Nat) : String := String.ofList (digits 16 n)

/-- The hexadecimal text of a number, marked by a leading `0x`. -/
def markedHex (n : Nat) : String := "0x" ++ hex n

/-- The `decimal` text of an integer, with a minus sign before a negative one. -/
def signedDecimal : Int → String
  | .ofNat n => decimal n
  | .negSucc n => "-" ++ decimal (n + 1)

@[simp] theorem toList_decimal (n : Nat) : (decimal n).toList = digits 10 n :=
  String.toList_ofList

@[simp] theorem toList_hex (n : Nat) : (hex n).toList = digits 16 n := String.toList_ofList

/-- A text filled up with copies of `fill` on the left to at least `width` characters. -/
def padLeft (width : Nat) (fill : Char) (text : String) : String :=
  String.ofList (List.replicate (width - text.length) fill) ++ text

/-- A text filled up with spaces on the right to at least `width` characters. -/
def padRight (width : Nat) (text : String) : String :=
  text ++ String.ofList (List.replicate (width - text.length) ' ')

/-- The hexadecimal text of a byte: a mark and exactly two digits. -/
def byteHex (byte : UInt8) : String := "0x" ++ padLeft 2 '0' (hex byte.toNat)

/-! ## Reading -/

/-- The value of a digit of either case, below sixteen. -/
def digitValue? (c : Char) : Option Nat :=
  if '0' ≤ c ∧ c ≤ '9' then some (c.toNat - '0'.toNat)
  else if 'a' ≤ c ∧ c ≤ 'f' then some (c.toNat - 'a'.toNat + 10)
  else if 'A' ≤ c ∧ c ≤ 'F' then some (c.toNat - 'A'.toNat + 10)
  else none

/-- A digit is read back as it was written: `digitValue?` undoes `Nat.digitChar`. -/
theorem digitValue?_digitChar {n : Nat} (h : n < 16) : digitValue? (Nat.digitChar n) = some n := by
  have all : ∀ m : Fin 16, digitValue? (Nat.digitChar m) = some m.val := by decide
  exact all ⟨n, h⟩

/-- The value of a digit of the given base: `digitValue?` below it. -/
def digitIn? (base : Nat) (c : Char) : Option Nat := (digitValue? c).filter (· < base)

/-- The number that further digits make of `value`, if they are all digits of the base. -/
def extendBy? (base : Nat) : Nat → List Char → Option Nat
  | value, [] => some value
  | value, c :: cs => (digitIn? base c).bind fun digit => extendBy? base (value * base + digit) cs

theorem extendBy?_cons (base value : Nat) (c : Char) (cs : List Char) :
    extendBy? base value (c :: cs) =
      (digitIn? base c).bind fun digit => extendBy? base (value * base + digit) cs := rfl

/-- The number written by one or more digits of the base, by `extendBy?` from 0. -/
def ofDigits? (base : Nat) (cs : List Char) : Option Nat :=
  if cs = [] then none else extendBy? base 0 cs

/-- Counts, addresses and values are 64-bit: the least number that is too large for one. -/
def wordLimit : Nat := 0x10000000000000000

/-- A text without its one optional leading plus sign. -/
def dropPlus : List Char → List Char
  | '+' :: cs => cs
  | cs => cs

/-- The number below `wordLimit` written by digits of the base after an optional plus sign. -/
def readWord? (base : Nat) (cs : List Char) : Option Nat :=
  (ofDigits? base (dropPlus cs)).filter (· < wordLimit)

end ModeParameters.Text
