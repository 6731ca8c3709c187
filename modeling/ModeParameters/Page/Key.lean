import ModeParameters.Text.Numeral

/-! # Page keys and page control

A mode page is named by its page code and its subpage code. It exists in up to four variants, which
a read selects by its page control field. -/

namespace ModeParameters

/-- The name of a page. -/
structure PageKey where
  /-- Page code, at most `0x3E`. -/
  page : UInt8
  /-- Subpage code; 0 for a page without subpages. -/
  subpage : UInt8
deriving DecidableEq, Repr

namespace PageKey

/-- A key in messages, as `0x19,0x01`; subpage 0 is left out. -/
def text (key : PageKey) : String :=
  if key.subpage = 0 then Text.byteHex key.page
  else s!"{Text.byteHex key.page},{Text.byteHex key.subpage}"

instance : ToString PageKey := ⟨text⟩

end PageKey

/-- The variants of a page. -/
inductive PageControl
  /-- The values in effect. -/
  | current
  /-- A mask of the bits that can be changed. -/
  | changeable
  /-- The manufacturer's values. -/
  | default
  /-- The values restored at power on. -/
  | saved
deriving DecidableEq, Repr

namespace PageControl

/-- Every variant, in the order in which they are read and reported. -/
def all : List PageControl := [.current, .changeable, .default, .saved]

/-- The name of a variant. -/
def name : PageControl → String
  | .current => "current"
  | .changeable => "changeable"
  | .default => "default"
  | .saved => "saved"

/-- The name of a variant in a report line: its first three letters, as `cur`. -/
def shortName : PageControl → String
  | .current => "cur"
  | .changeable => "cha"
  | .default => "def"
  | .saved => "sav"

instance : ToString PageControl := ⟨name⟩

@[simp] theorem mem_all (control : PageControl) : control ∈ all := by cases control <;> decide

end PageControl

end ModeParameters
