import ModeParameters.Bytes
import ModeParameters.Page.Key

/-! # Page headers

The first bytes of a page: the savable bit, the subpage-format bit and the page code in byte 0, then
the length of what follows. In subpage format the subpage code stands in byte 1 and the length in
bytes 2 and 3; otherwise the length is byte 1. -/

namespace ModeParameters.Page

/-- The bit of byte 0 that says a page can be saved. -/
def savableBit : UInt8 := 0x80

/-- The bit of byte 0 that says a page has the four-byte header. -/
def subpageBit : UInt8 := 0x40

/-- The bits of byte 0 that hold the page code. -/
def codeBits : UInt8 := 0x3F

/-- The page code of a page, the `codeBits` of its byte 0. -/
def code? (page : Bytes) : Option UInt8 := page.head?.map (· &&& codeBits)

/-- A page has the four-byte header, by the `subpageBit`. -/
def hasSubpageFormat (page : Bytes) : Bool := page.head?.any fun byte => byte &&& subpageBit != 0

/-- A page can be saved, by the `savableBit`. -/
def isSavable (page : Bytes) : Bool := page.head?.any fun byte => byte &&& savableBit != 0

/-- The length of the header of a page, 4 or 2 by `hasSubpageFormat`. -/
def headerLength (page : Bytes) : Nat := if hasSubpageFormat page then 4 else 2

/-- The subpage code of a page; 0 without the four-byte header. -/
def subpageCode (page : Bytes) : UInt8 := if hasSubpageFormat page then page.getD 1 0 else 0

/-- The key that a page carries, of its `code?` and `subpageCode`; 0 where its bytes are missing. -/
def carriedKey (page : Bytes) : PageKey := ⟨(code? page).getD 0, subpageCode page⟩

/-- The whole length that a page reports of itself, if its length field is there. -/
def reportedLength? (page : Bytes) : Option Nat :=
  if hasSubpageFormat page then
    if 4 ≤ page.length then some (4 + Bytes.toNat (Bytes.window page 2 2)) else none
  else page[1]?.map fun byte => 2 + byte.toNat

/-- Page codes that some devices report in place of the requested one: the power condition page,
`0x1A`, is also known under its older code. -/
def equivalentCodes : List (UInt8 × UInt8) := [(0x1A, 0x0D)]

/-- A page that reports one code answers a request for another: they are the same, or among the
`equivalentCodes`. -/
def answers (requested reported : UInt8) : Bool :=
  requested == reported || equivalentCodes.contains (requested, reported)

end ModeParameters.Page
