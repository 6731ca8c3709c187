import ModeParameters.Item.Basic
import ModeParameters.Text.Blank
import ModeParameters.Text.Split

/-! # Reading items

An item is an acronym with an optional descriptor index (`WCE`, `PHID.2`), or coordinates
(`12:7:16`), and for a change an optional value after an equals sign. Numbers are decimal, or
hexadecimal with a leading `0x` or a trailing `h`. Blanks around names, numbers and values do not
count. Items of a list are separated by commas. -/

namespace ModeParameters

open Text (trim cutFirst cutLast readWord?)

/-! ## Values -/

/-- The number in a text without blanks around it, by `readWord?`. A leading mark of hexadecimal
(`0x`) goes before a trailing one (`h`). -/
def readNumber? (cs : List Char) : Option Nat :=
  match cs with
  | '0' :: 'x' :: rest => readWord? 16 rest
  | '0' :: 'X' :: rest => readWord? 16 rest
  | _ =>
    if cs.getLast? = some 'h' ∨ cs.getLast? = some 'H' then readWord? 16 cs.dropLast
    else readWord? 10 cs

/-- The number in a text: `readNumber?` of what `trim` leaves. -/
def parseNumber (cs : List Char) : Option Nat := readNumber? (trim cs)

namespace RawValue

/-- The value in a text: `-1` for all ones, or else a number. -/
def ofChars? (cs : List Char) : Option RawValue :=
  if trim cs = ['-', '1'] then some .allOnes else (parseNumber cs).map .number

/-- The value in a text, by `ofChars?`. -/
def parse? (text : String) : Option RawValue := ofChars? text.toList

end RawValue

/-! ## Names -/

/-- A text with a number behind its last dot, in two, as `PHID.2`; the whole text where that is not
so. -/
def splitIndex (cs : List Char) : List Char × Option Nat :=
  match cutLast '.' cs with
  | some (name, suffix) =>
    match readWord? 10 suffix with
    | some index => if name = [] then (cs, none) else (name, some index)
    | none => (cs, none)
  | none => (cs, none)

/-- A character that an acronym may have: an ASCII letter or digit, or `_`. -/
def isAcronymChar (c : Char) : Bool := c.isAlphanum || c == '_'

/-- A number that fits a byte: one below `256`. -/
def parseByte (cs : List Char) : Option Nat := (parseNumber cs).filter (· < 256)

namespace ItemName

/-- The coordinates in a text with colons, as `2:7:8`. -/
def coordinates? (cs : List Char) : Option ItemName :=
  match cs.splitOn ':' with
  | [startByte, startBit, width] => do
    let startByte ← parseNumber startByte
    let startBit ← parseByte startBit
    let width ← parseByte width
    return .coordinates ⟨startByte, startBit, width⟩
  | _ => none

/-- The acronym in a text, all of it `isAcronymChar`, with the index that `splitIndex` finds. -/
def acronym? (cs : List Char) : Option ItemName :=
  let (name, index) := splitIndex cs
  if name ≠ [] ∧ name.all isAcronymChar then some (.acronym (String.ofList name) index) else none

/-- The name in a text: `coordinates?` if it has a colon, or else `acronym?`. -/
def ofChars? (cs : List Char) : Option ItemName :=
  if ':' ∈ cs then coordinates? cs else acronym? cs

end ItemName

/-! ## Items -/

namespace Item

/-- The parts of an item before and after its first `=`, without blanks around them. -/
def parts (cs : List Char) : List Char × Option (List Char) :=
  match cutFirst '=' cs with
  | some (name, literal) => (trim name, some (trim literal))
  | none => (trim cs, none)

/-- The value that an item has in a mode, given or implied. Only `set` takes a given one. -/
def valueFor (mode : ItemMode) (text name : List Char) (literal : Option (List Char)) :
    Except ItemError (Option RawValue) :=
  match mode, literal with
  | .get, none => .ok none
  | .clear, none => .ok (some (.number 0))
  | .set, none => .ok (some (.number 1))
  | .set, some literal =>
    match RawValue.ofChars? literal with
    | some value => .ok (some value)
    | none => .error (.badValue (String.ofList name) (String.ofList literal))
  | _, some _ => .error (.badItemSyntax (String.ofList text))

/-- The item in a text. The name is judged before the value, by `valueFor`. -/
def ofChars (mode : ItemMode) (cs : List Char) : Except ItemError Item :=
  let (nameText, literal) := parts cs
  match ItemName.ofChars? nameText with
  | none => .error (.badItemSyntax (String.ofList cs))
  | some name => do
    let value ← valueFor mode cs nameText literal
    return ⟨String.ofList cs, name, value, literal.map String.ofList⟩

/-- The item in a text, by `ofChars`. -/
def parse (mode : ItemMode) (text : String) : Except ItemError Item := ofChars mode text.toList

/-- One entry of a list. A blank one is blamed on the `whole` list. -/
def ofEntry (mode : ItemMode) (whole entry : List Char) : Except ItemError Item :=
  if trim entry = [] then .error (.badItemSyntax (String.ofList whole)) else ofChars mode entry

/-- The items of a list separated by commas; the first bad entry decides the error. -/
def parseList (mode : ItemMode) (text : String) : Except ItemError (List Item) :=
  (text.toList.splitOn ',').mapM (ofEntry mode text.toList)

end Item

end ModeParameters
