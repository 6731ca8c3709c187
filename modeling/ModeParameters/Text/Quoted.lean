import ModeParameters.Text.Numeral
import ModeParameters.Text.Unprintable
import ModeParameters.Text.GraphemeExtend

/-! # Quoted text

User text inside a message stands between double quotes, written so that every character can be
seen: the quote and the backslash are escaped, the common controls have a letter of their own, and
any other hidden character (unprintable, ignorable or grapheme-extending) is given by its code
point. -/

namespace ModeParameters.Text

/-- A character that cannot be told from the text around it: `isUnprintable`, `isIgnorable` or
`isExtending`. -/
def isHidden (c : Char) : Bool := isUnprintable c || isIgnorable c || isExtending c

/-- One character as it stands inside a quoted text; an `isHidden` one is given by its code
point. -/
def escape (c : Char) : List Char :=
  if c = '"' then ['\\', '"']
  else if c = '\\' then ['\\', '\\']
  else if c = '\t' then ['\\', 't']
  else if c = '\n' then ['\\', 'n']
  else if c = '\r' then ['\\', 'r']
  else if c.toNat = 0 then ['\\', '0']
  else if isHidden c then
    ['\\', 'u', '\x7b'] ++ digits 16 c.toNat ++ ['\x7d']
  else [c]

/-- A text between double quotes, with every character visible by `escape`. -/
def quoted (text : String) : String :=
  String.ofList ('"' :: text.toList.flatMap escape ++ ['"'])

end ModeParameters.Text
