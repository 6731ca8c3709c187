/-! # Reading UTF-8 that may be damaged

Device data claims to be text without being checked. Well-formed UTF-8 is read as it stands; each
longest part that starts a character but does not complete it, and each byte that starts none,
becomes one replacement character. -/

namespace ModeParameters.Text

/-- The character that stands for bytes that are no text. -/
def replacement : Char := Char.ofNat 0xFFFD

/-- What is known of a character after some of its bytes, while `readUtf8` goes on. -/
structure Utf8State where
  /-- Continuation bytes still owed. -/
  owed : Nat
  /-- The least value of the next byte. -/
  low : Nat
  /-- The greatest value of the next byte. -/
  high : Nat
  /-- The number made of the payload bits so far. -/
  code : Nat
deriving DecidableEq, Repr

namespace Utf8State

/-- The state after the first byte of a character of several bytes; `none` when it starts none. -/
def start? (byte : Nat) : Option Utf8State :=
  -- the second byte is kept away from overlong forms, surrogates and codes above U+10FFFF
  if 0xC2 ≤ byte ∧ byte ≤ 0xDF then some ⟨1, 0x80, 0xBF, byte - 0xC0⟩
  else if byte = 0xE0 then some ⟨2, 0xA0, 0xBF, 0⟩
  else if byte = 0xED then some ⟨2, 0x80, 0x9F, 0xD⟩
  else if 0xE1 ≤ byte ∧ byte ≤ 0xEF then some ⟨2, 0x80, 0xBF, byte - 0xE0⟩
  else if byte = 0xF0 then some ⟨3, 0x90, 0xBF, 0⟩
  else if 0xF1 ≤ byte ∧ byte ≤ 0xF3 then some ⟨3, 0x80, 0xBF, byte - 0xF0⟩
  else if byte = 0xF4 then some ⟨3, 0x80, 0x8F, 4⟩
  else none

/-- The state after a continuation byte. Only the first one has a range of its own. -/
def next (state : Utf8State) (byte : Nat) : Utf8State :=
  ⟨state.owed - 1, 0x80, 0xBF, state.code * 64 + (byte - 0x80)⟩

end Utf8State

/-- The characters that a first byte yields, and the state (`start?`) in which it leaves the
reader. -/
def readFirst (byte : UInt8) : List Char × Option Utf8State :=
  if byte.toNat < 0x80 then ([Char.ofNat byte.toNat], none)
  else match Utf8State.start? byte.toNat with
    | some state => ([], some state)
    | none => ([replacement], none)

/-- The characters read from `bytes` when a character begun before is in the given state. -/
def readUtf8 : Option Utf8State → List UInt8 → List Char
  | none, [] => []
  | some _, [] => [replacement]
  | none, byte :: rest => (readFirst byte).1 ++ readUtf8 (readFirst byte).2 rest
  | some state, byte :: rest =>
    if state.low ≤ byte.toNat ∧ byte.toNat ≤ state.high then
      if state.owed = 1 then
        Char.ofNat (state.next byte.toNat).code :: readUtf8 none rest
      else readUtf8 (some (state.next byte.toNat)) rest
    else replacement :: (readFirst byte).1 ++ readUtf8 (readFirst byte).2 rest

/-- The text of a byte string, with a `replacement` where it is not UTF-8. -/
def ofUtf8 (bytes : List UInt8) : List Char := readUtf8 none bytes

end ModeParameters.Text
