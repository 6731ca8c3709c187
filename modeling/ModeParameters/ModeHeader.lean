import ModeParameters.Error

/-! # Mode parameter headers

Mode data starts with a header: the length of what follows the length field, and the length of the
block descriptors that stand between the header and the page.

| form | length field | block descriptor length | header |
|------|--------------|-------------------------|--------|
| 6    | byte 0       | byte 3                  | 4 bytes |
| 10   | bytes 0, 1   | bytes 6, 7              | 8 bytes | -/

namespace ModeParameters

namespace CommandSize

/-- The length of the header. -/
def headerLength : CommandSize → Nat
  | .six => 4
  | .ten => 8

/-- The length of the length field at the start of the header, which is not counted in
`dataLength`. -/
def lengthFieldWidth : CommandSize → Nat
  | .six => 1
  | .ten => 2

/-- Where the block descriptor length stands in the header, and how many bytes it has: `(3, 1)` or
`(6, 2)`. -/
def blockLengthField : CommandSize → Nat × Nat
  | .six => (3, 1)
  | .ten => (6, 2)

end CommandSize

/-- A mode parameter header. -/
structure ModeHeader where
  /-- The form of the command it belongs to. -/
  size : CommandSize
  /-- The length of the mode data behind the length field. -/
  dataLength : Nat
  /-- The length of the block descriptors. -/
  blockLength : Nat
deriving DecidableEq, Repr

namespace ModeHeader

/-- The header at the start of mode data; data without room for it is `headerTooShort`. -/
def read (size : CommandSize) (bytes : Bytes) : Except ResponseError ModeHeader :=
  if bytes.length < size.headerLength then
    .error (.headerTooShort size.headerLength bytes.length)
  else .ok {
    size
    dataLength := Bytes.toNat (Bytes.window bytes 0 size.lengthFieldWidth)
    blockLength :=
      Bytes.toNat (Bytes.window bytes size.blockLengthField.1 size.blockLengthField.2) }

/-- The length of the whole mode data: `dataLength` and the length field itself. -/
def totalLength (header : ModeHeader) : Nat := header.dataLength + header.size.lengthFieldWidth

/-- Where the page starts: behind the header and `blockLength` bytes of block descriptors. -/
def pageOffset (header : ModeHeader) : Nat := header.size.headerLength + header.blockLength

/-- Mode data with its length field cleared, `lengthFieldWidth` bytes, as a MODE SELECT wants it. -/
def clearLength (size : CommandSize) (bytes : Bytes) : Bytes :=
  List.replicate (min size.lengthFieldWidth bytes.length) 0 ++ bytes.drop size.lengthFieldWidth

@[simp] theorem length_clearLength (size : CommandSize) (bytes : Bytes) :
    (clearLength size bytes).length = bytes.length := by
  simp only [clearLength, List.length_append, List.length_replicate, List.length_drop]
  omega

end ModeHeader

end ModeParameters
