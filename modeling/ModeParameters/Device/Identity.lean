import ModeParameters.Bytes
import ModeParameters.DeviceType
import ModeParameters.Text.Blank
import ModeParameters.Text.Utf8

/-! # Device identity

Standard inquiry data says what a device is: its type in byte 0, then vendor, product and revision in
fields of 8, 16 and 4 characters from byte 8 on, filled up with spaces or zeros. -/

namespace ModeParameters

open Text (decimal padRight)

/-- What a device says of itself. -/
structure DeviceIdentity where
  /-- Its type. -/
  type : DeviceType
  /-- Its vendor. -/
  vendor : String
  /-- Its product name. -/
  product : String
  /-- The revision of the product. -/
  revision : String
deriving DecidableEq, Repr

namespace DeviceIdentity

/-- The text in a field of inquiry data, without the filling at both ends. -/
def fieldText (bytes : Bytes) : String :=
  String.ofList (Text.strip (fun c => c == ' ' || c.toNat == 0) (Text.ofUtf8 bytes))

/-- The number of bytes that standard inquiry data has at least; `ofInquiry?` refuses fewer. -/
def inquiryLength : Nat := 36

/-- The identity in standard inquiry data; none when the data is shorter than `inquiryLength`. -/
def ofInquiry? (data : Bytes) : Option DeviceIdentity :=
  if data.length < inquiryLength then none
  else some {
    type := .ofNat (data.getD 0 0).toNat
    vendor := fieldText (Bytes.window data 8 8)
    product := fieldText (Bytes.window data 16 16)
    revision := fieldText (Bytes.window data 32 4) }

/-- An identity in messages, in columns of 8, 16 and 4 characters and with the `DeviceType.code`
behind them. -/
def text (identity : DeviceIdentity) : String :=
  padRight 8 identity.vendor ++ "  " ++ padRight 16 identity.product ++ "  " ++
    padRight 4 identity.revision ++ s!"  [pdt={decimal identity.type.code}]"

instance : ToString DeviceIdentity := ⟨text⟩

end DeviceIdentity

end ModeParameters
