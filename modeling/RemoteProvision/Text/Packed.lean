/-
Packed bytes.

Bytes that are mostly text, but need not be, are kept in a string each of
whose characters stands for one byte.  What is done to such a string byte
by byte is done to the bytes.
-/
import RemoteProvision.Text.Utf8

namespace RemoteProvision.Text

/-- Bytes as a string, one character for each. -/
def pack (bytes : Bytes) : String :=
  String.ofList (bytes.map fun b => Char.ofNat b.toNat)

/-- The bytes that a string stands for. -/
def unpack (packed : String) : Bytes :=
  packed.toList.map fun c => UInt8.ofNat c.toNat

/-- The bytes of a text, packed. -/
def packText (text : String) : String := pack (toBytes text)

/-- The text that packed bytes are, broken characters replaced. -/
def unpackText (packed : String) : String :=
  ofBytesLossy (unpack packed)

end RemoteProvision.Text
