import ImageBuild.Text.Utf8

/-!
# Texts of octets

A text of octets has one character below 256 for each byte, so that any bytes can be handled as a
text. `ofBytes` and `toBytes` lead from bytes to such a text and back.
-/

namespace ImageBuild.Text.Octets

/-- The text of octets for some bytes. -/
def ofBytes (bytes : List UInt8) : String :=
  String.ofList (bytes.map fun b => Char.ofNat b.toNat)

/-- The bytes that a text of octets stands for. -/
def toBytes (s : String) : List UInt8 :=
  s.toList.map fun c => c.toNat.toUInt8

/-- The text of octets for the bytes of a text. -/
def ofText (s : String) : String := ofBytes (Utf8.encode s)

/-- The text whose bytes a text of octets stands for. -/
def toText (s : String) : String := Utf8.decodeLossy (toBytes s)

end ImageBuild.Text.Octets
