import NanAdapter.Schema.Basic

/-! Addresses of six octets. -/

namespace NanAdapter

structure MacAddress where
  octets : Vector UInt8 6
  deriving DecidableEq, Repr

namespace MacAddress

def zero : MacAddress := ⟨Vector.replicate 6 0⟩

private def pair (octet : UInt8) : List Char :=
  [Nat.digitChar (octet.toNat / 16), Nat.digitChar (octet.toNat % 16)]

/-- Two hexadecimal digits for each octet, with colons between them. -/
def text (address : MacAddress) : String :=
  String.ofList ([':'].intercalate (address.octets.toList.map pair))

def schema : Schema MacAddress := .via ⟨MacAddress.mk, octets⟩ (.fixed 6 .u8)

end MacAddress

end NanAdapter
