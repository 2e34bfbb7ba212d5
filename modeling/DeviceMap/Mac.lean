import DeviceMap.Hexadecimal

/-! Addresses of devices and their texts. -/
namespace DeviceMap

/-- The address of a device, up to eight bytes. -/
structure Mac where
  value : UInt64
deriving DecidableEq

namespace Mac

/-- Addresses of two bytes have a short form. -/
def isShort (mac : Mac) : Bool := mac.value ≤ 0xFFFF

/-- The lowest `count` bytes of a number, the most significant first. -/
def lowBytes : Nat → Nat → List Nat
  | 0, _ => []
  | count + 1, n => lowBytes count (n / 256) ++ [n % 256]

/-- The bytes that the text shows, the most significant first. -/
def bytes (mac : Mac) : List Nat := lowBytes (if mac.isShort then 2 else 8) mac.value.toNat

/-- A byte as two hexadecimal digits. -/
def pair (byte : Nat) : String :=
  String.ofList [Hexadecimal.upper (byte / 16), Hexadecimal.upper (byte % 16)]

/-- The address as pairs of hexadecimal digits joined by colons: two pairs in
the short form, eight otherwise. -/
def text (mac : Mac) : String := ":".intercalate (mac.bytes.map pair)

end Mac
end DeviceMap
