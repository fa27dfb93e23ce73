import TrustedKeyring.Bytes

/-!
# UTF-8

The byte strings that are UTF-8: every character in its shortest form, no surrogates, and nothing
beyond U+10FFFF.
-/

namespace TrustedKeyring.Text

structure OctetRange where
  low : UInt8
  high : UInt8
deriving DecidableEq, Repr

def OctetRange.has (range : OctetRange) (b : UInt8) : Bool :=
  range.low ≤ b && b ≤ range.high

def continuation : OctetRange := ⟨0x80, 0xBF⟩

/-- The places that the first octet of a character leaves open. -/
def openPlaces? (lead : UInt8) : Option (List OctetRange) :=
  if lead ≤ 0x7F then some []
  else if lead < 0xC2 then none
  else if lead ≤ 0xDF then some [continuation]
  else if lead = 0xE0 then some [⟨0xA0, 0xBF⟩, continuation]
  else if lead = 0xED then some [⟨0x80, 0x9F⟩, continuation]
  else if lead ≤ 0xEF then some [continuation, continuation]
  else if lead = 0xF0 then some [⟨0x90, 0xBF⟩, continuation, continuation]
  else if lead ≤ 0xF3 then some [continuation, continuation, continuation]
  else if lead = 0xF4 then some [⟨0x80, 0x8F⟩, continuation, continuation]
  else none

def isUtf8From : List OctetRange → Bytes → Bool
  | [], [] => true
  | _ :: _, [] => false
  | [], lead :: bytes =>
    match openPlaces? lead with
    | some places => isUtf8From places bytes
    | none => false
  | place :: places, b :: bytes => place.has b && isUtf8From places bytes

def isUtf8 (bytes : Bytes) : Bool :=
  isUtf8From [] bytes

end TrustedKeyring.Text
