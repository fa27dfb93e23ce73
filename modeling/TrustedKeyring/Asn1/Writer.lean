import TrustedKeyring.Asn1.Element

/-!
# Writing ASN.1 elements

Elements in the distinguished encoding rules, in which every value has one written form.
-/

namespace TrustedKeyring.Asn1

def writeLength (length : Nat) : Bytes :=
  if length < 0x80 then [UInt8.ofNat length]
  else
    let octets := Bytes.minimal length
    UInt8.ofNat (0x80 + octets.length) :: octets

def write (tag : UInt8) (content : Bytes) : Bytes :=
  tag :: writeLength content.length ++ content

def writeSequence (parts : List Bytes) : Bytes :=
  write 0x30 parts.flatten

def writeNatural (n : Nat) : Bytes :=
  let octets := Bytes.minimal n
  match octets with
  | [] => write 0x02 [0]
  | first :: _ => write 0x02 (if first < 0x80 then octets else 0 :: octets)

def writeNull : Bytes :=
  write 0x05 []

def writeObjectIdentifier (content : Bytes) : Bytes :=
  write 0x06 content

def writeBitString (octets : Bytes) : Bytes :=
  write 0x03 (0 :: octets)

def writeOctetString (octets : Bytes) : Bytes :=
  write 0x04 octets

end TrustedKeyring.Asn1
