import TrustedKeyring.Asn1.Element

/-!
# The universal types of ASN.1

What the content of an element must be for its type.  An element of any type is checked by its tag;
a type that is not listed allows every content.
-/

namespace TrustedKeyring.Asn1

def isInteger : Bytes → Bool
  | [] => false
  | [_] => true
  | 0x00 :: b :: _ => 0x80 ≤ b
  | 0xFF :: b :: _ => b < 0x80
  | _ => true

def isIdentifier (content : Bytes) : Bool :=
  let starts := content.zip (0x00 :: content)
  !content.isEmpty && (content.getLast?.all (· < 0x80)) &&
    starts.all fun (b, before) => !(b == 0x80 && before < 0x80)

def bits? : Bytes → Option Bytes
  | [] => none
  | unused :: octets =>
    if 7 < unused then none
    else
      match octets.getLast? with
      | none => some []
      | some last => some (octets.dropLast ++ [last >>> unused <<< unused])

def minUtcTime : Nat := 13

def minGeneralizedTime : Nat := 15

def partlessTypes : List Nat := [1, 2, 5, 6, 10]

def structuredTypes : List Nat := [16, 17]

/-- Whether an element of a universal type can have the content, its parts put together: one octet
for a boolean, none for a null, whole characters for the strings of four and of two octets a
character. -/
def isContent (number : Nat) (content : Bytes) : Bool :=
  match number with
  | 1 => content.length == 1
  | 2 | 10 => isInteger content
  | 3 => (bits? content).isSome
  | 5 => content.isEmpty
  | 6 => isIdentifier content
  | 23 => minUtcTime ≤ content.length
  | 24 => minGeneralizedTime ≤ content.length
  | 28 => content.length % 4 == 0
  | 30 => content.length % 2 == 0
  | _ => true

namespace Element

/-- Whether an element of any type has a content that its type allows.  What sequences and sets
consist of is left open, and so is everything outside the universal types. -/
def isValue (element : Element) : Bool :=
  let number := element.tag.number
  if element.tag.family ≠ 0 then true
  else if structuredTypes.contains number then element.isConstructed
  else if partlessTypes.contains number ∧ element.isConstructed then false
  else element.whole?.any (isContent number)

def integer? (element : Element) : Option Bytes :=
  (element.primitive? .integer).filter isInteger

def objectIdentifier? (element : Element) : Option Bytes :=
  (element.primitive? .objectIdentifier).filter isIdentifier

def bitString? (element : Element) : Option Bytes :=
  (element.string? .bitString).bind bits?

end Element

end TrustedKeyring.Asn1
