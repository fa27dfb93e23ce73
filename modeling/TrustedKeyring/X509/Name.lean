import TrustedKeyring.Asn1.Universal
import TrustedKeyring.Text.Utf8

/-!
# Names in certificates

A name is a list of sets of attributes.  Names are not looked at any further, but their values must
be of the types that names can have, and text among them must consist of characters.
-/

namespace TrustedKeyring.X509

open Asn1 (Element)

def nameValueTags : List Nat :=
  [3, 7, 8, 9, 11, 12, 13, 14, 15, 16, 18, 19, 20, 22, 28, 29, 30]

def areCharacters (width : Nat) (octets : Bytes) : Bool :=
  (Bytes.pieces width octets).all fun piece => decide (Bytes.toNat piece).isValidChar

/-- Whether a value of the type consists of characters: UTF-8, characters of four octets, or
characters of two.  Other types are not looked into. -/
def isLegible (number : Nat) (content : Bytes) : Bool :=
  match number with
  | 12 => Text.isUtf8 content
  | 28 => areCharacters 4 content
  | 30 => areCharacters 2 content
  | _ => true

def isNameValue (element : Element) : Bool :=
  let number := element.tag.number
  element.tag.family == 0 && nameValueTags.contains number && element.isValue &&
    element.whole?.all (isLegible number)

def isAttribute (element : Element) : Bool :=
  match element.sequence? with
  | some [type, value] => type.objectIdentifier?.isSome && isNameValue value
  | _ => false

def isName (element : Element) : Bool :=
  (element.list? .sequence).any fun sets =>
    sets.all fun set => (set.list? .set).any fun attributes => attributes.all isAttribute

end TrustedKeyring.X509
