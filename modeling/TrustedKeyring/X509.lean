import TrustedKeyring.PublicKey
import TrustedKeyring.X509.Name

/-!
# X.509 certificates

What provisioning takes from an X.509 certificate: the subject key identifier and the public key.
The certificate must have the parts that the standard prescribes, in their order and of their types;
what its names, dates, signature and other extensions say is not looked at.
-/

namespace TrustedKeyring

structure X509 where
  subjectKeyId : Option Bytes
  publicKey : Option PublicKey
deriving DecidableEq, Repr

namespace X509

open Asn1 (Element Tag)

def algorithm? (element : Element) : Option (Bytes × Option Element) :=
  match element.sequence? with
  | some [identifier] => identifier.objectIdentifier?.map (·, none)
  | some [identifier, parameters] =>
    if parameters.isValue then identifier.objectIdentifier?.map (·, some parameters) else none
  | _ => none

def isTime (element : Element) : Bool :=
  [Tag.utcTime, Tag.generalizedTime].contains element.tag && element.isValue

def isValidity (element : Element) : Bool :=
  match element.sequence? with
  | some [notBefore, notAfter] => isTime notBefore && isTime notAfter
  | _ => false

def explicit? (element : Element) : Option Element :=
  match element.parts? with
  | some [part] => some part
  | _ => none

def isVersion (element : Element) : Bool :=
  (explicit? element).any fun version => version.integer?.isSome

structure Extension where
  identifier : Bytes
  value : Bytes
deriving DecidableEq, Repr

def extension? (element : Element) : Option Extension :=
  let make (identifier value : Element) : Option Extension :=
    match identifier.objectIdentifier?, value.string? .octetString with
    | some identifier, some value => some ⟨identifier, value⟩
    | _, _ => none
  match element.sequence? with
  | some [identifier, value] => make identifier value
  -- whether the extension is critical makes no difference here
  | some [identifier, critical, value] =>
    if (critical.primitive? .boolean).any (·.length == 1) then make identifier value else none
  | _ => none

def extensions? (element : Element) : Option (List Extension) :=
  match explicit? element with
  | none => none
  | some element =>
    match element.list? .sequence with
    | none => none
    | some items => items.mapM extension?

def takeOptional (number : Nat) : List Element → Option Element × List Element
  | [] => (none, [])
  | element :: rest =>
    if element.tag = .context number then (some element, rest) else (none, element :: rest)

def trailer? (elements : List Element) : Option (List Extension) :=
  let isBits (element : Option Element) : Bool :=
    element.all fun element => element.whole?.any fun content => (Asn1.bits? content).isSome
  let (issuer, elements) := takeOptional 1 elements
  let (subject, elements) := takeOptional 2 elements
  let (extensions, elements) := takeOptional 3 elements
  if isBits issuer && isBits subject && elements.isEmpty then
    match extensions with
    | none => some []
    | some element => extensions? element
  else
    none

def subjectKeyIdIdentifier : Bytes := [0x55, 0x1D, 0x0E]

/-- The subject key identifier, unless its extension is absent, repeated or no octet string. -/
def subjectKeyId? (extensions : List Extension) : Option Bytes :=
  match extensions.filter fun extension => extension.identifier == subjectKeyIdIdentifier with
  | [extension] =>
    match Asn1.readElement extension.value with
    | some (element, _) => element.string? .octetString
    | none => none
  | _ => none

def keyParts? (element : Element) : Option (Bytes × Option Element × Bytes) :=
  match element.sequence? with
  | some [algorithm, bits] =>
    match algorithm? algorithm, bits.bitString? with
    | some (identifier, parameters), some octets => some (identifier, parameters, octets)
    | _, _ => none
  | _ => none

def signedPart? (element : Element) : Option X509 :=
  match element.sequence? with
  | none => none
  | some elements =>
    let (version, elements) := takeOptional 0 elements
    match elements with
    | serial :: algorithm :: issuer :: validity :: subject :: key :: elements =>
      if version.all isVersion && serial.integer?.isSome && (algorithm? algorithm).isSome &&
          isName issuer && isValidity validity && isName subject then
        match keyParts? key, trailer? elements with
        | some (identifier, parameters, octets), some extensions =>
          -- a key that cannot be used leaves a certificate without one
          some ⟨subjectKeyId? extensions, PublicKey.ofParts? identifier parameters octets⟩
        | _, _ => none
      else
        none
    | _ => none

/-- Reads the certificate at the head of a byte string; octets after it do not count. -/
def read (data : Bytes) : Option X509 :=
  match Asn1.readElement data with
  | none => none
  | some (element, _) =>
    match element.sequence? with
    | some [signed, algorithm, signature] =>
      if (algorithm? algorithm).isSome && signature.bitString?.isSome then signedPart? signed
      else none
    | _ => none

end X509

end TrustedKeyring
