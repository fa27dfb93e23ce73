import TrustedKeyring.Bytes

/-!
# ASN.1 elements

Reading elements in the basic encoding rules: a tag, a length and a content.  A constructed element
may leave its length open and end with two zero octets.
-/

namespace TrustedKeyring.Asn1

structure Tag where
  family : Nat
  number : Nat
deriving DecidableEq, Repr

namespace Tag

def boolean : Tag := ⟨0, 1⟩
def integer : Tag := ⟨0, 2⟩
def bitString : Tag := ⟨0, 3⟩
def octetString : Tag := ⟨0, 4⟩
def null : Tag := ⟨0, 5⟩
def objectIdentifier : Tag := ⟨0, 6⟩
def sequence : Tag := ⟨0, 16⟩
def set : Tag := ⟨0, 17⟩
def utcTime : Tag := ⟨0, 23⟩
def generalizedTime : Tag := ⟨0, 24⟩
def context (number : Nat) : Tag := ⟨2, number⟩

end Tag

structure Element where
  tag : Tag
  isConstructed : Bool
  content : Bytes
deriving DecidableEq, Repr

def longNumber (value : Nat) : Bytes → Option (Nat × Bytes)
  | [] => none
  | b :: rest =>
    let value := value * 128 + b.toNat % 128
    if b < 0x80 then some (value, rest)
    -- seven more bits must fit into 31
    else if 0x1000000 ≤ value then none
    else longNumber value rest

def readTag : Bytes → Option (Tag × Bool × Bytes)
  | [] => none
  | b :: rest =>
    let family := b.toNat / 64
    let isConstructed := b.toNat / 32 % 2 == 1
    if b.toNat % 32 = 31 then
      (longNumber 0 rest).map fun (number, rest) => (⟨family, number⟩, isConstructed, rest)
    else
      some (⟨family, b.toNat % 32⟩, isConstructed, rest)

def maxLengthOctets : Nat := 8

def readLength : Bytes → Option (Option Nat × Bytes)
  | [] => none
  | b :: rest =>
    if b = 0x80 then some (none, rest)
    else if b < 0x80 then some (some b.toNat, rest)
    else
      let count := b.toNat - 0x80
      if maxLengthOctets < count ∨ rest.length < count then none
      else some (some (Bytes.toNat (rest.take count)), rest.drop count)

/-- What follows the two zero octets that end `depth` elements of open length, the innermost
first.  Every step consumes an octet, which bounds `fuel`. -/
def afterEnd : Nat → Nat → Bytes → Option Bytes
  | 0, _, _ => none
  | _ + 1, 0, bytes => some bytes
  | fuel + 1, depth + 1, bytes =>
    match bytes with
    | 0 :: 0 :: rest => afterEnd fuel depth rest
    | bytes =>
      match readTag bytes with
      | none => none
      | some (_, isConstructed, rest) =>
        match readLength rest with
        | none => none
        | some (none, rest) =>
          if isConstructed then afterEnd fuel (depth + 2) rest else none
        | some (some length, rest) =>
          if length ≤ rest.length then afterEnd fuel (depth + 1) (rest.drop length) else none

def readElement (bytes : Bytes) : Option (Element × Bytes) :=
  match readTag bytes with
  | none => none
  | some (tag, isConstructed, rest) =>
    match readLength rest with
    | none => none
    | some (some length, rest) =>
      if length ≤ rest.length then
        some (⟨tag, isConstructed, rest.take length⟩, rest.drop length)
      else
        none
    | some (none, rest) =>
      -- only an element with parts can end where they end
      if !isConstructed then none
      else
        (afterEnd (rest.length + 2) 1 rest).map fun after =>
          (⟨tag, true, rest.take (rest.length - after.length - 2)⟩, after)

/-- Reads elements up to the end of the byte string.  Two zero octets end an element of open length
and stand nowhere else.  Each element takes an octet, which bounds `fuel`. -/
def readElements : Nat → Bytes → Option (List Element)
  | _, [] => some []
  | 0, _ :: _ => none
  | _ + 1, 0 :: 0 :: _ => none
  | fuel + 1, bytes@(_ :: _) =>
    match readElement bytes with
    | none => none
    | some (element, rest) => (readElements fuel rest).map (element :: ·)

namespace Element

def children? (element : Element) : Option (List Element) :=
  readElements element.content.length element.content

def parts? (element : Element) : Option (List Element) :=
  if element.isConstructed then element.children? else none

def sequence? (element : Element) : Option (List Element) :=
  if element.tag = .sequence then element.parts? else none

/-- The items of a list with the given tag.  A list need not be marked as constructed. -/
def list? (element : Element) (tag : Tag) : Option (List Element) :=
  if element.tag = tag then element.children? else none

def maxStringDepth : Nat := 5

/-- The content of a string, which may be made of parts of any type. -/
def joined : Nat → Element → Option Bytes
  | 0, element => if element.isConstructed then none else some element.content
  | depth + 1, element =>
    if element.isConstructed then
      match element.children? with
      | none => none
      | some parts => (parts.mapM (joined depth)).map List.flatten
    else
      some element.content

def whole? (element : Element) : Option Bytes :=
  element.joined (maxStringDepth + 1)

def string? (element : Element) (tag : Tag) : Option Bytes :=
  if element.tag = tag then element.whole? else none

def primitive? (element : Element) (tag : Tag) : Option Bytes :=
  if element.tag = tag ∧ !element.isConstructed then some element.content else none

end Element

end TrustedKeyring.Asn1
