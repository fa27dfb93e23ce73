import TrustedKeyring.Bytes

/-!
# Base 64

Byte strings as text, four characters for three octets.  Reading passes over space and line ends; a
hyphen ends the text.
-/

namespace TrustedKeyring.Base64

def value? (c : UInt8) : Option Nat :=
  if 65 ≤ c ∧ c ≤ 90 then some (c.toNat - 65)
  else if 97 ≤ c ∧ c ≤ 122 then some (c.toNat - 71)
  else if 48 ≤ c ∧ c ≤ 57 then some (c.toNat + 4)
  else if c = 43 then some 62
  else if c = 47 then some 63
  else none

def symbol (value : Nat) : UInt8 :=
  if value < 26 then UInt8.ofNat (value + 65)
  else if value < 52 then UInt8.ofNat (value + 71)
  else if value < 62 then UInt8.ofNat (value - 4)
  else if value = 62 then 43
  else 47

def padding : UInt8 := 61

def terminator : UInt8 := 45

def isSpace (c : UInt8) : Bool :=
  c == 9 || c == 10 || c == 13 || c == 32

/-- The values of the characters and how many of them are padding.  Nothing but padding may follow
padding, of which there are at most two characters. -/
def scan (paddings : Nat) : Bytes → Option (List Nat × Nat)
  | [] => some ([], paddings)
  | c :: rest =>
    if isSpace c then scan paddings rest
    else if c = terminator then some ([], paddings)
    -- padding stands for a zero value, and its octet is dropped at the end
    else if c = padding then
      if paddings < 2 then (scan (paddings + 1) rest).map fun (values, n) => (0 :: values, n)
      else none
    else
      match value? c with
      | none => none
      | some value =>
        if paddings = 0 then (scan 0 rest).map fun (values, n) => (value :: values, n)
        else none

def octets : List Nat → Bytes
  | a :: b :: c :: d :: rest =>
    Bytes.ofNat 3 (((a * 64 + b) * 64 + c) * 64 + d) ++ octets rest
  | _ => []

def decode? (text : Bytes) : Option Bytes :=
  match scan 0 text with
  | none => none
  | some (values, paddings) =>
    if values.length % 4 = 0 then
      let bytes := octets values
      some (bytes.take (bytes.length - paddings))
    else
      none

def encode : Bytes → Bytes
  | a :: b :: c :: rest =>
    let n := Bytes.toNat [a, b, c]
    symbol (n / 64 / 64 / 64) :: symbol (n / 64 / 64 % 64) :: symbol (n / 64 % 64) ::
      symbol (n % 64) :: encode rest
  | [a, b] =>
    let n := Bytes.toNat [a, b, 0]
    [symbol (n / 64 / 64 / 64), symbol (n / 64 / 64 % 64), symbol (n / 64 % 64), padding]
  | [a] =>
    let n := Bytes.toNat [a, 0, 0]
    [symbol (n / 64 / 64 / 64), symbol (n / 64 / 64 % 64), padding, padding]
  | [] => []

end TrustedKeyring.Base64
