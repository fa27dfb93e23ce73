import TrustedKeyring.Bytes

/-!
# Hexadecimal text

Byte strings are written with two lower-case digits per octet and read with digits of either
case.  Reading undoes writing (`decode?_encode`).
-/

namespace TrustedKeyring.Hex

def digit (value : Nat) : Char :=
  Nat.digitChar value

def value? (c : Char) : Option Nat :=
  if '0' ≤ c ∧ c ≤ '9' then some (c.toNat - 48)
  else if 'a' ≤ c ∧ c ≤ 'f' then some (c.toNat - 87)
  else if 'A' ≤ c ∧ c ≤ 'F' then some (c.toNat - 55)
  else none

def pair (b : UInt8) : List Char :=
  [digit (b.toNat / 16), digit (b.toNat % 16)]

def encode (bytes : Bytes) : List Char :=
  bytes.flatMap pair

def decode? : List Char → Option Bytes
  | [] => some []
  | high :: low :: rest => do
    let h ← value? high
    let l ← value? low
    let bytes ← decode? rest
    return UInt8.ofNat (16 * h + l) :: bytes
  | [_] => none

def padded (width n : Nat) : List Char :=
  (Nat.toDigits 16 n).leftpad width '0'

theorem value?_digit {n : Nat} (h : n < 16) : value? (digit n) = some n := by
  have : ∀ m : Fin 16, value? (digit m.val) = some m.val := by decide
  exact this ⟨n, h⟩

theorem decode?_encode (bytes : Bytes) : decode? (encode bytes) = some bytes := by
  induction bytes with
  | nil => rfl
  | cons b bytes ih =>
    have hb := b.toNat_lt
    have high : b.toNat / 16 < 16 := by omega
    have low : b.toNat % 16 < 16 := Nat.mod_lt _ (by decide)
    have whole : 16 * (b.toNat / 16) + b.toNat % 16 = b.toNat := Nat.div_add_mod _ _
    have ih' : decode? (List.flatMap pair bytes) = some bytes := ih
    simp [encode, pair, decode?, value?_digit high, value?_digit low, whole, ih', -UInt8.ofNat_add,
      -UInt8.ofNat_mul]

end TrustedKeyring.Hex
