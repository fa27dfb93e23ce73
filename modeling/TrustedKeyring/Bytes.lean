/-!
# Byte strings

A byte string is a list of octets.  Numbers are written in base 256 with the most significant
octet first.
-/

namespace TrustedKeyring

abbrev Bytes := List UInt8

namespace Bytes

def toNat (bytes : Bytes) : Nat :=
  bytes.foldl (fun n b => 256 * n + b.toNat) 0

def ofNat : Nat → Nat → Bytes
  | 0, _ => []
  | width + 1, n => ofNat width (n / 256) ++ [UInt8.ofNat n]

def octetCount (n : Nat) : Nat :=
  if n = 0 then 0 else n.log2 / 8 + 1

def minimal (n : Nat) : Bytes :=
  ofNat (octetCount n) n

/-- Cuts a byte string into pieces of `width` octets; the last may be shorter.  Each has an octet,
which bounds `fuel`. -/
def piecesFrom (width : Nat) : Nat → Bytes → List Bytes
  | 0, _ => []
  | _ + 1, [] => []
  | fuel + 1, bytes@(_ :: _) => bytes.take width :: piecesFrom width fuel (bytes.drop width)

def pieces (width : Nat) (bytes : Bytes) : List Bytes :=
  piecesFrom width bytes.length bytes

/-- The octets of a text whose characters are all below U+0100. -/
def ascii (text : String) : Bytes :=
  text.toList.map fun c => UInt8.ofNat c.toNat

theorem length_ofNat (width n : Nat) : (ofNat width n).length = width := by
  induction width generalizing n with
  | zero => rfl
  | succ width ih => simp [ofNat, ih]

theorem toNat_append_singleton (bytes : Bytes) (b : UInt8) :
    toNat (bytes ++ [b]) = 256 * toNat bytes + b.toNat := by
  simp [toNat]

/-- Writing a number and reading it back keeps what fits the width. -/
theorem toNat_ofNat (width n : Nat) : toNat (ofNat width n) = n % Nat.pow 256 width := by
  induction width generalizing n with
  | zero => simp [ofNat, toNat, Nat.mod_one]
  | succ width ih =>
    have next : Nat.pow 256 (width + 1) = 256 * Nat.pow 256 width := Nat.mul_comm _ _
    rw [ofNat, toNat_append_singleton, ih, next, Nat.mod_mul, UInt8.toNat_ofNat']
    omega

end Bytes

end TrustedKeyring
