import Mathlib.Data.List.Induction
import TrustedKeyring.Key

/-!
# Descriptions of keys

The description of a key writes the four octets of its identifier, two digits each
(`KeyId.description_eq`), and an identifier is determined by its octets.
-/

namespace TrustedKeyring

namespace Bytes

/-- Reading a byte string as a number and writing the number in as many octets gives it back. -/
theorem ofNat_toNat (bytes : Bytes) : ofNat bytes.length (toNat bytes) = bytes := by
  induction bytes using List.reverseRecOn with
  | nil => rfl
  | append_singleton bytes b ih =>
    have hb := b.toNat_lt
    rw [List.length_append, List.length_singleton, toNat_append_singleton, ofNat,
      show (256 * toNat bytes + b.toNat) / 256 = toNat bytes by omega, ih]
    congr 2
    apply UInt8.toNat_inj.mp
    rw [UInt8.toNat_ofNat']
    omega

theorem toNat_replicate_zero_append (count : Nat) (bytes : Bytes) :
    toNat (List.replicate count 0 ++ bytes) = toNat bytes := by
  induction count with
  | zero => rfl
  | succ count ih => exact ih

end Bytes

namespace Hex

theorem padded_succ {width : Nat} (hwidth : 0 < width) (n : Nat) :
    padded (width + 1) n = padded width (n / 16) ++ [digit (n % 16)] := by
  unfold padded
  by_cases hn : n < 16
  · rw [Nat.toDigits_of_lt_base hn, Nat.div_eq_of_lt hn, Nat.toDigits_zero, Nat.mod_eq_of_lt hn]
    obtain ⟨width, rfl⟩ : ∃ k, width = k + 1 := ⟨width - 1, by omega⟩
    simp only [List.leftpad, List.length_singleton, Nat.add_sub_cancel, List.replicate_succ']
    rfl
  · rw [Nat.toDigits_of_base_le (by decide) (Nat.le_of_not_lt hn)]
    simp only [List.leftpad, List.length_append, List.length_singleton, Nat.add_sub_add_right,
      List.append_assoc]
    rfl

/-- A number that fits into some octets is written as these octets are. -/
theorem padded_eq_encode (width n : Nat) (hn : n < Nat.pow 256 (width + 1)) :
    padded (2 * (width + 1)) n = encode (Bytes.ofNat (width + 1) n) := by
  induction width generalizing n with
  | zero =>
    change n < 256 at hn
    rw [padded_succ (by decide)]
    change (Nat.toDigits 16 (n / 16)).leftpad 1 '0' ++ _ = pair (UInt8.ofNat n)
    rw [Nat.toDigits_of_lt_base (by omega), pair, UInt8.toNat_ofNat',
      Nat.mod_eq_of_lt (by omega : n < 2 ^ 8)]
    rfl
  | succ width ih =>
    have hpow : Nat.pow 256 (width + 1 + 1) = Nat.pow 256 (width + 1) * 256 := rfl
    have hhead : padded (2 * (width + 1)) (n / 256) = encode (Bytes.ofNat (width + 1) (n / 256)) :=
      ih (n / 256) (by omega)
    have hlast : pair (UInt8.ofNat n) = [digit (n / 16 % 16), digit (n % 16)] := by
      rw [pair, UInt8.toNat_ofNat', show n % 2 ^ 8 / 16 = n / 16 % 16 by omega,
        show n % 2 ^ 8 % 16 = n % 16 by omega]
    -- two digits are split off for each octet
    calc
      padded (2 * (width + 1 + 1)) n
      _ = padded (2 * (width + 1)) (n / 256) ++ [digit (n / 16 % 16), digit (n % 16)] := by
        rw [show 2 * (width + 1 + 1) = 2 * (width + 1) + 1 + 1 by omega, padded_succ (by omega),
          padded_succ (by omega), Nat.div_div_eq_div_mul, List.append_assoc]
        rfl
      _ = encode (Bytes.ofNat (width + 1) (n / 256) ++ [UInt8.ofNat n]) := by
        rw [hhead, ← hlast, encode, encode, List.flatMap_append, List.flatMap_singleton]

end Hex

namespace KeyId

theorem length_toBytes (id : KeyId) : id.toBytes.length = 4 :=
  Bytes.length_ofNat 4 id.value.toNat

/-- The description writes the octets of the identifier after `id:`. -/
theorem description_eq (id : KeyId) :
    id.description = "id:" ++ String.ofList (Hex.encode id.toBytes) := by
  rw [description, Hex.padded_eq_encode 3 _ id.value.toNat_lt]
  rfl

/-- Four octets are those of an identifier if they have its value as a number. -/
theorem toBytes_eq_iff (id : KeyId) {bytes : Bytes} (hlength : bytes.length = 4) :
    id.toBytes = bytes ↔ (⟨UInt32.ofNat bytes.toNat⟩ : KeyId) = id := by
  have hbytes := Bytes.ofNat_toNat bytes
  have hvalue := Bytes.toNat_ofNat 4 bytes.toNat
  rw [hlength] at hbytes
  rw [hbytes] at hvalue
  have hfits : bytes.toNat < 2 ^ 32 := hvalue ▸ Nat.mod_lt _ (by decide)
  constructor
  · rintro rfl
    rw [toBytes, Bytes.toNat_ofNat, show Nat.pow 256 4 = 2 ^ 32 from rfl,
      Nat.mod_eq_of_lt id.value.toNat_lt, UInt32.ofNat_toNat]
  · rintro rfl
    rw [toBytes, UInt32.toNat_ofNat', Nat.mod_eq_of_lt hfits, hbytes]

end KeyId

end TrustedKeyring
