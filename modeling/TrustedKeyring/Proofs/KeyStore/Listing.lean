import TrustedKeyring.Crypto
import TrustedKeyring.KeyStore.Search
import TrustedKeyring.Proofs.Key.Description

/-!
# Listed keys

A key store lists a key under the digits of its identifier.  Asked for by the end, the description
of a 32-bit identifier finds the keys with these last four octets, and only them
(`isMatch_description`).
-/

namespace TrustedKeyring

namespace Hex

theorem encode_append (first last : Bytes) :
    encode (first ++ last) = encode first ++ encode last :=
  List.flatMap_append

theorem length_encode (bytes : Bytes) : (encode bytes).length = 2 * bytes.length := by
  induction bytes with
  | nil => rfl
  | cons b bytes ih =>
    change (encode bytes).length + 1 + 1 = 2 * (bytes.length + 1)
    omega

theorem encode_injective {first second : Bytes} (h : encode first = encode second) :
    first = second := by
  have hdecoded := congrArg decode? h
  rw [decode?_encode, decode?_encode] at hdecoded
  exact Option.some.inj hdecoded

theorem encode_replicate_zero (count : Nat) :
    encode (List.replicate count 0) = List.replicate (2 * count) '0' := by
  induction count with
  | zero => rfl
  | succ count ih =>
    rw [List.replicate_succ, show 2 * (count + 1) = 2 * count + 1 + 1 by omega,
      List.replicate_succ, List.replicate_succ, ← ih]
    rfl

theorem drop_encode (count : Nat) (bytes : Bytes) :
    (encode bytes).drop (2 * count) = encode (bytes.drop count) := by
  induction count generalizing bytes with
  | zero => rfl
  | succ count ih =>
    cases bytes with
    | nil => exact List.drop_nil
    | cons b bytes => exact ih bytes

/-- Written octets end with other written octets exactly if the octets do. -/
theorem encode_suffix_iff (last bytes : Bytes) :
    encode last <:+ encode bytes ↔ last <:+ bytes := by
  constructor
  · intro h
    rw [List.suffix_iff_eq_drop, length_encode, length_encode, ← Nat.mul_sub, drop_encode] at h
    rw [encode_injective h]
    exact List.drop_suffix _ _
  · rintro ⟨first, rfl⟩
    exact ⟨encode first, (encode_append first last).symm⟩

theorem toLower_digit {n : Nat} (hn : n < 16) : (digit n).toLower = digit n := by
  have hall : ∀ m : Fin 16, (digit m.val).toLower = digit m.val := by decide
  exact hall ⟨n, hn⟩

theorem map_toLower_encode (bytes : Bytes) : (encode bytes).map Char.toLower = encode bytes := by
  induction bytes with
  | nil => rfl
  | cons b bytes ih =>
    have hb := b.toNat_lt
    have hpair : (pair b).map Char.toLower = pair b := by
      rw [pair, List.map_cons, List.map_singleton, toLower_digit (by omega),
        toLower_digit (by omega)]
    rw [show encode (b :: bytes) = pair b ++ encode bytes from rfl, List.map_append, hpair, ih]

end Hex

namespace KeyStore

/-- The digits that a key is listed under are those of its identifier with zero octets in front. -/
theorem listedDigits_eq (identifier : Bytes) :
    listedDigits identifier =
      Hex.encode (List.replicate (4 - identifier.length) 0 ++ identifier) := by
  rw [Hex.encode_append, Hex.encode_replicate_zero, listedDigits, List.leftpad,
    Hex.length_encode, show 8 - 2 * identifier.length = 2 * (4 - identifier.length) by omega]

theorem query?_description (id : KeyId) :
    query? id.description = some (Hex.encode id.toBytes) := by
  have htext : id.description.toList = 'i' :: 'd' :: ':' :: Hex.encode id.toBytes := by
    rw [id.description_eq, String.toList_append, String.toList_ofList, String.toList_ofList]
    rfl
  rw [query?, htext]
  exact congrArg some (Hex.map_toLower_encode id.toBytes)

/-- The last four octets of an identifier, with zero octets in front of a shorter one, are those
of its 32-bit identifier. -/
theorem toBytes_suffix_iff (id : KeyId) (identifier : Bytes) :
    id.toBytes <:+ List.replicate (4 - identifier.length) 0 ++ identifier ↔
      Crypto.shortKeyId identifier = id := by
  rw [List.suffix_iff_eq_drop, id.length_toBytes, List.length_append, List.length_replicate,
    id.toBytes_eq_iff (by simp only [List.length_drop, List.length_append,
      List.length_replicate]; omega), Crypto.shortKeyId]
  by_cases hshort : identifier.length ≤ 4
  · rw [show 4 - identifier.length + identifier.length - 4 = 0 by omega,
      show identifier.length - 4 = 0 by omega, List.drop_zero, List.drop_zero,
      Bytes.toNat_replicate_zero_append]
  · rw [show 4 - identifier.length = 0 by omega, List.replicate_zero, List.nil_append,
      Nat.zero_add]

/-- The description of a 32-bit identifier, asked for by the end, finds the keys that are
published under it. -/
theorem isMatch_description (identifier : Bytes) (id : KeyId) :
    isMatch identifier id.description true = true ↔ Crypto.shortKeyId identifier = id := by
  have hnonempty : (Hex.encode id.toBytes).isEmpty = false := by
    rw [List.isEmpty_eq_false_iff, ne_eq, ← List.length_eq_zero_iff, Hex.length_encode,
      id.length_toBytes]
    decide
  rw [isMatch, query?_description, ← toBytes_suffix_iff, ← Hex.encode_suffix_iff,
    ← listedDigits_eq]
  simp only [if_true, hnonempty, Bool.not_false, Bool.true_and, List.isSuffixOf_iff_suffix]

end KeyStore

end TrustedKeyring
