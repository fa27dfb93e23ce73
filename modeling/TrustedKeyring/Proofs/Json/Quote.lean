import TrustedKeyring.Json.Text
import TrustedKeyring.Proofs.Key.Description

/-!
# Quoted strings

Reading the body of a JSON string undoes writing it, character by character, whatever follows
(`stringBody_flatMap_escape`).
-/

namespace TrustedKeyring.Json

theorem digit_quotient_lt (b : UInt8) : b.toNat / 16 < 16 := by
  have hb := b.toNat_lt
  omega

theorem hexUnit_encode (high low : UInt8) (rest : List Char) :
    hexUnit (Hex.encode [high, low] ++ rest) = .ok (256 * high.toNat + low.toNat, rest) := by
  have hhigh := Hex.value?_digit (Nat.mod_lt high.toNat (by decide : 0 < 16))
  have hlow := Hex.value?_digit (Nat.mod_lt low.toNat (by decide : 0 < 16))
  simp only [Hex.encode, Hex.pair, List.flatMap_cons, List.flatMap_nil, List.cons_append,
    List.nil_append, hexUnit, Hex.value?_digit (digit_quotient_lt high),
    Hex.value?_digit (digit_quotient_lt low), hhigh, hlow, Except.ok.injEq, Prod.mk.injEq,
    and_true]
  omega

/-- Four digits are read as the number that they write. -/
theorem hexUnit_padded {n : Nat} (hn : n < 65536) (rest : List Char) :
    hexUnit (Hex.padded 4 n ++ rest) = .ok (n, rest) := by
  have hencode : Hex.padded 4 n = Hex.encode [UInt8.ofNat (n / 256), UInt8.ofNat n] :=
    Hex.padded_eq_encode 1 n hn
  rw [hencode, hexUnit_encode, UInt8.toNat_ofNat', UInt8.toNat_ofNat']
  congr 2
  omega

theorem unicodeEscape_padded {c : Char} (hc : c.toNat < 0x20) (rest : List Char) :
    unicodeEscape (Hex.padded 4 c.toNat ++ rest) = .ok (c, rest) := by
  have hlow : isLowSurrogate c.toNat = false := by
    simp only [isLowSurrogate, Bool.and_eq_false_iff, decide_eq_false_iff_not]
    omega
  have hhigh : isHighSurrogate c.toNat = false := by
    simp only [isHighSurrogate, Bool.and_eq_false_iff, decide_eq_false_iff_not]
    omega
  rw [unicodeEscape, hexUnit_padded (by omega)]
  simp only [hlow, hhigh, Bool.false_eq_true, if_false, Bool.not_false, if_true, Char.ofNat_toNat]

/-- A character that is no quote, no backslash and no control character stands for itself. -/
theorem stringItem_of_plain {c : Char} (hquote : c ≠ '"') (hbackslash : c ≠ '\\')
    (hc : ¬c.toNat < 0x20) (rest : List Char) : stringItem (c :: rest) = .ok (some c, rest) := by
  unfold stringItem
  split
  next heq => cases heq
  next heq => exact absurd (List.cons.inj heq).1 hquote
  next heq => exact absurd (List.cons.inj heq).1 hbackslash
  next heq => exact absurd (List.cons.inj heq).1 hbackslash
  next heq => exact absurd (List.cons.inj heq).1 hbackslash
  next heq =>
    obtain ⟨rfl, rfl⟩ := List.cons.inj heq
    rw [if_neg hc]

theorem stringItem_escape (c : Char) (rest : List Char) :
    stringItem (escape c ++ rest) = .ok (some c, rest) := by
  unfold escape
  split
  · rfl
  · rfl
  · rfl
  · rfl
  · rfl
  · rfl
  · rfl
  next hquote hbackslash _ _ _ _ _ =>
    by_cases hc : c.toNat < 0x20
    · rw [if_pos hc]
      show (unicodeEscape (Hex.padded 4 c.toNat ++ rest)).map _ = _
      rw [unicodeEscape_padded hc]
      rfl
    · rw [if_neg hc]
      exact stringItem_of_plain hquote hbackslash hc rest

/-- What is written inside quotes is read again up to the closing quote. -/
theorem stringBody_flatMap_escape (text rest : List Char) :
    stringBody (text.flatMap escape ++ '"' :: rest) = .ok (text, rest) := by
  induction text with
  | nil =>
    rw [stringBody]
    split
    next fault heq => cases heq
    next rest' heq =>
      cases heq
      rfl
    next c rest' heq => cases heq
  | cons c text ih =>
    -- the escaped character is read as one item, whatever it takes
    have hitem := stringItem_escape c (text.flatMap escape ++ '"' :: rest)
    rw [List.flatMap_cons, List.append_assoc, stringBody]
    split
    next fault heq =>
      rw [hitem] at heq
      cases heq
    next rest' heq =>
      rw [hitem] at heq
      cases heq
    next d rest' heq =>
      rw [hitem] at heq
      cases heq
      rw [ih]
      rfl

theorem quote_append (text rest : List Char) :
    quote text ++ rest = '"' :: (text.flatMap escape ++ '"' :: rest) := by
  simp [quote]

theorem string_quote (text rest : List Char) : string (quote text ++ rest) = .ok (text, rest) := by
  rw [quote_append]
  exact stringBody_flatMap_escape text rest

end TrustedKeyring.Json
