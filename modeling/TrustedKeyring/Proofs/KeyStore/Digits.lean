import TrustedKeyring.Proofs.KeyStore.Listing

/-!
# Digits of descriptions

What a description asks for, in terms of the values of its digits (`isMatch_iff`).  A key is found
by the values at the end of those that it is listed under, or by all of them, in digits of either
case; no other character may stand among them.
-/

namespace TrustedKeyring

namespace Hex

variable {text : List Char} {values : List Nat} {value : Nat}

def halves (bytes : Bytes) : List Nat :=
  bytes.flatMap fun b => [b.toNat / 16, b.toNat % 16]

def Spells (text : List Char) (values : List Nat) : Prop :=
  text.map value? = values.map some

theorem encode_eq_map_halves (bytes : Bytes) : encode bytes = (halves bytes).map digit := by
  rw [halves, List.map_flatMap]
  rfl

theorem lt_of_mem_halves {bytes : Bytes} (h : value ∈ halves bytes) : value < 16 := by
  obtain ⟨b, -, hvalue⟩ := List.mem_flatMap.mp h
  have hb := b.toNat_lt
  simp only [List.mem_cons, List.not_mem_nil, or_false] at hvalue
  omega

/-- Digits are among the first characters, and so is what turns into a digit in lower case. -/
theorem not_digit_of_le {c : Char} (h : 128 ≤ c.toNat) (value : Nat) :
    value? c ≠ some value ∧ ¬(value < 16 ∧ c.toLower = digit value) := by
  have habove : ∀ d : Char, d.toNat < 128 → ¬c ≤ d := by
    intro d hd hle
    have hle' : c.toNat ≤ d.toNat := hle
    omega
  constructor
  · simp [value?, habove '9' (by decide), habove 'f' (by decide), habove 'F' (by decide)]
  · rintro ⟨hvalue, hlower⟩
    have hkept : c.toLower = c := by
      unfold Char.toLower
      exact dif_neg fun hupper => habove 'Z' (by decide) hupper.2
    have hfew : ∀ m : Fin 16, (digit m.val).toNat < 128 := by decide
    have hdigit : (digit value).toNat < 128 := hfew ⟨value, hvalue⟩
    rw [← hlower, hkept] at hdigit
    omega

/-- A character has the value of a digit if it is that digit in lower case. -/
theorem value?_eq_some_iff (c : Char) (value : Nat) :
    value? c = some value ↔ value < 16 ∧ c.toLower = digit value := by
  by_cases hfew : c.toNat < 128
  · have hbounds : ∀ n : Fin 128, ∀ found, value? (Char.ofNat n) = some found → found < 16 := by
      decide
    have hdigits : ∀ n : Fin 128, ∀ m : Fin 16,
        value? (Char.ofNat n) = some m.val ↔ (Char.ofNat n).toLower = digit m := by decide
    have hbound := hbounds ⟨c.toNat, hfew⟩
    have hdigit := hdigits ⟨c.toNat, hfew⟩
    rw [Char.ofNat_toNat] at hbound hdigit
    constructor
    · intro hvalue
      have hlt := hbound value hvalue
      exact ⟨hlt, (hdigit ⟨value, hlt⟩).mp hvalue⟩
    · rintro ⟨hlt, hlower⟩
      exact (hdigit ⟨value, hlt⟩).mpr hlower
  · obtain ⟨hvalue, hlower⟩ := not_digit_of_le (Nat.le_of_not_lt hfew) value
    exact iff_of_false hvalue hlower

/-- A text spells values if it consists of their digits once it is in lower case. -/
theorem spells_iff (text : List Char) (values : List Nat) :
    Spells text values ↔
      (∀ value ∈ values, value < 16) ∧ text.map Char.toLower = values.map digit := by
  unfold Spells
  induction text generalizing values with
  | nil => cases values <;> simp
  | cons c text ih =>
    cases values with
    | nil => simp
    | cons value values =>
      simp only [List.map_cons, List.cons.injEq, ih, value?_eq_some_iff, List.forall_mem_cons]
      tauto

theorem Spells.isSome_value? (h : Spells text values) {c : Char} (hc : c ∈ text) :
    (value? c).isSome := by
  have hmem : value? c ∈ text.map value? := List.mem_map_of_mem hc
  rw [h] at hmem
  obtain ⟨value, -, hvalue⟩ := List.mem_map.mp hmem
  rw [← hvalue]
  rfl

/-- The end of a text spells the values at the end. -/
theorem Spells.exists_suffix {tail : List Char} (h : Spells text values) (htail : tail <:+ text) :
    ∃ last, last <:+ values ∧ Spells tail last := by
  have hsuffix : tail.map value? <:+ values.map some := h ▸ htail.map value?
  obtain ⟨last, hlast, heq⟩ := List.suffix_map_iff.mp hsuffix
  exact ⟨last, hlast, heq⟩

end Hex

namespace KeyStore

variable {identifier : Bytes} {description : String} {byEnd : Bool}

def listedValues (identifier : Bytes) : List Nat :=
  (Hex.halves identifier).leftpad 8 0

/-- Whether a description asks for the key with this identifier.  It is `id:` and digits: by the
end, some of those that the key is listed under, and otherwise all of them. -/
def AsksFor (description : String) (byEnd : Bool) (identifier : Bytes) : Prop :=
  ∃ text values, description = "id:" ++ text ∧ Hex.Spells text.toList values ∧
    if byEnd then values ≠ [] ∧ values <:+ listedValues identifier
    else values = listedValues identifier

theorem listedDigits_eq_map (identifier : Bytes) :
    listedDigits identifier = (listedValues identifier).map Hex.digit := by
  rw [listedDigits, listedValues, List.leftpad, List.leftpad, Hex.encode_eq_map_halves,
    List.map_append, List.map_replicate, List.length_map]
  rfl

theorem lt_of_mem_listedValues {value : Nat} (h : value ∈ listedValues identifier) :
    value < 16 := by
  rcases List.mem_append.mp h with hzero | hvalue
  · rw [List.eq_of_mem_replicate hzero]
    decide
  · exact Hex.lt_of_mem_halves hvalue

theorem query?_eq_some_iff {query : List Char} :
    query? description = some query ↔
      ∃ text, description = "id:" ++ text ∧ text.toList.map Char.toLower = query := by
  constructor
  · intro h
    unfold query? at h
    split at h
    next rest htext =>
      cases h
      refine ⟨String.ofList rest, ?_, by rw [String.toList_ofList]⟩
      rw [← String.toList_inj, htext, String.toList_append, String.toList_ofList,
        String.toList_ofList]
      rfl
    next => cases h
  · rintro ⟨text, rfl, rfl⟩
    rw [query?, String.toList_append]
    rfl

/-- A description finds a key if it asks for it. -/
theorem isMatch_iff (identifier : Bytes) (description : String) (byEnd : Bool) :
    isMatch identifier description byEnd = true ↔ AsksFor description byEnd identifier := by
  have hlisted := listedDigits_eq_map identifier
  constructor
  · intro h
    unfold isMatch at h
    cases hquery : query? description with
    | none => rw [hquery] at h; cases h
    | some query =>
      obtain ⟨text, hdescription, hlower⟩ := query?_eq_some_iff.mp hquery
      rw [hquery, hlisted] at h
      cases byEnd with
      | true =>
        simp only [if_true, Bool.and_eq_true, Bool.not_eq_true', List.isSuffixOf_iff_suffix] at h
        obtain ⟨hnonempty, hsuffix⟩ := h
        -- the end of the listed digits is the listed values' end, digit by digit
        obtain ⟨values, hvalues, rfl⟩ := List.suffix_map_iff.mp hsuffix
        have hspells : Hex.Spells text.toList values := (Hex.spells_iff _ _).mpr
          ⟨fun value hvalue => lt_of_mem_listedValues (hvalues.subset hvalue), hlower⟩
        refine ⟨text, values, hdescription, hspells, ?_, hvalues⟩
        rintro rfl
        cases hnonempty
      | false =>
        have hsame : (listedValues identifier).map Hex.digit = query := by simpa using h
        have hspells : Hex.Spells text.toList (listedValues identifier) := (Hex.spells_iff _ _).mpr
          ⟨fun value hvalue => lt_of_mem_listedValues hvalue, hlower.trans hsame.symm⟩
        exact ⟨text, listedValues identifier, hdescription, hspells, rfl⟩
  · rintro ⟨text, values, hdescription, hspells, hvalues⟩
    obtain ⟨-, hlower⟩ := (Hex.spells_iff _ _).mp hspells
    rw [isMatch, query?_eq_some_iff.mpr ⟨text, hdescription, hlower⟩, hlisted]
    cases byEnd with
    | true =>
      obtain ⟨hnonempty, hsuffix⟩ := hvalues
      have hquery : (values.map Hex.digit).isEmpty = false := by
        simpa using hnonempty
      simp only [if_true, hquery, Bool.not_false, Bool.true_and, List.isSuffixOf_iff_suffix]
      exact hsuffix.map Hex.digit
    | false =>
      rw [show values = listedValues identifier from hvalues]
      simp

theorem listedValues_ne_nil (identifier : Bytes) : listedValues identifier ≠ [] := by
  have hlength : 8 ≤ (listedValues identifier).length := by
    rw [listedValues, List.leftpad, List.length_append, List.length_replicate]
    omega
  exact List.ne_nil_of_length_pos (by omega)

/-- A description that asks for a key in full asks for it by the end, too. -/
theorem asksFor_end_of_full (h : AsksFor description false identifier) :
    AsksFor description true identifier := by
  obtain ⟨text, values, hdescription, hspells, hvalues⟩ := h
  have hall : values = listedValues identifier := hvalues
  rw [hall] at hspells
  exact ⟨text, _, hdescription, hspells, listedValues_ne_nil identifier, List.suffix_refl _⟩

/-- What a text asks for by the end, the end of the text asks for as well. -/
theorem AsksFor.tail {head tail : String} (h : AsksFor ("id:" ++ (head ++ tail)) true identifier)
    (htail : tail ≠ "") : AsksFor ("id:" ++ tail) true identifier := by
  obtain ⟨text, values, hdescription, hspells, -, hvalues⟩ := h
  have hsuffix : tail.toList <:+ text.toList := by
    rw [← (String.append_right_inj "id:").mp hdescription, String.toList_append]
    exact List.suffix_append _ _
  obtain ⟨last, hlast, hspelled⟩ := hspells.exists_suffix hsuffix
  refine ⟨tail, last, rfl, hspelled, ?_, hlast.trans hvalues⟩
  rintro rfl
  have hempty : tail.toList = [] := List.map_eq_nil_iff.mp hspelled
  exact htail (String.toList_inj.mp hempty)

/-- A text with a character that is no digit asks for nothing. -/
theorem AsksFor.isSome_value? {text : String} (h : AsksFor ("id:" ++ text) byEnd identifier)
    {c : Char} (hc : c ∈ text.toList) : (Hex.value? c).isSome := by
  obtain ⟨spelled, values, hdescription, hspells, -⟩ := h
  rw [(String.append_right_inj "id:").mp hdescription] at hc
  exact hspells.isSome_value? hc

end KeyStore

end TrustedKeyring
