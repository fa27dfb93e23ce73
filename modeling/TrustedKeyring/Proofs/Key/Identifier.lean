import Mathlib.Data.List.Basic
import TrustedKeyring.Proofs.KeyStore.Listing
import TrustedKeyring.TrustStore

/-!
# Written forms of identifiers

An identifier is four octets, a word in either order of octets, and a description.  Each form
determines the others, and every text of the form of a description describes exactly one identifier
(`forms_bijective`).
-/

namespace TrustedKeyring

namespace Hex

def lowerDigits : List Char :=
  ['0', '1', '2', '3', '4', '5', '6', '7', '8', '9', 'a', 'b', 'c', 'd', 'e', 'f']

def number? (digits : List Char) : Option Nat :=
  digits.foldlM (fun n c => (value? c).map (16 * n + ·)) 0

theorem mem_lowerDigits_iff {c : Char} : c ∈ lowerDigits ↔ ∃ n < 16, digit n = c := by
  have hall : lowerDigits = (List.range 16).map digit := rfl
  simp only [hall, List.mem_map, List.mem_range]

theorem mem_lowerDigits_of_mem_encode {bytes : Bytes} {c : Char} (hc : c ∈ encode bytes) :
    c ∈ lowerDigits := by
  obtain ⟨b, -, hdigit⟩ := List.mem_flatMap.mp hc
  have hb := b.toNat_lt
  rcases List.mem_pair.mp hdigit with rfl | rfl
  · exact mem_lowerDigits_iff.mpr ⟨_, by omega, rfl⟩
  · exact mem_lowerDigits_iff.mpr ⟨_, by omega, rfl⟩

theorem pair_ofNat {high low : Nat} (hhigh : high < 16) (hlow : low < 16) :
    pair (UInt8.ofNat (16 * high + low)) = [digit high, digit low] := by
  rw [pair, UInt8.toNat_ofNat', show (16 * high + low) % 2 ^ 8 / 16 = high by omega,
    show (16 * high + low) % 2 ^ 8 % 16 = low by omega]

/-- Digits in lower case, two for each octet, are the written form of the octets. -/
theorem exists_encode_eq (count : Nat) {digits : List Char} (hlength : digits.length = 2 * count)
    (hlower : ∀ c ∈ digits, c ∈ lowerDigits) :
    ∃ bytes : Bytes, bytes.length = count ∧ encode bytes = digits := by
  induction count generalizing digits with
  | zero =>
    obtain rfl := List.length_eq_zero_iff.mp hlength
    exact ⟨[], rfl, rfl⟩
  | succ count ih =>
    match digits with
    | x :: y :: digits =>
      rw [List.forall_mem_cons, List.forall_mem_cons] at hlower
      obtain ⟨hx, hy, hrest⟩ := hlower
      obtain ⟨high, hhigh, rfl⟩ := mem_lowerDigits_iff.mp hx
      obtain ⟨low, hlow, rfl⟩ := mem_lowerDigits_iff.mp hy
      obtain ⟨bytes, rfl, rfl⟩ := ih (by simpa [Nat.mul_add] using hlength) hrest
      refine ⟨UInt8.ofNat (16 * high + low) :: bytes, rfl, ?_⟩
      rw [encode, List.flatMap_cons, pair_ofNat hhigh hlow]
      rfl

/-- Read as a number, the digits of octets have the value that the octets have in base 256. -/
theorem number?_encode (bytes : Bytes) : number? (encode bytes) = some bytes.toNat := by
  induction bytes using List.reverseRecOn with
  | nil => rfl
  | append_singleton bytes b ih =>
    have hb := b.toNat_lt
    have hhigh := value?_digit (show b.toNat / 16 < 16 by omega)
    have hlow := value?_digit (show b.toNat % 16 < 16 by omega)
    rw [number?] at ih
    rw [encode_append, number?, List.foldlM_append, ih, Bytes.toNat_append_singleton]
    simp only [encode, pair, List.flatMap_singleton, List.foldlM_cons, List.foldlM_nil, hhigh, hlow,
      Option.map_some, Option.bind_eq_bind, Option.bind_some, Option.pure_def, Option.some.injEq]
    omega

end Hex

namespace KeyId

/-- The word that four stored octets are loaded as if the first one is the least significant. -/
def loaded (a b c d : UInt8) : UInt32 :=
  UInt32.ofNat (a.toNat + 256 * b.toNat + 65536 * c.toNat + 16777216 * d.toNat)

def IsDescription (text : String) : Prop :=
  ∃ digits : List Char, text = "id:" ++ String.ofList digits ∧ digits.length = 8 ∧
    ∀ c ∈ digits, c ∈ Hex.lowerDigits

/-! ## Octets -/

theorem toBytes_ofBytes (a b c d : UInt8) : (ofBytes a b c d).toBytes = [a, b, c, d] :=
  (toBytes_eq_iff _ rfl).mpr rfl

theorem exists_toBytes_eq (id : KeyId) :
    ∃ a b c d, id.toBytes = [a, b, c, d] ∧ ofBytes a b c d = id :=
  ⟨_, _, _, _, rfl, (toBytes_eq_iff id rfl).mp rfl⟩

theorem toNat_loaded (a b c d : UInt8) :
    (loaded a b c d).toNat = a.toNat + 256 * b.toNat + 65536 * c.toNat + 16777216 * d.toNat := by
  have ha := a.toNat_lt
  have hb := b.toNat_lt
  have hc := c.toNat_lt
  have hd := d.toNat_lt
  rw [loaded, UInt32.toNat_ofNat']
  omega

theorem toNat_toUInt8_shiftRight (word count : UInt32) :
    (word >>> count).toUInt8.toNat = word.toNat / Nat.pow 2 (count.toNat % 32) % 256 := by
  rw [UInt32.toNat_toUInt8, UInt32.toNat_shiftRight, Nat.shiftRight_eq_div_pow]
  rfl

/-- Each octet of the word is found by shifting those before it out. -/
theorem ofSwapped_loaded (a b c d : UInt8) : ofSwapped (loaded a b c d) = ofBytes a b c d := by
  have ha := a.toNat_lt
  have hb := b.toNat_lt
  have hc := c.toNat_lt
  have hd := d.toNat_lt
  have hfirst : (loaded a b c d).toUInt8 = a := by
    rw [← UInt8.toNat_inj, UInt32.toNat_toUInt8, toNat_loaded]
    omega
  have hsecond : (loaded a b c d >>> 8).toUInt8 = b := by
    rw [← UInt8.toNat_inj, toNat_toUInt8_shiftRight, toNat_loaded]
    change _ / 256 % 256 = _
    omega
  have hthird : (loaded a b c d >>> 16).toUInt8 = c := by
    rw [← UInt8.toNat_inj, toNat_toUInt8_shiftRight, toNat_loaded]
    change _ / 65536 % 256 = _
    omega
  have hfourth : (loaded a b c d >>> 24).toUInt8 = d := by
    rw [← UInt8.toNat_inj, toNat_toUInt8_shiftRight, toNat_loaded]
    change _ / 16777216 % 256 = _
    omega
  rw [ofSwapped, hfirst, hsecond, hthird, hfourth]

/-! ## Descriptions -/

theorem description_ofBytes (a b c d : UInt8) :
    (ofBytes a b c d).description = "id:" ++ String.ofList (Hex.encode [a, b, c, d]) := by
  rw [description_eq, toBytes_ofBytes]

theorem drop_description (id : KeyId) : id.description.toList.drop 3 = Hex.encode id.toBytes := by
  rw [description_eq, String.toList_append, String.toList_ofList, String.toList_ofList]
  rfl

theorem number?_description (id : KeyId) :
    Hex.number? (id.description.toList.drop 3) = some id.value.toNat := by
  rw [drop_description, Hex.number?_encode, toBytes, Bytes.toNat_ofNat,
    show Nat.pow 256 4 = 2 ^ 32 from rfl, Nat.mod_eq_of_lt id.value.toNat_lt]

theorem description_inj {id other : KeyId} : id.description = other.description ↔ id = other := by
  refine ⟨?_, congrArg description⟩
  intro h
  have hvalue : some id.value.toNat = some other.value.toNat := by
    rw [← number?_description, ← number?_description, h]
  cases id
  cases other
  congr 1
  exact UInt32.toNat_inj.mp (Option.some.inj hvalue)

theorem isDescription_description (id : KeyId) : IsDescription id.description := by
  refine ⟨Hex.encode id.toBytes, id.description_eq, ?_, ?_⟩
  · rw [Hex.length_encode, id.length_toBytes]
  · intro c hc
    exact Hex.mem_lowerDigits_of_mem_encode hc

theorem IsDescription.exists_description {text : String} (h : IsDescription text) :
    ∃ id : KeyId, id.description = text := by
  obtain ⟨digits, rfl, hlength, hlower⟩ := h
  obtain ⟨bytes, hbytes, rfl⟩ := Hex.exists_encode_eq 4 hlength hlower
  refine ⟨⟨UInt32.ofNat bytes.toNat⟩, ?_⟩
  rw [description_eq, (toBytes_eq_iff _ hbytes).mpr rfl]

/-- Octets, words and descriptions are the same identifiers.  Octets are stored as they were read,
and loaded in the other order they are swapped back.  The description, which is what an identifier
is shown as and what provisioning is told, writes the octets in lower case, and read as a
hexadecimal number it is the identifier.  The texts of this form describe one identifier each. -/
theorem forms_bijective :
    (∀ a b c d : UInt8,
      (ofBytes a b c d).toBytes = [a, b, c, d] ∧
      ofSwapped (loaded a b c d) = ofBytes a b c d ∧
      (ofBytes a b c d).description = "id:" ++ String.ofList (Hex.encode [a, b, c, d])) ∧
    (∀ id : KeyId,
      (∃ a b c d, id.toBytes = [a, b, c, d] ∧ ofBytes a b c d = id) ∧
      toString id = id.description ∧ keyDescription id.value = id.description ∧
      TrustStore.keyDescription id.value = id.description ∧
      Hex.number? (id.description.toList.drop 3) = some id.value.toNat) ∧
    (∀ id other : KeyId, id.description = other.description ↔ id = other) ∧
    ∀ text, IsDescription text ↔ ∃! id : KeyId, id.description = text := by
  refine ⟨?_, ?_, fun _ _ => description_inj, ?_⟩
  · intro a b c d
    exact ⟨toBytes_ofBytes a b c d, ofSwapped_loaded a b c d, description_ofBytes a b c d⟩
  · intro id
    exact ⟨exists_toBytes_eq id, rfl, rfl, rfl, number?_description id⟩
  · intro text
    constructor
    · intro h
      obtain ⟨id, rfl⟩ := h.exists_description
      exact ⟨id, rfl, fun _ hother => description_inj.mp hother⟩
    · rintro ⟨id, rfl, -⟩
      exact isDescription_description id

end KeyId

end TrustedKeyring
