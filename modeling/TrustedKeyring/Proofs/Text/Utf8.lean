import Mathlib.Data.List.Forall2
import TrustedKeyring.Text.Utf8

/-!
# UTF-8 as texts are encoded

A byte string is UTF-8 if it encodes a text (`isUtf8_iff`).  The octets that may stand for one
character are told by their ranges (`IsCharacter`): these are the ones that the places of a leading
octet leave open, and the ones that a character is encoded as.
-/

namespace TrustedKeyring.Text

variable {bytes filling : Bytes} {lead : UInt8}

def encode (text : String) : Bytes :=
  text.toUTF8.data.toList

def IsText (bytes : Bytes) : Prop :=
  ∃ text, encode text = bytes

theorem encode_ofList (chars : List Char) :
    encode (String.ofList chars) = chars.flatMap String.utf8EncodeChar := by
  simp [encode, List.utf8Encode]

/-! ## Places -/

def Fills (places : List OctetRange) (filling : Bytes) : Prop :=
  List.Forall₂ (fun place b => place.has b = true) places filling

theorem OctetRange.has_iff (range : OctetRange) (b : UInt8) :
    range.has b = true ↔ range.low.toNat ≤ b.toNat ∧ b.toNat ≤ range.high.toNat := by
  rw [has, Bool.and_eq_true, decide_eq_true_iff, decide_eq_true_iff, UInt8.le_iff_toNat_le,
    UInt8.le_iff_toNat_le]

theorem fills_nil_iff : Fills [] filling ↔ filling = [] :=
  List.forall₂_nil_left_iff

theorem fills_cons_iff {low high : UInt8} {places : List OctetRange} :
    Fills (⟨low, high⟩ :: places) filling ↔
      ∃ b rest, (low.toNat ≤ b.toNat ∧ b.toNat ≤ high.toNat) ∧ Fills places rest ∧
        filling = b :: rest := by
  simp only [Fills, List.forall₂_cons_left_iff, OctetRange.has_iff]

/-- The open places take the octets up to the next whole character. -/
theorem isUtf8From_iff (places : List OctetRange) (bytes : Bytes) :
    isUtf8From places bytes = true ↔
      ∃ filling rest, bytes = filling ++ rest ∧ Fills places filling ∧ isUtf8 rest = true := by
  -- the reader goes through the open places one octet at a time
  induction places generalizing bytes with
  | nil =>
    constructor
    · intro h
      exact ⟨[], bytes, rfl, .nil, h⟩
    · rintro ⟨filling, rest, rfl, hfills, hrest⟩
      cases hfills
      exact hrest
  | cons place places ih =>
    cases bytes with
    | nil =>
      refine iff_of_false Bool.false_ne_true ?_
      rintro ⟨filling, rest, hbytes, hfills, -⟩
      cases hfills
      cases hbytes
    | cons b bytes =>
      rw [isUtf8From, Bool.and_eq_true, ih]
      constructor
      · rintro ⟨hb, filling, rest, rfl, hfills, hrest⟩
        exact ⟨b :: filling, rest, rfl, .cons hb hfills, hrest⟩
      · rintro ⟨filling, rest, hbytes, hfills, hrest⟩
        cases hfills with
        | cons hb hfills =>
          cases hbytes
          exact ⟨hb, _, rest, rfl, hfills, hrest⟩

theorem isUtf8_cons_iff (lead : UInt8) (bytes : Bytes) :
    isUtf8 (lead :: bytes) = true ↔
      ∃ places, openPlaces? lead = some places ∧ isUtf8From places bytes = true := by
  rw [isUtf8, isUtf8From]
  cases openPlaces? lead <;> simp

/-! ## Characters -/

def IsContinuation (b : UInt8) : Prop :=
  0x80 ≤ b.toNat ∧ b.toNat ≤ 0xBF

/-- The octets that stand for one character.  Those after the first one only continue it; the ranges
of the first and the second octet leave out longer forms than necessary, surrogates, and what is
beyond the last character. -/
inductive IsCharacter : Bytes → Prop
  | one {a : UInt8} (ha : a.toNat ≤ 0x7F) : IsCharacter [a]
  | two {a b : UInt8} (ha : 0xC2 ≤ a.toNat) (ha' : a.toNat ≤ 0xDF) (hb : IsContinuation b) :
      IsCharacter [a, b]
  | three {a b c : UInt8} (ha : 0xE0 ≤ a.toNat) (ha' : a.toNat ≤ 0xEF) (hb : IsContinuation b)
      (hc : IsContinuation c) (hshortest : a.toNat = 0xE0 → 0xA0 ≤ b.toNat)
      (hsurrogate : a.toNat = 0xED → b.toNat ≤ 0x9F) : IsCharacter [a, b, c]
  | four {a b c d : UInt8} (ha : 0xF0 ≤ a.toNat) (ha' : a.toNat ≤ 0xF4) (hb : IsContinuation b)
      (hc : IsContinuation c) (hd : IsContinuation d) (hshortest : a.toNat = 0xF0 → 0x90 ≤ b.toNat)
      (hlast : a.toNat = 0xF4 → b.toNat ≤ 0x8F) : IsCharacter [a, b, c, d]

theorem fills_continuation {places : List OctetRange} {b : UInt8} (hb : IsContinuation b)
    (hfills : Fills places filling) : Fills (continuation :: places) (b :: filling) :=
  fills_cons_iff.mpr ⟨b, filling, hb, hfills, rfl⟩

theorem openPlaces?_eq (lead : UInt8) :
    openPlaces? lead =
      if lead.toNat ≤ 0x7F then some []
      else if lead.toNat < 0xC2 then none
      else if lead.toNat ≤ 0xDF then some [continuation]
      else if lead.toNat = 0xE0 then some [⟨0xA0, 0xBF⟩, continuation]
      else if lead.toNat = 0xED then some [⟨0x80, 0x9F⟩, continuation]
      else if lead.toNat ≤ 0xEF then some [continuation, continuation]
      else if lead.toNat = 0xF0 then some [⟨0x90, 0xBF⟩, continuation, continuation]
      else if lead.toNat ≤ 0xF3 then some [continuation, continuation, continuation]
      else if lead.toNat = 0xF4 then some [⟨0x80, 0x8F⟩, continuation, continuation]
      else none := by
  simp only [openPlaces?, UInt8.le_iff_toNat_le, UInt8.lt_iff_toNat_lt, ← UInt8.toNat_inj]
  rfl

theorem openPlaces?_of_two (h : 0xC2 ≤ lead.toNat) (h' : lead.toNat ≤ 0xDF) :
    openPlaces? lead = some [continuation] := by
  rw [openPlaces?_eq, if_neg (by omega), if_neg (by omega), if_pos h']

theorem openPlaces?_of_three (h : 0xE0 ≤ lead.toNat) (h' : lead.toNat ≤ 0xEF) :
    openPlaces? lead =
      some [⟨if lead.toNat = 0xE0 then 0xA0 else 0x80, if lead.toNat = 0xED then 0x9F else 0xBF⟩,
        continuation] := by
  rw [openPlaces?_eq, if_neg (by omega), if_neg (by omega), if_neg (by omega)]
  by_cases hfirst : lead.toNat = 0xE0
  · rw [if_pos hfirst, if_pos hfirst, if_neg (by omega)]
  · by_cases hsurrogate : lead.toNat = 0xED
    · rw [if_neg hfirst, if_pos hsurrogate, if_neg hfirst, if_pos hsurrogate]
    · rw [if_neg hfirst, if_neg hsurrogate, if_pos h', if_neg hfirst, if_neg hsurrogate]
      rfl

theorem openPlaces?_of_four (h : 0xF0 ≤ lead.toNat) (h' : lead.toNat ≤ 0xF4) :
    openPlaces? lead =
      some [⟨if lead.toNat = 0xF0 then 0x90 else 0x80, if lead.toNat = 0xF4 then 0x8F else 0xBF⟩,
        continuation, continuation] := by
  rw [openPlaces?_eq, if_neg (by omega), if_neg (by omega), if_neg (by omega), if_neg (by omega),
    if_neg (by omega), if_neg (by omega)]
  by_cases hfirst : lead.toNat = 0xF0
  · rw [if_pos hfirst, if_pos hfirst, if_neg (by omega)]
  · by_cases hlast : lead.toNat = 0xF4
    · rw [if_neg hfirst, if_neg (by omega), if_pos hlast, if_neg hfirst, if_pos hlast]
    · rw [if_neg hfirst, if_pos (by omega), if_neg hfirst, if_neg hlast]
      rfl

theorem range_of_openPlaces? {places : List OctetRange} (h : openPlaces? lead = some places) :
    lead.toNat ≤ 0x7F ∨ 0xC2 ≤ lead.toNat ∧ lead.toNat ≤ 0xF4 := by
  by_contra hout
  rw [openPlaces?_eq, if_neg (by omega)] at h
  by_cases hlow : lead.toNat < 0xC2
  · rw [if_pos hlow] at h
    cases h
  · rw [if_neg hlow, if_neg (by omega), if_neg (by omega), if_neg (by omega), if_neg (by omega),
      if_neg (by omega), if_neg (by omega), if_neg (by omega)] at h
    cases h

/-- By the number of octets: what fills the places after the first one completes a character. -/
theorem isCharacter_of_fills {places : List OctetRange} (hplaces : openPlaces? lead = some places)
    (hfills : Fills places filling) : IsCharacter (lead :: filling) := by
  have hrange := range_of_openPlaces? hplaces
  by_cases hone : lead.toNat ≤ 0x7F
  · rw [openPlaces?_eq, if_pos hone] at hplaces
    cases hplaces
    rw [fills_nil_iff.mp hfills]
    exact .one hone
  by_cases htwo : lead.toNat ≤ 0xDF
  · rw [openPlaces?_of_two (by omega) htwo] at hplaces
    cases hplaces
    obtain ⟨b, _, hb, hnil, rfl⟩ := fills_cons_iff.mp hfills
    rw [fills_nil_iff.mp hnil]
    exact .two (by omega) htwo hb
  by_cases hthree : lead.toNat ≤ 0xEF
  · rw [openPlaces?_of_three (by omega) hthree] at hplaces
    cases hplaces
    obtain ⟨b, _, ⟨hlow, hhigh⟩, hrest, rfl⟩ := fills_cons_iff.mp hfills
    obtain ⟨c, _, hc, hnil, rfl⟩ := fills_cons_iff.mp hrest
    rw [fills_nil_iff.mp hnil]
    simp only [apply_ite UInt8.toNat, UInt8.reduceToNat] at hlow hhigh
    split_ifs at hlow hhigh <;>
      exact .three (by omega) hthree ⟨by omega, by omega⟩ hc (by omega) (by omega)
  · rw [openPlaces?_of_four (by omega) (by omega)] at hplaces
    cases hplaces
    obtain ⟨b, _, ⟨hlow, hhigh⟩, hrest, rfl⟩ := fills_cons_iff.mp hfills
    obtain ⟨c, _, hc, hlast, rfl⟩ := fills_cons_iff.mp hrest
    obtain ⟨d, _, hd, hnil, rfl⟩ := fills_cons_iff.mp hlast
    rw [fills_nil_iff.mp hnil]
    simp only [apply_ite UInt8.toNat, UInt8.reduceToNat] at hlow hhigh
    split_ifs at hlow hhigh <;>
      exact .four (by omega) (by omega) ⟨by omega, by omega⟩ hc hd (by omega) (by omega)

theorem exists_fills_of_isCharacter (h : IsCharacter (lead :: filling)) :
    ∃ places, openPlaces? lead = some places ∧ Fills places filling := by
  cases h with
  | one ha =>
    rw [openPlaces?_eq]
    exact ⟨[], if_pos ha, .nil⟩
  | two ha ha' hb => exact ⟨_, openPlaces?_of_two ha ha', fills_continuation hb .nil⟩
  | three ha ha' hb hc hshortest hsurrogate =>
    refine ⟨_, openPlaces?_of_three ha ha', fills_cons_iff.mpr ⟨_, _, ⟨?_, ?_⟩,
      fills_continuation hc .nil, rfl⟩⟩
    · split_ifs with hfirst
      · exact hshortest hfirst
      · exact hb.1
    · split_ifs with hsecond
      · exact hsurrogate hsecond
      · exact hb.2
  | four ha ha' hb hc hd hshortest hlast =>
    refine ⟨_, openPlaces?_of_four ha ha', fills_cons_iff.mpr ⟨_, _, ⟨?_, ?_⟩,
      fills_continuation hc (fills_continuation hd .nil), rfl⟩⟩
    · split_ifs with hfirst
      · exact hshortest hfirst
      · exact hb.1
    · split_ifs with hfourth
      · exact hlast hfourth
      · exact hb.2

theorem isCharacter_utf8EncodeChar (c : Char) : IsCharacter (String.utf8EncodeChar c) := by
  have hvalid : c.val.toNat < 0xD800 ∨ 0xDFFF < c.val.toNat ∧ c.val.toNat < 0x110000 := c.valid
  unfold String.utf8EncodeChar
  generalize c.val.toNat = number at hvalid
  dsimp only
  split_ifs
  · apply IsCharacter.one
    simp only [UInt8.toNat_ofNat']
    omega
  · apply IsCharacter.two <;> simp only [IsContinuation, UInt8.toNat_ofNat'] <;> omega
  · apply IsCharacter.three <;> simp only [IsContinuation, UInt8.toNat_ofNat'] <;> omega
  · apply IsCharacter.four <;> simp only [IsContinuation, UInt8.toNat_ofNat'] <;> omega

/-- The number of a character is put together from the octets that stand for it. -/
theorem exists_utf8EncodeChar_eq (h : IsCharacter bytes) :
    ∃ c, String.utf8EncodeChar c = bytes := by
  have hchar : ∀ n, n.isValidChar → ∃ c : Char, c.val.toNat = n := by
    intro n hn
    exact ⟨Char.ofNatAux n hn, rfl⟩
  -- the character is read off its octets, and encoding it gives each of them back
  cases h with
  | @one a ha =>
    obtain ⟨c, hvalue⟩ := hchar a.toNat (.inl (by omega))
    refine ⟨c, ?_⟩
    rw [String.utf8EncodeChar, hvalue, if_pos ha, UInt8.ofNat_toNat]
  | @two a b ha ha' hb =>
    obtain ⟨hb, hb'⟩ := hb
    obtain ⟨c, hvalue⟩ := hchar (64 * (a.toNat - 0xC0) + (b.toNat - 0x80)) (.inl (by omega))
    refine ⟨c, ?_⟩
    rw [String.utf8EncodeChar, hvalue, if_neg (by omega), if_pos (by omega)]
    simp only [List.cons.injEq, and_true, ← UInt8.toNat_inj, UInt8.toNat_ofNat']
    omega
  | @three a b c ha ha' hb hc hshortest hsurrogate =>
    obtain ⟨hb, hb'⟩ := hb
    obtain ⟨hc, hc'⟩ := hc
    obtain ⟨d, hvalue⟩ := hchar
      (4096 * (a.toNat - 0xE0) + 64 * (b.toNat - 0x80) + (c.toNat - 0x80))
      (by unfold Nat.isValidChar; omega)
    refine ⟨d, ?_⟩
    rw [String.utf8EncodeChar, hvalue, if_neg (by omega), if_neg (by omega), if_pos (by omega)]
    simp only [List.cons.injEq, and_true, ← UInt8.toNat_inj, UInt8.toNat_ofNat']
    omega
  | @four a b c d ha ha' hb hc hd hshortest hlast =>
    obtain ⟨hb, hb'⟩ := hb
    obtain ⟨hc, hc'⟩ := hc
    obtain ⟨hd, hd'⟩ := hd
    obtain ⟨e, hvalue⟩ := hchar
      (262144 * (a.toNat - 0xF0) + 4096 * (b.toNat - 0x80) + 64 * (c.toNat - 0x80) +
        (d.toNat - 0x80))
      (.inr (by omega))
    refine ⟨e, ?_⟩
    rw [String.utf8EncodeChar, hvalue, if_neg (by omega), if_neg (by omega), if_neg (by omega)]
    simp only [List.cons.injEq, and_true, ← UInt8.toNat_inj, UInt8.toNat_ofNat']
    omega

/-! ## Texts -/

theorem isUtf8_append_of_isCharacter {rest : Bytes} (h : IsCharacter bytes)
    (hrest : isUtf8 rest = true) : isUtf8 (bytes ++ rest) = true := by
  cases bytes with
  | nil => cases h
  | cons lead filling =>
    obtain ⟨places, hplaces, hfills⟩ := exists_fills_of_isCharacter h
    rw [List.cons_append, isUtf8_cons_iff]
    exact ⟨places, hplaces, (isUtf8From_iff _ _).mpr ⟨filling, rest, rfl, hfills, hrest⟩⟩

theorem isUtf8_flatMap (chars : List Char) :
    isUtf8 (chars.flatMap String.utf8EncodeChar) = true := by
  induction chars with
  | nil => rfl
  | cons c chars ih =>
    rw [List.flatMap_cons]
    exact isUtf8_append_of_isCharacter (isCharacter_utf8EncodeChar c) ih

theorem exists_flatMap_eq (h : isUtf8 bytes = true) :
    ∃ chars : List Char, chars.flatMap String.utf8EncodeChar = bytes := by
  induction hlength : bytes.length using Nat.strongRecOn generalizing bytes with
  | ind length ih =>
    cases bytes with
    | nil => exact ⟨[], rfl⟩
    | cons lead bytes =>
      obtain ⟨places, hplaces, hfrom⟩ := (isUtf8_cons_iff lead bytes).mp h
      obtain ⟨filling, rest, rfl, hfills, hrest⟩ := (isUtf8From_iff _ _).mp hfrom
      obtain ⟨c, hc⟩ := exists_utf8EncodeChar_eq (isCharacter_of_fills hplaces hfills)
      have hshorter : rest.length < length := by
        rw [← hlength, List.length_cons, List.length_append]
        omega
      obtain ⟨chars, hchars⟩ := ih rest.length hshorter hrest rfl
      refine ⟨c :: chars, ?_⟩
      rw [List.flatMap_cons, hc, hchars, List.cons_append]

/-- A byte string is UTF-8 if it encodes a text. -/
theorem isUtf8_iff (bytes : Bytes) : isUtf8 bytes = true ↔ IsText bytes := by
  constructor
  · intro h
    obtain ⟨chars, hchars⟩ := exists_flatMap_eq h
    exact ⟨String.ofList chars, (encode_ofList chars).trans hchars⟩
  · rintro ⟨text, rfl⟩
    rw [← String.ofList_toList (s := text), encode_ofList]
    exact isUtf8_flatMap text.toList

end TrustedKeyring.Text
