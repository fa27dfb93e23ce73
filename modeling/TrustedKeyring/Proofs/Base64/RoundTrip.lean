import TrustedKeyring.Base64
import TrustedKeyring.Proofs.Key.Description

/-!
# Reading what was written in base 64

Written text is made of symbols, which are neither spaces nor marks of an end
(`isSymbol_of_mem_encode`).  It is read as the byte string that it writes, with space anywhere
(`decode?_of_filter_eq_encode`).
-/

namespace TrustedKeyring

namespace Base64

def IsSymbol (c : UInt8) : Prop :=
  (∃ value < 64, c = symbol value) ∨ c = padding

/-- Sixty-four values and padding: what is said of one octet is checked at each. -/
theorem IsSymbol.forall {p : UInt8 → Prop} (hsymbol : ∀ value : Fin 64, p (symbol value))
    (hpadding : p padding) {c : UInt8} (hc : IsSymbol c) : p c := by
  rcases hc with ⟨value, hvalue, rfl⟩ | rfl
  · exact hsymbol ⟨value, hvalue⟩
  · exact hpadding

theorem isSpace_of_isSymbol {c : UInt8} (hc : IsSymbol c) : isSpace c = false :=
  hc.forall (p := fun c => isSpace c = false) (by decide) (by decide)

theorem symbol_ne_marks (value : Fin 64) :
    isSpace (symbol value) = false ∧ symbol value ≠ terminator ∧ symbol value ≠ padding := by
  revert value
  decide

theorem value?_symbol (value : Fin 64) : value? (symbol value) = some value.val := by
  revert value
  decide

theorem scan_symbol {value : Nat} (hvalue : value < 64) (text : Bytes) :
    scan 0 (symbol value :: text) =
      (scan 0 text).map fun (values, paddings) => (value :: values, paddings) := by
  obtain ⟨hspace, hterminator, hpadding⟩ := symbol_ne_marks ⟨value, hvalue⟩
  have hsymbol := value?_symbol ⟨value, hvalue⟩
  simp only at hspace hterminator hpadding hsymbol
  simp [scan, hspace, hterminator, hpadding, hsymbol]

theorem scan_filter (paddings : Nat) (text : Bytes) :
    scan paddings text = scan paddings (text.filter fun c => !isSpace c) := by
  induction text generalizing paddings with
  | nil => rfl
  | cons c rest ih =>
    by_cases hc : isSpace c = true
    · rw [List.filter_cons_of_neg (by simp [hc]), ← ih, scan, if_pos hc]
    · rw [List.filter_cons_of_pos (by simp [hc]), scan, scan, ← ih, ← ih, ← ih]

/-- The number of a group of three octets takes four values. -/
theorem digits_lt (a b c : UInt8) :
    Bytes.toNat [a, b, c] / 64 / 64 / 64 < 64 ∧ Bytes.toNat [a, b, c] / 64 / 64 % 64 < 64 ∧
      Bytes.toNat [a, b, c] / 64 % 64 < 64 ∧ Bytes.toNat [a, b, c] % 64 < 64 := by
  have ha := a.toNat_lt
  have hb := b.toNat_lt
  have hc := c.toNat_lt
  simp only [Bytes.toNat, List.foldl_cons, List.foldl_nil]
  omega

/-- The four values of a group make up the number that they were taken from. -/
theorem octets_group (a b c : UInt8) (values : List Nat) :
    octets (Bytes.toNat [a, b, c] / 64 / 64 / 64 :: Bytes.toNat [a, b, c] / 64 / 64 % 64 ::
        Bytes.toNat [a, b, c] / 64 % 64 :: Bytes.toNat [a, b, c] % 64 :: values) =
      [a, b, c] ++ octets values := by
  have hnumber : ((Bytes.toNat [a, b, c] / 64 / 64 / 64 * 64 +
      Bytes.toNat [a, b, c] / 64 / 64 % 64) * 64 + Bytes.toNat [a, b, c] / 64 % 64) * 64 +
      Bytes.toNat [a, b, c] % 64 = Bytes.toNat [a, b, c] := by
    omega
  rw [octets, hnumber]
  exact congrArg (· ++ octets values) (Bytes.ofNat_toNat [a, b, c])

/-- A last group that lacks octets has zero values where there is padding. -/
theorem toNat_two_mod (a b : UInt8) : Bytes.toNat [a, b, 0] % 64 = 0 := by
  simp only [Bytes.toNat, List.foldl_cons, List.foldl_nil, UInt8.toNat_zero]
  omega

theorem toNat_one_mod (a : UInt8) :
    Bytes.toNat [a, 0, 0] / 64 % 64 = 0 ∧ Bytes.toNat [a, 0, 0] % 64 = 0 := by
  simp only [Bytes.toNat, List.foldl_cons, List.foldl_nil, UInt8.toNat_zero]
  omega

/-- Written text stands for whole groups, which are the byte string and a zero octet for each
padding. -/
theorem scan_encode (content : Bytes) :
    ∃ values paddings, scan 0 (encode content) = some (values, paddings) ∧
      values.length % 4 = 0 ∧ octets values = content ++ List.replicate paddings 0 := by
  induction content using encode.induct with
  | case1 a b c rest ih =>
    obtain ⟨values, paddings, hscan, hlength, hoctets⟩ := ih
    obtain ⟨hfirst, hsecond, hthird, hfourth⟩ := digits_lt a b c
    let n := Bytes.toNat [a, b, c]
    refine ⟨n / 64 / 64 / 64 :: n / 64 / 64 % 64 :: n / 64 % 64 :: n % 64 :: values, paddings,
      ?_, ?_, ?_⟩
    · rw [encode, scan_symbol hfirst, scan_symbol hsecond, scan_symbol hthird,
        scan_symbol hfourth, hscan]
      rfl
    · simp only [List.length_cons]
      omega
    · rw [octets_group, hoctets]
      rfl
  | case2 a b =>
    obtain ⟨hfirst, hsecond, hthird, -⟩ := digits_lt a b 0
    let n := Bytes.toNat [a, b, 0]
    refine ⟨[n / 64 / 64 / 64, n / 64 / 64 % 64, n / 64 % 64, n % 64], 1, ?_,
      Nat.mod_self 4, octets_group a b 0 []⟩
    -- the value that padding stands for is zero
    rw [encode, scan_symbol hfirst, scan_symbol hsecond, scan_symbol hthird,
      show n % 64 = 0 from toNat_two_mod a b]
    rfl
  | case3 a =>
    obtain ⟨hfirst, hsecond, -, -⟩ := digits_lt a 0 0
    obtain ⟨hthird, hfourth⟩ := toNat_one_mod a
    let n := Bytes.toNat [a, 0, 0]
    refine ⟨[n / 64 / 64 / 64, n / 64 / 64 % 64, n / 64 % 64, n % 64], 2, ?_,
      Nat.mod_self 4, octets_group a 0 0 []⟩
    rw [encode, scan_symbol hfirst, scan_symbol hsecond, show n / 64 % 64 = 0 from hthird,
      show n % 64 = 0 from hfourth]
    rfl
  | case4 => exact ⟨[], 0, rfl, rfl, rfl⟩

/-- Written text is read again, wherever space was put into it. -/
theorem decode?_of_filter_eq_encode {text content : Bytes}
    (htext : text.filter (fun c => !isSpace c) = encode content) :
    decode? text = some content := by
  obtain ⟨values, paddings, hscan, hlength, hoctets⟩ := scan_encode content
  rw [← htext, ← scan_filter] at hscan
  have hkept : (octets values).length - paddings = content.length := by
    rw [hoctets, List.length_append, List.length_replicate, Nat.add_sub_cancel]
  rw [decode?, hscan]
  simp only [hlength, if_true]
  rw [hkept, hoctets, List.take_left]

theorem isSymbol_of_mem_encode (content : Bytes) : ∀ c ∈ encode content, IsSymbol c := by
  induction content using encode.induct with
  | case1 a b d rest ih =>
    obtain ⟨hfirst, hsecond, hthird, hfourth⟩ := digits_lt a b d
    simp only [encode, List.forall_mem_cons]
    exact ⟨.inl ⟨_, hfirst, rfl⟩, .inl ⟨_, hsecond, rfl⟩, .inl ⟨_, hthird, rfl⟩,
      .inl ⟨_, hfourth, rfl⟩, ih⟩
  | case2 a b =>
    obtain ⟨hfirst, hsecond, hthird, -⟩ := digits_lt a b 0
    simp only [encode, List.forall_mem_cons]
    exact ⟨.inl ⟨_, hfirst, rfl⟩, .inl ⟨_, hsecond, rfl⟩, .inl ⟨_, hthird, rfl⟩, .inr rfl, nofun⟩
  | case3 a =>
    obtain ⟨hfirst, hsecond, -, -⟩ := digits_lt a 0 0
    simp only [encode, List.forall_mem_cons]
    exact ⟨.inl ⟨_, hfirst, rfl⟩, .inl ⟨_, hsecond, rfl⟩, .inr rfl, .inr rfl, nofun⟩
  | case4 => nofun

end Base64

end TrustedKeyring
