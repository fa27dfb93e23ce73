import Mathlib.Data.List.Nodup
import TrustedKeyring.Proofs.KeyStore.Earliest

/-!
# Searches for a full identifier

A key is asked for in full by the digits of its identifier, with zeros in front of a short one, and
added to a keyring if no member has the same octets.  The two tell keys apart alike, but for
identifiers of at most four octets that differ by zero octets in front (`full_search_unambiguous`).
-/

namespace TrustedKeyring.KeyStore

variable {store : KeyStore} {keyring first second : Handle}
  {description : String} {identifier other : Bytes}

def fullDescription (identifier : Bytes) : String :=
  "id:" ++ String.ofList (listedDigits identifier)

theorem listedDigits_eq_iff :
    listedDigits identifier = listedDigits other ↔ identifier.leftpad 4 0 = other.leftpad 4 0 := by
  rw [listedDigits_eq, listedDigits_eq]
  exact ⟨Hex.encode_injective, congrArg Hex.encode⟩

/-- Zero octets are put in front of short identifiers only. -/
theorem lengths_of_leftpad_eq (h : identifier.leftpad 4 0 = other.leftpad 4 0)
    (hother : identifier ≠ other) :
    identifier.length ≠ other.length ∧ identifier.length ≤ 4 ∧ other.length ≤ 4 := by
  have hlength := congrArg List.length h
  simp only [List.leftpad, List.length_append, List.length_replicate] at hlength
  have hdiffer : identifier.length ≠ other.length := by
    intro hsame
    rw [List.leftpad, List.leftpad, hsame] at h
    exact hother (List.append_cancel_left h)
  omega

theorem isMatch_full_iff :
    isMatch identifier description false = true ↔
      query? description = some (listedDigits identifier) := by
  unfold isMatch
  cases query? description with
  | none => simp
  | some query =>
    simp only [Bool.false_eq_true, if_false, beq_iff_eq, Option.some.injEq]
    exact eq_comm

theorem query?_fullDescription (identifier : Bytes) :
    query? (fullDescription identifier) = some (listedDigits identifier) := by
  rw [query?_eq_some_iff]
  refine ⟨_, rfl, ?_⟩
  rw [String.toList_ofList, listedDigits_eq, Hex.map_toLower_encode]

theorem isMatch_fullDescription_iff :
    isMatch other (fullDescription identifier) false = true ↔
      other.leftpad 4 0 = identifier.leftpad 4 0 := by
  rw [isMatch_full_iff, query?_fullDescription, Option.some.injEq, eq_comm, listedDigits_eq_iff]

theorem exists_identifier?_of_selects {byEnd : Bool}
    (h : store.selects description byEnd first = true) :
    ∃ identifier, store.identifier? first = some identifier ∧
      isMatch identifier description byEnd = true := by
  obtain ⟨identifier, hidentifier, hasks⟩ := (selects_iff store description byEnd first).mp h
  exact ⟨identifier, hidentifier, (isMatch_iff identifier description byEnd).mpr hasks⟩

/-- No two members of a keyring have the same identifier. -/
theorem Layout.eq_of_identifier?_eq (h : store.Layout) (hfirst : first ∈ store.memberList keyring)
    (hsecond : second ∈ store.memberList keyring)
    (hsame : store.identifier? first = store.identifier? second) : first = second := by
  have hmembers := members_of_isSome_keyringName? (isSome_keyringName?_of_mem hfirst)
  exact List.inj_on_of_nodup_map (h.distinct keyring _ hmembers) hfirst hsecond hsame

/-- Two members of a keyring that a description asks for in full are the same, or their identifiers
differ by zero octets in front. -/
theorem Layout.eq_or_padded (h : store.Layout) (hfirst : first ∈ store.memberList keyring)
    (hsecond : second ∈ store.memberList keyring)
    (hasked : store.selects description false first = true)
    (hasked' : store.selects description false second = true) :
    first = second ∨ ∃ identifier other,
      store.identifier? first = some identifier ∧ store.identifier? second = some other ∧
      identifier.length ≠ other.length ∧ identifier.length ≤ 4 ∧ other.length ≤ 4 ∧
      identifier.leftpad 4 0 = other.leftpad 4 0 := by
  obtain ⟨identifier, hidentifier, hmatch⟩ := exists_identifier?_of_selects hasked
  obtain ⟨other, hother, hmatch'⟩ := exists_identifier?_of_selects hasked'
  rw [isMatch_full_iff] at hmatch hmatch'
  have hlisted : listedDigits identifier = listedDigits other :=
    Option.some.inj (hmatch.symm.trans hmatch')
  by_cases hsame : identifier = other
  · rw [← hsame] at hother
    exact .inl (h.eq_of_identifier?_eq hfirst hsecond (hidentifier.trans hother.symm))
  · have hpadded := listedDigits_eq_iff.mp hlisted
    obtain ⟨hdiffer, hshort, hshort'⟩ := lengths_of_leftpad_eq hpadded hsame
    exact .inr ⟨identifier, other, hidentifier, hother, hdiffer, hshort, hshort', hpadded⟩

/-- A member is found by its full identifier if no earlier one is listed with the same digits. -/
theorem search_fullDescription {key : Handle} {earlier later : List Handle}
    (hmembers : store.memberList keyring = earlier ++ key :: later)
    (hidentifier : store.identifier? key = some identifier)
    (hearlier : ∀ member ∈ earlier, ∀ other, store.identifier? member = some other →
      other.leftpad 4 0 ≠ identifier.leftpad 4 0) :
    (store.search keyring .asymmetric (fullDescription identifier) false).1 = .ok key := by
  have hmember : key ∈ store.memberList keyring := by
    rw [hmembers]
    exact List.mem_append_right _ List.mem_cons_self
  rw [search_fst_eq_ok_iff, ← find?_selects_eq_some_iff]
  refine ⟨isSome_keyringName?_of_mem hmember, rfl, ?_⟩
  rw [List.find?_eq_some_iff_append]
  refine ⟨?_, earlier, later, hmembers, ?_⟩
  · rw [selects, hidentifier]
    exact isMatch_fullDescription_iff.mpr rfl
  · intro member hmember
    rw [Bool.not_eq_true', Bool.eq_false_iff]
    intro hselected
    obtain ⟨other, hother, hmatch⟩ := exists_identifier?_of_selects hselected
    exact hearlier member hmember other hother (isMatch_fullDescription_iff.mp hmatch)

/-- A description asks in full for at most one member of a keyring, apart from members whose
identifiers have at most four octets and differ by the number of zero octets in front alone.  Every
member is found by its full identifier, unless an earlier one is told from it by such zero octets
only. -/
theorem full_search_unambiguous (crypto : Crypto) (calls : List Call) (keyring : Handle)
    (description : String) :
    let store := after crypto {} calls
    let added := additions crypto keyring {} calls
    (∀ first ∈ added, ∀ second ∈ added,
      store.selects description false first = true →
      store.selects description false second = true →
        first = second ∨ ∃ identifier other,
          store.identifier? first = some identifier ∧ store.identifier? second = some other ∧
          identifier.length ≠ other.length ∧ identifier.length ≤ 4 ∧ other.length ≤ 4 ∧
          identifier.leftpad 4 0 = other.leftpad 4 0) ∧
    ∀ earlier key later identifier, added = earlier ++ key :: later →
      store.identifier? key = some identifier →
      (∀ member ∈ earlier, ∀ other, store.identifier? member = some other →
        other.leftpad 4 0 ≠ identifier.leftpad 4 0) →
      (store.search keyring .asymmetric (fullDescription identifier) false).1 = .ok key := by
  intro store added
  have hlayout : store.Layout := layout_of_steps (steps_after crypto {} calls) layout_empty
  have hadded : store.memberList keyring = added := memberList_after_empty crypto calls keyring
  rw [← hadded]
  constructor
  · intro first hfirst second hsecond hasked hasked'
    exact hlayout.eq_or_padded hfirst hsecond hasked hasked'
  · intro earlier key later identifier hmembers hidentifier hearlier
    exact search_fullDescription hmembers hidentifier hearlier

/-! ## Two keys under one description -/

namespace Padding

def short : Bytes := X509.bare [0xAB] Shadowing.firstKey

/-- The identifier of this certificate has the zero octets that the short one is listed with. -/
def long : Bytes := X509.bare [0x00, 0x00, 0x00, 0xAB] Shadowing.secondKey

def calls : List Call :=
  [.openKeyring ".five", .add ⟨1⟩ .asymmetric short, .add ⟨1⟩ .asymmetric long]

theorem identifiers_calls :
    additions Crypto.standard ⟨1⟩ {} calls = [⟨2⟩, ⟨3⟩] ∧
      (after Crypto.standard {} calls).identifier? ⟨2⟩ = some [0xAB] ∧
      (after Crypto.standard {} calls).identifier? ⟨3⟩ = some [0x00, 0x00, 0x00, 0xAB] := by
  decide +kernel

end Padding

open Padding in
/-- Both certificates are accepted, one description asks for both in full, and no description finds
the second one in full. -/
theorem full_search_ambiguous :
    let store := after Crypto.standard {} calls
    additions Crypto.standard ⟨1⟩ {} calls = [⟨2⟩, ⟨3⟩] ∧
      store.selects "id:000000ab" false ⟨2⟩ = true ∧
      store.selects "id:000000ab" false ⟨3⟩ = true ∧
      ∀ description, (store.search ⟨1⟩ .asymmetric description false).1 ≠ .ok ⟨3⟩ := by
  intro store
  obtain ⟨hadded, hshort, hlong⟩ := identifiers_calls
  change store.identifier? ⟨2⟩ = _ at hshort
  change store.identifier? ⟨3⟩ = _ at hlong
  refine ⟨hadded, ?_, ?_, ?_⟩
  · rw [selects, hshort]
    decide
  · rw [selects, hlong]
    decide
  · intro description hfound
    obtain ⟨-, -, hearliest⟩ := search_fst_eq_ok_iff.mp hfound
    rw [memberList_after_empty, hadded, ← find?_selects_eq_some_iff] at hearliest
    -- the earlier member is selected whenever the later one is
    have hselected := List.find?_some hearliest
    have hsame : store.selects description false ⟨2⟩ = store.selects description false ⟨3⟩ := by
      simp only [selects, hshort, hlong]
      rfl
    rw [List.find?_cons, hsame, hselected] at hearliest
    cases hearliest

open Padding in
/-- The two identifiers are padded alike, and the one that was added first is found. -/
theorem full_search_unambiguous_padded :
    let store := after Crypto.standard {} calls
    (∃ identifier other, store.identifier? ⟨2⟩ = some identifier ∧
      store.identifier? ⟨3⟩ = some other ∧ identifier.length ≠ other.length ∧
      identifier.leftpad 4 0 = other.leftpad 4 0) ∧
    (store.search ⟨1⟩ .asymmetric (fullDescription [0xAB]) false).1 = .ok ⟨2⟩ := by
  intro store
  obtain ⟨hadded, hshort, hlong⟩ := identifiers_calls
  have hfirst : store.selects "id:000000AB" false ⟨2⟩ = true := by
    rw [selects, hshort]
    decide
  have hsecond : store.selects "id:000000AB" false ⟨3⟩ = true := by
    rw [selects, hlong]
    decide
  obtain ⟨halike, hfound⟩ :=
    full_search_unambiguous Crypto.standard calls ⟨1⟩ "id:000000AB"
  rw [hadded] at halike hfound
  refine ⟨?_, hfound [] ⟨2⟩ [⟨3⟩] [0xAB] rfl hshort (by simp)⟩
  rcases halike ⟨2⟩ (by simp) ⟨3⟩ (by simp) hfirst hsecond with
    hsame | ⟨identifier, other, hidentifier, hother, hdiffer, -, -, hpadded⟩
  · cases hsame
  · exact ⟨identifier, other, hidentifier, hother, hdiffer, hpadded⟩

end TrustedKeyring.KeyStore
