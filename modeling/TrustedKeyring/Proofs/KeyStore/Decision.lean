import TrustedKeyring.KeyStore.Check
import TrustedKeyring.Proofs.KeyStore.Members
import TrustedKeyring.Proofs.TrustStore.Selection

/-!
# Decisions of a check

The rules by which a key store answers for a signature, in the order in which they apply.  A check
comes to a code exactly if the rules do, and zero stands for nothing but a signature that holds for
the declared part of the digest (`check_decides`).
-/

namespace TrustedKeyring

namespace HashAlgorithm

def checkable : List HashAlgorithm :=
  [md5, sha1, ripemd160, sha224, sha256, sha384, sha512]

theorem isCheckable_iff (algorithm : HashAlgorithm) :
    algorithm.isCheckable = true ↔ algorithm ∈ checkable := by
  cases algorithm <;> decide

end HashAlgorithm

theorem Header.algorithm?_eq_none_iff (header : Header) :
    header.algorithm? = none ↔ 20 ≤ header.hashNumber := by
  rw [algorithm?, ← Option.not_isSome_iff_eq_none, HashAlgorithm.ofByte?_isSome_iff,
    HashAlgorithm.isKnown, decide_eq_true_iff, UInt8.not_lt]
  rfl

namespace SignatureQuery

variable {query : SignatureQuery} {header : Header} {algorithm : HashAlgorithm}

/-- The algorithm of a query is its own, or else that of the header. -/
inductive Chooses (query : SignatureQuery) (header : Header) (algorithm : HashAlgorithm) : Prop
  | own (hquery : query.algorithm = some algorithm)
  | ofHeader (hquery : query.algorithm = none) (hheader : header.algorithm? = some algorithm)

def signatureOr (query : SignatureQuery) (certificate : Certificate) : Bytes :=
  if query.signature = [] then certificate.signature else query.signature

theorem or_eq_some_iff :
    query.algorithm.or header.algorithm? = some algorithm ↔ query.Chooses header algorithm := by
  rw [Option.or_eq_some_iff]
  constructor
  · rintro (hquery | ⟨hquery, hheader⟩)
    · exact .own hquery
    · exact .ofHeader hquery hheader
  · rintro (hquery | ⟨hquery, hheader⟩)
    · exact .inl hquery
    · exact .inr ⟨hquery, hheader⟩

theorem or_eq_none_iff :
    query.algorithm.or header.algorithm? = none ↔
      query.algorithm = none ∧ 20 ≤ header.hashNumber := by
  rw [Option.or_eq_none_iff, Header.algorithm?_eq_none_iff]

theorem declared?_of_le (hfits : query.digestSize ≤ query.digest.length) :
    query.declared? = some (query.digest.take query.digestSize) :=
  if_pos hfits

theorem declared?_of_lt (hshort : query.digest.length < query.digestSize) :
    query.declared? = none :=
  if_neg (Nat.not_le_of_lt hshort)

end SignatureQuery

namespace KeyStore

section Rules

variable {crypto : Crypto} {store : KeyStore} {handle : Handle} {query : SignatureQuery}
  {certificate : Certificate} {header : Header} {entry : Bytes × PublicKey}
  {algorithm : HashAlgorithm} {code : Int32}

/-- The code that a check comes to by the rules, each of which applies where those before it do
not. -/
inductive Ruling (crypto : Crypto) (store : KeyStore) (handle : Handle) (query : SignatureQuery)
    (certificate : Certificate) (header : Header) : Int32 → Prop
  | noKey (hnone : ∀ entry, ¬store.IsKey handle entry) :
      Ruling crypto store handle query certificate header Errno.ENOKEY.negated
  | noAlgorithm {entry : Bytes × PublicKey} (hkey : store.IsKey handle entry)
      (hquery : query.algorithm = none) (hheader : 20 ≤ header.hashNumber) :
      Ruling crypto store handle query certificate header Errno.ENOPKG.negated
  | unsupported {entry : Bytes × PublicKey} {algorithm : HashAlgorithm}
      (hkey : store.IsKey handle entry) (hchosen : query.Chooses header algorithm)
      (hother : algorithm ∉ HashAlgorithm.checkable) :
      Ruling crypto store handle query certificate header Errno.ENOPKG.negated
  | badLength {entry : Bytes × PublicKey} {algorithm : HashAlgorithm}
      (hkey : store.IsKey handle entry) (hchosen : query.Chooses header algorithm)
      (hcheckable : algorithm ∈ HashAlgorithm.checkable)
      (hlength : query.digest.length < query.digestSize ∨
        query.digestSize ≠ algorithm.digestSize) :
      Ruling crypto store handle query certificate header Errno.EBADMSG.negated
  | accepted {entry : Bytes × PublicKey} {algorithm : HashAlgorithm}
      (hkey : store.IsKey handle entry) (hchosen : query.Chooses header algorithm)
      (hcheckable : algorithm ∈ HashAlgorithm.checkable)
      (hfits : query.digestSize ≤ query.digest.length)
      (hsize : query.digestSize = algorithm.digestSize)
      (hverify : crypto.verify entry.2 algorithm (query.digest.take query.digestSize)
        (query.signatureOr certificate) = some true) :
      Ruling crypto store handle query certificate header 0
  | rejected {entry : Bytes × PublicKey} {algorithm : HashAlgorithm}
      (hkey : store.IsKey handle entry) (hchosen : query.Chooses header algorithm)
      (hcheckable : algorithm ∈ HashAlgorithm.checkable)
      (hfits : query.digestSize ≤ query.digest.length)
      (hsize : query.digestSize = algorithm.digestSize)
      (hverify : crypto.verify entry.2 algorithm (query.digest.take query.digestSize)
        (query.signatureOr certificate) ≠ some true) :
      Ruling crypto store handle query certificate header Errno.EKEYREJECTED.negated

theorem publicKey?_eq_none_iff :
    store.publicKey? handle = none ↔ ∀ entry, ¬store.IsKey handle entry := by
  constructor
  · intro hnone entry hkey
    rw [hkey.2] at hnone
    cases hnone
  · intro hnone
    unfold publicKey?
    split
    next identifier publicKey references hget =>
      exact absurd ⟨by rw [identifier?, hget], by rw [publicKey?, hget]⟩
        (hnone (identifier, publicKey))
    next => rfl

/-! ## The rules of a check -/

/-- The rules after those for the key and the algorithm. -/
theorem check_of_chooses (hkey : store.IsKey handle entry)
    (hchosen : query.Chooses header algorithm) :
    store.check crypto handle query certificate header =
      if algorithm ∈ HashAlgorithm.checkable then
        match query.declared? with
        | none => Errno.EBADMSG.negated
        | some digest =>
          if digest.length = algorithm.digestSize then
            if crypto.verify entry.2 algorithm digest (query.signatureOr certificate) = some true
            then 0
            else Errno.EKEYREJECTED.negated
          else Errno.EBADMSG.negated
      else Errno.ENOPKG.negated := by
  have hsignature : (if query.signature.isEmpty then certificate.signature else query.signature) =
      query.signatureOr certificate := by
    simp only [SignatureQuery.signatureOr, List.isEmpty_iff]
  simp only [check, hkey.2, SignatureQuery.or_eq_some_iff.mpr hchosen, hsignature,
    ← HashAlgorithm.isCheckable_iff, Bool.not_eq_true', ite_not, ne_eq]
  cases algorithm.isCheckable <;> rfl

/-- A digest is checked only if its declared part has the algorithm's size. -/
theorem check_of_fits (hkey : store.IsKey handle entry)
    (hchosen : query.Chooses header algorithm) (hcheckable : algorithm ∈ HashAlgorithm.checkable)
    (hfits : query.digestSize ≤ query.digest.length) :
    store.check crypto handle query certificate header =
      if query.digestSize = algorithm.digestSize then
        if crypto.verify entry.2 algorithm (query.digest.take query.digestSize)
          (query.signatureOr certificate) = some true
        then 0
        else Errno.EKEYREJECTED.negated
      else Errno.EBADMSG.negated := by
  have hlength : (query.digest.take query.digestSize).length = query.digestSize :=
    List.length_take_of_le hfits
  rw [check_of_chooses hkey hchosen, if_pos hcheckable, SignatureQuery.declared?_of_le hfits]
  simp only [hlength]

theorem Ruling.check_eq (h : Ruling crypto store handle query certificate header code) :
    store.check crypto handle query certificate header = code := by
  cases h with
  | noKey hnone => rw [check, publicKey?_eq_none_iff.mpr hnone]
  | noAlgorithm hkey hquery hheader =>
    rw [check, hkey.2, SignatureQuery.or_eq_none_iff.mpr ⟨hquery, hheader⟩]
  | unsupported hkey hchosen hother =>
    rw [check_of_chooses hkey hchosen, if_neg hother]
  | badLength hkey hchosen hcheckable hlength =>
    rcases Nat.lt_or_ge query.digest.length query.digestSize with hshort | hfits
    · rw [check_of_chooses hkey hchosen, if_pos hcheckable,
        SignatureQuery.declared?_of_lt hshort]
    · have hsize := hlength.resolve_left (Nat.not_lt_of_le hfits)
      rw [check_of_fits hkey hchosen hcheckable hfits, if_neg hsize]
  | accepted hkey hchosen hcheckable hfits hsize hverify =>
    rw [check_of_fits hkey hchosen hcheckable hfits, if_pos hsize, if_pos hverify]
  | rejected hkey hchosen hcheckable hfits hsize hverify =>
    rw [check_of_fits hkey hchosen hcheckable hfits, if_pos hsize, if_neg hverify]

/-- One of the rules applies to every check. -/
theorem exists_ruling (crypto : Crypto) (store : KeyStore) (handle : Handle)
    (query : SignatureQuery) (certificate : Certificate) (header : Header) :
    ∃ code, Ruling crypto store handle query certificate header code := by
  by_cases hkey : ∃ entry, store.IsKey handle entry
  · obtain ⟨entry, hkey⟩ := hkey
    cases hchosen : query.algorithm.or header.algorithm? with
    | none =>
      obtain ⟨hquery, hheader⟩ := SignatureQuery.or_eq_none_iff.mp hchosen
      exact ⟨_, .noAlgorithm hkey hquery hheader⟩
    | some algorithm =>
      have hchosen := SignatureQuery.or_eq_some_iff.mp hchosen
      by_cases hcheckable : algorithm ∈ HashAlgorithm.checkable
      · by_cases hlength : query.digest.length < query.digestSize ∨
            query.digestSize ≠ algorithm.digestSize
        · exact ⟨_, .badLength hkey hchosen hcheckable hlength⟩
        · obtain ⟨hfits, hsize⟩ := not_or.mp hlength
          have hfits := Nat.le_of_not_lt hfits
          have hsize := Decidable.of_not_not hsize
          by_cases hverify : crypto.verify entry.2 algorithm (query.digest.take query.digestSize)
              (query.signatureOr certificate) = some true
          · exact ⟨_, .accepted hkey hchosen hcheckable hfits hsize hverify⟩
          · exact ⟨_, .rejected hkey hchosen hcheckable hfits hsize hverify⟩
      · exact ⟨_, .unsupported hkey hchosen hcheckable⟩
  · exact ⟨_, .noKey (not_exists.mp hkey)⟩

/-- A check comes to the code of the rule that applies. -/
theorem check_eq_iff :
    store.check crypto handle query certificate header = code ↔
      Ruling crypto store handle query certificate header code := by
  constructor
  · rintro rfl
    obtain ⟨code, hruling⟩ := exists_ruling crypto store handle query certificate header
    rw [hruling.check_eq]
    exact hruling
  · exact Ruling.check_eq

/-- Whether a signature holds: the store has the key, the algorithm is one that signatures are
checked with, the declared part of the digest has its size, and the check of this part says so. -/
def Accepts (crypto : Crypto) (store : KeyStore) (handle : Handle) (query : SignatureQuery)
    (certificate : Certificate) (header : Header) : Prop :=
  ∃ entry algorithm, store.IsKey handle entry ∧ query.Chooses header algorithm ∧
    algorithm ∈ HashAlgorithm.checkable ∧ query.digestSize ≤ query.digest.length ∧
    query.digestSize = algorithm.digestSize ∧
    crypto.verify entry.2 algorithm (query.digest.take query.digestSize)
      (query.signatureOr certificate) = some true

theorem ruling_zero_iff :
    Ruling crypto store handle query certificate header 0 ↔
      Accepts crypto store handle query certificate header := by
  constructor
  · intro h
    -- no error number is zero
    generalize hcode : (0 : Int32) = code at h
    cases h with
    | accepted hkey hchosen hcheckable hfits hsize hverify =>
      exact ⟨_, _, hkey, hchosen, hcheckable, hfits, hsize, hverify⟩
    | noKey => exact absurd hcode (by decide)
    | noAlgorithm => exact absurd hcode (by decide)
    | unsupported => exact absurd hcode (by decide)
    | badLength => exact absurd hcode (by decide)
    | rejected => exact absurd hcode (by decide)
  · rintro ⟨entry, algorithm, hkey, hchosen, hcheckable, hfits, hsize, hverify⟩
    exact .accepted hkey hchosen hcheckable hfits hsize hverify

/-- What a check reads of its arguments: the chosen algorithm, the declared part of the digest and
the signature that is checked. -/
theorem check_congr {other : SignatureQuery} {otherCertificate : Certificate}
    {otherHeader : Header}
    (halgorithm : other.algorithm.or otherHeader.algorithm? =
      query.algorithm.or header.algorithm?)
    (hdeclared : other.declared? = query.declared?)
    (hsignature : other.signatureOr otherCertificate = query.signatureOr certificate) :
    store.check crypto handle other otherCertificate otherHeader =
      store.check crypto handle query certificate header := by
  simp only [SignatureQuery.signatureOr, ← List.isEmpty_iff] at hsignature
  simp only [check, halgorithm, hdeclared, hsignature]

theorem check_eq_of_take_eq {digest : Bytes} (hfits : query.digestSize ≤ query.digest.length)
    (hfits' : query.digestSize ≤ digest.length)
    (hsame : digest.take query.digestSize = query.digest.take query.digestSize) :
    store.check crypto handle { query with digest := digest } certificate header =
      store.check crypto handle query certificate header := by
  have hdeclared : SignatureQuery.declared? { query with digest := digest } = query.declared? := by
    rw [SignatureQuery.declared?_of_le hfits, ← hsame]
    exact SignatureQuery.declared?_of_le hfits'
  exact check_congr rfl hdeclared rfl

theorem check_eq_of_header {other : Header}
    (h : query.algorithm.isSome ∨ other.hashNumber = header.hashNumber) :
    store.check crypto handle query certificate other =
      store.check crypto handle query certificate header := by
  refine check_congr ?_ rfl rfl
  rcases h with hown | hnumber
  · rw [Option.or_of_isSome hown, Option.or_of_isSome hown]
  · rw [Header.algorithm?, Header.algorithm?, hnumber]

theorem check_eq_of_certificate {other : Certificate}
    (h : query.signature ≠ [] ∨ other.signature = certificate.signature) :
    store.check crypto handle query other header =
      store.check crypto handle query certificate header := by
  refine check_congr rfl rfl ?_
  rw [SignatureQuery.signatureOr, SignatureQuery.signatureOr]
  rcases h with hown | hsignature
  · rw [if_neg hown, if_neg hown]
  · rw [hsignature]

end Rules

/-- How a key store answers for a signature, in every state.  It always answers, and is the same
afterwards; the code is that of the first rule that applies, and zero exactly for a signature that
holds.  Octets of the digest after the declared ones make no difference, nor does a header beside
an algorithm of the query's own, nor a certificate beside its own signature; nothing else of the
header or of the certificate ever does. -/
theorem check_decides (crypto : Crypto) (store : KeyStore) (handle : Handle)
    (query : SignatureQuery) (certificate : Certificate) (header : Header) :
    let answer query certificate header :=
      (primitive crypto).check handle query certificate header store
    (∃ code, answer query certificate header = (.ok code, store)) ∧
    (∀ code, answer query certificate header = (.ok code, store) ↔
      Ruling crypto store handle query certificate header code) ∧
    (answer query certificate header = (.ok 0, store) ↔
      Accepts crypto store handle query certificate header) ∧
    (∀ digest : Bytes, query.digestSize ≤ query.digest.length →
      query.digestSize ≤ digest.length →
      digest.take query.digestSize = query.digest.take query.digestSize →
      answer { query with digest := digest } certificate header =
        answer query certificate header) ∧
    (∀ other : Header, query.algorithm.isSome ∨ other.hashNumber = header.hashNumber →
      answer query certificate other = answer query certificate header) ∧
    ∀ other : Certificate, query.signature ≠ [] ∨ other.signature = certificate.signature →
      answer query other header = answer query certificate header := by
  intro answer
  have hiff : ∀ code, answer query certificate header = (.ok code, store) ↔
      Ruling crypto store handle query certificate header code := by
    intro code
    rw [← check_eq_iff]
    simp [answer, primitive]
  -- answers are the same if their codes are
  have hsame : ∀ other otherCertificate otherHeader,
      store.check crypto handle other otherCertificate otherHeader =
        store.check crypto handle query certificate header →
      answer other otherCertificate otherHeader = answer query certificate header := by
    intro other otherCertificate otherHeader hcode
    simp only [answer, primitive, hcode]
  refine ⟨⟨_, rfl⟩, hiff, (hiff 0).trans ruling_zero_iff, ?_, ?_, ?_⟩
  · intro digest hfits hfits' hprefix
    exact hsame _ _ _ (check_eq_of_take_eq hfits hfits' hprefix)
  · intro other hother
    exact hsame _ _ _ (check_eq_of_header hother)
  · intro other hother
    exact hsame _ _ _ (check_eq_of_certificate hother)

open Shadowing in
/-- A signature of the query's own holds, whatever follows the digest, with an unknown algorithm in
the header and an empty certificate. -/
theorem check_decides_trailing :
    let store := after Crypto.standard {} [.openKeyring ".five", .add ⟨1⟩ .asymmetric second]
    let query : SignatureQuery := ⟨digest, 32, some .sha256, certificate.signature⟩
    let trailing : SignatureQuery := ⟨digest ++ [0xFF], 32, some .sha256, certificate.signature⟩
    Accepts Crypto.standard store ⟨2⟩ query certificate certificate.header ∧
      (primitive Crypto.standard).check ⟨2⟩ trailing {} { hashNumber := 20 } store =
        (.ok 0, store) ∧
      Ruling Crypto.standard store ⟨1⟩ query certificate certificate.header (-126) := by
  intro store query trailing
  have hkey : store.IsKey ⟨2⟩ ([0x02, 0x0B, 0xAD, 0xCA, 0xFE], secondKey) :=
    ⟨by decide +kernel, by decide +kernel⟩
  have hwhole : query.digest.take query.digestSize = digest := by decide +kernel
  have hsignature : query.signatureOr certificate = certificate.signature := ite_self _
  have haccepts : Accepts Crypto.standard store ⟨2⟩ query certificate certificate.header := by
    refine ⟨_, .sha256, hkey, .own rfl, by decide, by decide, rfl, ?_⟩
    rw [hwhole, hsignature]
    exact verify_secondKey
  obtain ⟨-, -, hzero, htail, -, -⟩ :=
    check_decides Crypto.standard store ⟨2⟩ query certificate certificate.header
  obtain ⟨-, -, -, -, hheader, -⟩ :=
    check_decides Crypto.standard store ⟨2⟩ trailing certificate certificate.header
  obtain ⟨-, -, -, -, -, hcertificate⟩ :=
    check_decides Crypto.standard store ⟨2⟩ trailing certificate { hashNumber := 20 }
  obtain ⟨-, hruling, -⟩ :=
    check_decides Crypto.standard store ⟨1⟩ query certificate certificate.header
  have hsame := htail (digest ++ [0xFF]) (by decide) (by decide) (by decide)
  have hunknown := hheader { hashNumber := 20 } (.inl rfl)
  have hempty := hcertificate {} (.inl (by decide +kernel))
  refine ⟨haccepts, ?_, (hruling _).mp (by decide +kernel)⟩
  exact hempty.trans (hunknown.trans (hsame.trans (hzero.mpr haccepts)))

end KeyStore

end TrustedKeyring
