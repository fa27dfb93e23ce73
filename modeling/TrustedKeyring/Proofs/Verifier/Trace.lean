import TrustedKeyring.Proofs.Key.Description
import TrustedKeyring.Proofs.TrustAnchor.Trace
import TrustedKeyring.Verifier

/-!
# Traces of a verifier

What the operations of a verifier can come to: the calls with their answers, the outcome and the
anchor that is left, for every way in which each call can end.
-/

namespace TrustedKeyring

variable {anchor after : TrustAnchor}

abbrev KeyId.search (id : KeyId) (keyring : Handle) : Interaction :=
  .search keyring .asymmetric ("id:" ++ String.ofList (Hex.encode id.toBytes)) true

def unusableKey : List Errno :=
  [Errno.EACCES, Errno.ENOTDIR, Errno.EAGAIN, Errno.ENOKEY]

inductive SearchTrace (keyring : Handle) (id : KeyId) :
    List Exchange → Outcome Refusal Handle → Prop
  | found (key : Handle) : SearchTrace keyring id [⟨id.search keyring, .ok key⟩] (.ok key)
  | unusable {errno : Errno} (herrno : errno ∈ unusableKey) :
      SearchTrace keyring id [⟨id.search keyring, .error (.error errno)⟩] (.error (.error .noKey))
  | failed {errno : Errno} (herrno : errno ∉ unusableKey) :
      SearchTrace keyring id [⟨id.search keyring, .error (.error errno)⟩]
        (.error (.error (.searchFailed errno)))
  | panicked (message : String) :
      SearchTrace keyring id [⟨id.search keyring, .error (.panic message)⟩]
        (.error (.panic message))

theorem SearchTrace.exists_answer {keyring : Handle} {id : KeyId} {calls : List Exchange}
    {outcome : Outcome Refusal Handle} (h : SearchTrace keyring id calls outcome) :
    ∃ answer, calls = [⟨id.search keyring, answer⟩] := by
  cases h <;> exact ⟨_, rfl⟩

inductive FindTrace (verifier : Verifier) (id : KeyId) (anchor : TrustAnchor) :
    List Exchange → Outcome Refusal Handle → Prop
  | unset (hunset : anchor.binding = none) :
      FindTrace verifier id anchor [] (.error (.error .noKey))
  | refused {binding : Binding} {failure : Failure Refusal}
      (hbound : anchor.binding = some binding)
      (hanswer : Admission verifier.config.keyringName verifier.owner binding (.error failure)) :
      FindTrace verifier id anchor [] (.error failure)
  | searched {keyring : Handle} {calls : List Exchange} {outcome : Outcome Refusal Handle}
      (hbound : anchor.binding = some ⟨keyring, verifier.config.keyringName, verifier.owner⟩)
      (hsearch : SearchTrace keyring id calls outcome) :
      FindTrace verifier id anchor calls outcome

inductive CheckTrace (keyring : Handle) (certificate : Certificate) (digest : Bytes)
    (digestLength : Nat) : List Exchange → Outcome Refusal Int32 → Prop
  | unknownAlgorithm (hunknown : 20 ≤ certificate.header.hashNumber) :
      CheckTrace keyring certificate digest digestLength []
        (.error (.error (.unknownAlgorithm certificate.header.hashNumber)))
  | notFound {calls : List Exchange} {failure : Failure Refusal}
      (hknown : certificate.header.hashNumber < 20)
      (hsearch : SearchTrace keyring certificate.header.keyId calls (.error failure)) :
      CheckTrace keyring certificate digest digestLength calls (.error failure)
  | checked {calls : List Exchange} {key : Handle}
      (hknown : certificate.header.hashNumber < 20)
      (hsearch : SearchTrace keyring certificate.header.keyId calls (.ok key)) (code : Int32) :
      CheckTrace keyring certificate digest digestLength
        (calls ++ [⟨.check key ⟨digest, digestLength, none, []⟩ certificate certificate.header,
            .ok code⟩, ⟨.release key, ()⟩])
        (.ok code)
  | panicked {calls : List Exchange} {key : Handle}
      (hknown : certificate.header.hashNumber < 20)
      (hsearch : SearchTrace keyring certificate.header.keyId calls (.ok key))
      (message : String) :
      CheckTrace keyring certificate digest digestLength
        (calls ++ [⟨.check key ⟨digest, digestLength, none, []⟩ certificate certificate.header,
            .error (.panic message)⟩, ⟨.release key, ()⟩])
        (.error (.panic message))

/-- The ways in which a verification can go: it ends with a load that fails, or goes on with the
keyring that the load has given. -/
inductive VerifyTrace (verifier : Verifier) (certificate : Certificate) (digest : Bytes)
    (digestLength : Nat) (anchor : TrustAnchor) :
    List Exchange → Outcome Refusal Int32 → TrustAnchor → Prop
  | notLoaded {calls : List Exchange} {failure : Failure Refusal} {after : TrustAnchor}
      (hload : LoadTrace verifier.config.keyringName verifier.owner anchor calls
        (.error failure) after) :
      VerifyTrace verifier certificate digest digestLength anchor calls (.error failure) after
  | loaded {loads calls : List Exchange} {keyring : Handle} {outcome : Outcome Refusal Int32}
      {after : TrustAnchor}
      (hload : LoadTrace verifier.config.keyringName verifier.owner anchor loads
        (.ok keyring) after)
      (hcheck : CheckTrace keyring certificate digest digestLength calls outcome) :
      VerifyTrace verifier certificate digest digestLength anchor (loads ++ calls) outcome after

inductive ProvisionTrace (verifier : Verifier) (data : Bytes) (anchor : TrustAnchor) :
    List Exchange → Outcome Refusal Unit → Prop
  | unset (hunset : anchor.binding = none) :
      ProvisionTrace verifier data anchor []
        (.error (.error (.invalidArgument "trust anchor is not loaded")))
  | refused {binding : Binding} {failure : Failure Refusal}
      (hbound : anchor.binding = some binding)
      (hanswer : Admission verifier.config.keyringName verifier.owner binding (.error failure)) :
      ProvisionTrace verifier data anchor [] (.error failure)
  | empty {keyring : Handle}
      (hbound : anchor.binding = some ⟨keyring, verifier.config.keyringName, verifier.owner⟩)
      (hdata : data = []) :
      ProvisionTrace verifier data anchor []
        (.error (.error (.invalidArgument "empty certificate")))
  | added {keyring : Handle}
      (hbound : anchor.binding = some ⟨keyring, verifier.config.keyringName, verifier.owner⟩)
      (hdata : data ≠ []) (key : Handle) :
      ProvisionTrace verifier data anchor
        [⟨.add keyring .asymmetric data, .ok key⟩, ⟨.release key, ()⟩] (.ok ())
  | failed {keyring : Handle}
      (hbound : anchor.binding = some ⟨keyring, verifier.config.keyringName, verifier.owner⟩)
      (hdata : data ≠ []) (errno : Errno) :
      ProvisionTrace verifier data anchor
        [⟨.add keyring .asymmetric data, .error (.error errno)⟩]
        (.error (.error (.provisionFailed errno)))
  | panicked {keyring : Handle}
      (hbound : anchor.binding = some ⟨keyring, verifier.config.keyringName, verifier.owner⟩)
      (hdata : data ≠ []) (message : String) :
      ProvisionTrace verifier data anchor
        [⟨.add keyring .asymmetric data, .error (.panic message)⟩] (.error (.panic message))

/-- In an anchor that is bound for the verifier, finding a key is a search of the keyring. -/
theorem FindTrace.search_of_binding_eq {verifier : Verifier} {id : KeyId} {keyring : Handle}
    {calls : List Exchange} {outcome : Outcome Refusal Handle}
    (h : FindTrace verifier id anchor calls outcome)
    (hbound : anchor.binding = some ⟨keyring, verifier.config.keyringName, verifier.owner⟩) :
    SearchTrace keyring id calls outcome := by
  cases h with
  | unset hunset => rw [hunset] at hbound; cases hbound
  | refused hother hanswer =>
    rw [hother] at hbound
    cases hbound
    exact absurd hanswer not_admission_error
  | searched hother hsearch =>
    rw [hother] at hbound
    cases hbound
    exact hsearch

/-- In an anchor that is bound for the verifier, a verification only searches and checks. -/
theorem VerifyTrace.check_of_binding_eq {verifier : Verifier} {certificate : Certificate}
    {digest : Bytes} {digestLength : Nat} {keyring : Handle} {calls : List Exchange}
    {outcome : Outcome Refusal Int32}
    (h : VerifyTrace verifier certificate digest digestLength anchor calls outcome after)
    (hbound : anchor.binding = some ⟨keyring, verifier.config.keyringName, verifier.owner⟩) :
    CheckTrace keyring certificate digest digestLength calls outcome ∧ after = anchor := by
  cases h with
  | notLoaded hload =>
    rcases hload.of_bound hbound with ⟨-, hanswer, -⟩
    exact absurd hanswer not_admission_error
  | loaded hload hcheck =>
    rcases hload.of_bound hbound with ⟨rfl, hanswer, rfl⟩
    cases hanswer with
    | admitted => exact ⟨hcheck, rfl⟩

end TrustedKeyring
