import TrustedKeyring.Proofs.TrustStore.Requests
import TrustedKeyring.Proofs.TrustStore.Selection

/-!
# Order of provisioning

Certificates whose keys have different short identifiers can be added in any order: each is accepted
or refused alike, and digests are verified alike afterwards (`provisioning_order_irrelevant`).  The
entries of a keyring are then told by the certificates that were added (`Collects.of_provisioning`),
and a search by a short identifier comes to the only entry that has it.
-/

namespace TrustedKeyring

open TrustStore (Answer Call)

variable {crypto : Crypto} {accepted others : Accepted} {entry : Bytes × PublicKey} {data : Bytes}
  {payloads : List Bytes}

def StoreRequest.added? : StoreRequest → Option Bytes
  | .addCertificate data => some data
  | .verify _ _ _ => none

def additions (requests : List StoreRequest) : List Bytes :=
  requests.filterMap StoreRequest.added?

def Crypto.publishedId? (crypto : Crypto) (data : Bytes) : Option KeyId :=
  (Accepted.entry? crypto data).map fun entry => shortKeyId entry.1

/-- Whether different certificates with usable keys have different short identifiers.  A certificate
may be listed more than once. -/
def Distinct (crypto : Crypto) (payloads : List Bytes) : Prop :=
  ∀ data ∈ payloads, ∀ other ∈ payloads, (crypto.publishedId? data).isSome →
    crypto.publishedId? data = crypto.publishedId? other → data = other

instance (crypto : Crypto) (payloads : List Bytes) : Decidable (Distinct crypto payloads) :=
  inferInstanceAs (Decidable (∀ data ∈ payloads, ∀ other ∈ payloads,
    (crypto.publishedId? data).isSome →
      crypto.publishedId? data = crypto.publishedId? other → data = other))

/-- Of the answers to one request after the other, those to the same request, in order. -/
def answersTo {ρ α : Type} [DecidableEq ρ] (request : ρ) (requests : List ρ) (answers : List α) :
    List α :=
  (requests.zip answers).filterMap fun asked => if asked.1 = request then some asked.2 else none

theorem answersTo_cons {ρ α : Type} [DecidableEq ρ] (request first : ρ) (requests : List ρ)
    (answer : α) (answers : List α) :
    answersTo request (first :: requests) (answer :: answers) =
      (if first = request then [answer] else []) ++ answersTo request requests answers := by
  unfold answersTo
  by_cases hfirst : first = request
  · simp [hfirst]
  · simp [hfirst]

theorem additions_addCertificate (data : Bytes) (requests : List StoreRequest) :
    additions (.addCertificate data :: requests) = data :: additions requests := rfl

theorem Distinct.perm {payloads' : List Bytes} (h : Distinct crypto payloads)
    (hperm : payloads.Perm payloads') : Distinct crypto payloads' := by
  intro data hdata other hother
  exact h data (hperm.mem_iff.mpr hdata) other (hperm.mem_iff.mpr hother)

theorem Distinct.left {later : List Bytes} (h : Distinct crypto (payloads ++ later)) :
    Distinct crypto payloads := by
  intro data hdata other hother
  exact h data (List.mem_append_left _ hdata) other (List.mem_append_left _ hother)

/-! ## Entries of the certificates that were added -/

namespace Accepted

def Collects (crypto : Crypto) (accepted : Accepted) (payloads : List Bytes) : Prop :=
  ∀ entry, entry ∈ accepted ↔
    ∃ data ∈ payloads, data ≠ [] ∧ entry? crypto data = some entry

theorem collects_nil (crypto : Crypto) : Collects crypto [] [] := by
  intro entry
  simp

theorem publishedId?_eq_some (h : entry? crypto data = some entry) :
    crypto.publishedId? data = some (Crypto.shortKeyId entry.1) := by
  rw [Crypto.publishedId?, h, Option.map_some]

/-- An identifier that is there is the one of this very certificate. -/
theorem Collects.mem_of_identifier (h : Collects crypto accepted payloads)
    (hdistinct : Distinct crypto (payloads ++ [data])) (hentry : entry? crypto data = some entry)
    (hpresent : (accepted.any fun old => old.1 == entry.1) = true) : data ∈ payloads := by
  obtain ⟨old, hold, hsame⟩ := List.any_eq_true.mp hpresent
  obtain ⟨other, hother, -, hentry'⟩ := (h old).mp hold
  have hid : crypto.publishedId? other = crypto.publishedId? data := by
    rw [publishedId?_eq_some hentry', publishedId?_eq_some hentry, eq_of_beq hsame]
  have hsome : (crypto.publishedId? other).isSome := by
    rw [publishedId?_eq_some hentry']
    rfl
  have heq := hdistinct other (List.mem_append_left _ hother) data
    (List.mem_append_right _ List.mem_cons_self) hsome hid
  rw [← heq]
  exact hother

theorem Collects.any_identifier_iff (h : Collects crypto accepted payloads)
    (hdistinct : Distinct crypto (payloads ++ [data])) (hdata : data ≠ [])
    (hentry : entry? crypto data = some entry) :
    (accepted.any fun old => old.1 == entry.1) = true ↔ data ∈ payloads := by
  constructor
  · exact h.mem_of_identifier hdistinct hentry
  · intro hlisted
    have hold : entry ∈ accepted := (h entry).mpr ⟨data, hlisted, hdata, hentry⟩
    exact List.any_eq_true.mpr ⟨entry, hold, beq_self_eq_true _⟩

def addition (crypto : Crypto) (data : Bytes) (isRepeated : Bool) : Outcome Refusal Answer :=
  let before := if isRepeated then (KeyStore.provisioning crypto [] data).2 else []
  (KeyStore.provisioning crypto before data).1.map fun _ => .added

/-- An addition depends on what was added before only by whether this certificate was. -/
theorem Collects.provisioning_eq (h : Collects crypto accepted payloads)
    (hdistinct : Distinct crypto (payloads ++ [data])) :
    (KeyStore.provisioning crypto accepted data).1.map (fun _ => Answer.added) =
      addition crypto data (decide (data ∈ payloads)) := by
  unfold addition KeyStore.provisioning
  by_cases hdata : data = []
  · simp only [if_pos hdata]
  · simp only [if_neg hdata, material?_eq]
    cases hentry : entry? crypto data with
    | none => rfl
    | some entry =>
      have hpresent := h.any_identifier_iff hdistinct hdata hentry
      by_cases hlisted : data ∈ payloads
      · simp [hpresent.mpr hlisted, hlisted]
      · have habsent : (accepted.any fun old => old.1 == entry.1) = false := by
          rw [← Bool.not_eq_true, hpresent]
          exact hlisted
        simp [habsent, hlisted]

/-- Whatever an addition comes to, the entries are those of what was added before and of this. -/
theorem Collects.of_provisioning (h : Collects crypto accepted payloads)
    (hdistinct : Distinct crypto (payloads ++ [data])) :
    Collects crypto (KeyStore.provisioning crypto accepted data).2 (payloads ++ [data]) := by
  intro found
  have hlast : (∃ other ∈ payloads ++ [data], other ≠ [] ∧ entry? crypto other = some found) ↔
      found ∈ accepted ∨ data ≠ [] ∧ entry? crypto data = some found := by
    simp only [List.mem_append, List.mem_singleton, or_and_right, exists_or, exists_eq_left,
      h found]
  rw [hlast, KeyStore.provisioning, material?_eq]
  by_cases hdata : data = []
  · simp [hdata]
  · rw [if_neg hdata]
    cases hentry : entry? crypto data with
    | none => simp
    | some entry =>
      have hpresent := h.any_identifier_iff hdistinct hdata hentry
      by_cases hlisted : data ∈ payloads
      · -- the certificate was added before, and so its entry is there
        have hold : entry ∈ accepted := (h entry).mpr ⟨data, hlisted, hdata, hentry⟩
        simp only [hpresent.mpr hlisted, if_true, Option.some.injEq]
        constructor
        · exact .inl
        · rintro (hfound | ⟨-, rfl⟩)
          · exact hfound
          · exact hold
      · have habsent : (accepted.any fun old => old.1 == entry.1) = false := by
          rw [← Bool.not_eq_true, hpresent]
          exact hlisted
        simp [habsent, hdata, eq_comm]

/-! ## Searches -/

/-- No two of the entries have the same short identifier. -/
theorem Collects.eq_of_shortKeyId (h : Collects crypto accepted payloads)
    (hdistinct : Distinct crypto payloads) {first second : Bytes × PublicKey}
    (hfirst : first ∈ accepted) (hsecond : second ∈ accepted)
    (hsame : Crypto.shortKeyId first.1 = Crypto.shortKeyId second.1) : first = second := by
  obtain ⟨data, hdata, -, hentry⟩ := (h first).mp hfirst
  obtain ⟨other, hother, -, hentry'⟩ := (h second).mp hsecond
  have hid : crypto.publishedId? data = crypto.publishedId? other := by
    rw [publishedId?_eq_some hentry, publishedId?_eq_some hentry', hsame]
  have hsome : (crypto.publishedId? data).isSome := by
    rw [publishedId?_eq_some hentry]
    rfl
  have heq := hdistinct data hdata other hother hsome hid
  rw [heq, hentry'] at hentry
  exact (Option.some.inj hentry).symm

/-- A search comes to the only entry with the short identifier. -/
theorem Collects.published?_eq_some_iff (h : Collects crypto accepted payloads)
    (hdistinct : Distinct crypto payloads) (id : KeyId) (entry : Bytes × PublicKey) :
    KeyStore.published? accepted id = some entry ↔
      entry ∈ accepted ∧ Crypto.shortKeyId entry.1 = id := by
  constructor
  · intro hfound
    have hmatch := List.find?_some hfound
    exact ⟨List.mem_of_find?_eq_some hfound, of_decide_eq_true hmatch⟩
  · rintro ⟨hentry, hid⟩
    cases hfound : KeyStore.published? accepted id with
    | none => exact absurd hid (KeyStore.ne_of_published?_eq_none hfound entry hentry)
    | some first =>
      have hmatch := List.find?_some hfound
      have hsame : Crypto.shortKeyId first.1 = Crypto.shortKeyId entry.1 :=
        (of_decide_eq_true hmatch).trans hid.symm
      rw [h.eq_of_shortKeyId hdistinct (List.mem_of_find?_eq_some hfound) hentry hsame]

/-- The order in which certificates were added cannot be told by a search. -/
theorem Collects.published?_eq {payloads' : List Bytes} (h : Collects crypto accepted payloads)
    (h' : Collects crypto others payloads') (hdistinct : Distinct crypto payloads)
    (hperm : payloads.Perm payloads') (id : KeyId) :
    KeyStore.published? accepted id = KeyStore.published? others id := by
  have hmem : ∀ entry, entry ∈ accepted ↔ entry ∈ others := by
    intro entry
    rw [h entry, h' entry]
    simp only [hperm.mem_iff]
  ext entry
  rw [h.published?_eq_some_iff hdistinct, h'.published?_eq_some_iff (hdistinct.perm hperm), hmem]

end Accepted

/-! ## Requests -/

namespace TrustStore

variable {store : TrustStore} {requests : List StoreRequest}

/-- Verifications add nothing, and certificates are added as listed. -/
theorem represents_after (h : store.Represents accepted)
    (hcollects : Accepted.Collects crypto accepted payloads)
    (hdistinct : Distinct crypto (payloads ++ additions requests)) :
    ∃ last, (store.after crypto requests).Represents last ∧
      Accepted.Collects crypto last (payloads ++ additions requests) := by
  induction requests generalizing store accepted payloads with
  | nil => exact ⟨accepted, h, by rwa [additions, List.filterMap_nil, List.append_nil]⟩
  | cons request requests ih =>
    cases request with
    | verify certificate digest digestLength =>
      exact ih (serve_verify h crypto certificate digest digestLength).2 hcollects hdistinct
    | addCertificate data =>
      have hnext := (serve_addCertificate h crypto data).2
      rw [additions_addCertificate, List.append_cons] at hdistinct ⊢
      exact ih hnext (hcollects.of_provisioning hdistinct.left) hdistinct

def repeatedAdditions (crypto : Crypto) (data : Bytes) : Bool → Nat → List (Outcome Refusal Answer)
  | _, 0 => []
  | isRepeated, count + 1 =>
    Accepted.addition crypto data isRepeated :: repeatedAdditions crypto data true count

/-- The replies to a certificate are told by how often it is added, and whether it was before. -/
theorem answersTo_replies (h : store.Represents accepted)
    (hcollects : Accepted.Collects crypto accepted payloads)
    (hdistinct : Distinct crypto (payloads ++ additions requests)) (data : Bytes) :
    answersTo (.addCertificate data) requests (store.replies crypto requests) =
      repeatedAdditions crypto data (decide (data ∈ payloads))
        ((additions requests).count data) := by
  induction requests generalizing store accepted payloads with
  | nil => rfl
  | cons request requests ih =>
    rw [replies, answersTo_cons]
    cases request with
    | verify certificate digest digestLength =>
      have hnext := (serve_verify h crypto certificate digest digestLength).2
      rw [if_neg (by simp), List.nil_append, ih hnext hcollects hdistinct]
      rfl
    | addCertificate other =>
      obtain ⟨hreply, hnext⟩ := serve_addCertificate h crypto other
      rw [additions_addCertificate, List.append_cons] at hdistinct
      rw [additions_addCertificate, hreply, hcollects.provisioning_eq hdistinct.left,
        ih hnext (hcollects.of_provisioning hdistinct.left) hdistinct]
      by_cases hother : other = data
      · subst hother
        simp [repeatedAdditions]
      · simp [hother, Ne.symm hother]

/-- The answers of a host to a certificate are the replies to it. -/
theorem answersTo_addCertificate (data : Bytes) (calls : List Call)
    (replies : List (Outcome Refusal Answer)) :
    answersTo (.addCertificate data) calls (replies.map outcome) =
      (answersTo (.addCertificate data) (calls.map Call.request) replies).map outcome := by
  induction calls generalizing replies with
  | nil => rfl
  | cons call calls ih =>
    cases replies with
    | nil => rfl
    | cons reply replies =>
      have hrequest : Call.request call = .addCertificate data ↔ call = .addCertificate data := by
        cases call with
        | addCertificate other => simp [Call.request]
        | verify certificate digest => simp [Call.request]
      simp only [List.map_cons, answersTo_cons, List.map_append, ih, hrequest]
      by_cases hcall : call = .addCertificate data
      · simp [hcall]
      · simp [hcall]

variable {others : TrustStore} {requests' : List StoreRequest} {payloads' : List Bytes}

/-- Fresh stores reply to each certificate alike, whatever the order. -/
theorem Fresh.answersTo_eq (h : store.Fresh crypto) (h' : others.Fresh crypto)
    (hdistinct : Distinct crypto (additions requests))
    (hperm : (additions requests).Perm (additions requests')) (data : Bytes) :
    answersTo (.addCertificate data) requests (store.replies crypto requests) =
      answersTo (.addCertificate data) requests' (others.replies crypto requests') := by
  have hnone := Accepted.collects_nil crypto
  rw [answersTo_replies h.represents hnone hdistinct,
    answersTo_replies h'.represents hnone (hdistinct.perm hperm), hperm.count_eq]

/-- Once the same certificates were added to them, fresh stores verify alike. -/
theorem Fresh.verification_eq (h : store.Fresh crypto) (h' : others.Fresh crypto)
    (hdistinct : Distinct crypto (additions requests))
    (hperm : (additions requests).Perm (additions requests')) (certificate : Certificate)
    (digest : Bytes) (digestLength : Nat) :
    ((store.after crypto requests).serve crypto (.verify certificate digest digestLength)).1 =
      ((others.after crypto requests').serve crypto
        (.verify certificate digest digestLength)).1 := by
  have hnone := Accepted.collects_nil crypto
  obtain ⟨last, hlast, hcollects⟩ := represents_after h.represents hnone hdistinct
  obtain ⟨last', hlast', hcollects'⟩ :=
    represents_after h'.represents hnone (hdistinct.perm hperm)
  have hpublished := hcollects.published?_eq hcollects' hdistinct hperm
  rw [(serve_verify hlast crypto certificate digest digestLength).1,
    (serve_verify hlast' crypto certificate digest digestLength).1,
    KeyStore.verification, KeyStore.verification, hpublished]

end TrustStore

open TrustStore (replies after serve answers afterCalls answer) in
/-- The order in which certificates are provisioned does not matter when different usable ones have
different short identifiers.  Two fresh stores that are asked to add the same certificates, in
different orders and with any verifications in between, reply to each of them alike and verify
everything alike afterwards; so do the trust stores of two hosts. -/
theorem provisioning_order_irrelevant (crypto : Crypto) {payloads payloads' : List Bytes}
    (hdistinct : Distinct crypto payloads) (hperm : payloads.Perm payloads') :
    (∀ store store' : TrustStore, store.Fresh crypto → store'.Fresh crypto →
      ∀ requests requests', additions requests = payloads → additions requests' = payloads' →
        (∀ data, answersTo (.addCertificate data) requests (replies crypto store requests) =
          answersTo (.addCertificate data) requests' (replies crypto store' requests')) ∧
        ∀ certificate digest digestLength,
          (serve crypto (after crypto store requests)
              (.verify certificate digest digestLength)).1 =
            (serve crypto (after crypto store' requests')
              (.verify certificate digest digestLength)).1) ∧
    ∀ name name' store store', TrustStore.new crypto name = .ok store →
      TrustStore.new crypto name' = .ok store' →
      ∀ calls calls' : List Call, additions (calls.map Call.request) = payloads →
        additions (calls'.map Call.request) = payloads' →
        (∀ data, answersTo (.addCertificate data) calls (answers crypto store calls) =
          answersTo (.addCertificate data) calls' (answers crypto store' calls')) ∧
        ∀ certificate digest,
          (answer crypto (afterCalls crypto store calls) (.verify certificate digest)).1 =
            (answer crypto (afterCalls crypto store' calls') (.verify certificate digest)).1 := by
  constructor
  · rintro store store' hfresh hfresh' requests requests' rfl rfl
    exact ⟨hfresh.answersTo_eq hfresh' hdistinct hperm,
      hfresh.verification_eq hfresh' hdistinct hperm⟩
  · rintro name name' store store' hnew hnew' calls calls' rfl rfl
    have hfresh := TrustStore.fresh_of_new hnew
    have hfresh' := TrustStore.fresh_of_new hnew'
    constructor
    · intro data
      rw [TrustStore.answers_eq_replies, TrustStore.answers_eq_replies,
        TrustStore.answersTo_addCertificate, TrustStore.answersTo_addCertificate,
        hfresh.answersTo_eq hfresh' hdistinct hperm]
    · intro certificate digest
      have hsame := hfresh.verification_eq hfresh' hdistinct hperm certificate digest digest.length
      rw [TrustStore.answer_eq_serve, TrustStore.answer_eq_serve, TrustStore.afterCalls_eq_after,
        TrustStore.afterCalls_eq_after]
      exact congrArg TrustStore.outcome hsame

open TrustStore (replies after serve answers afterCalls answer) in
open Shadowing in
/-- Two certificates and a malformed one, and the same from the last to the first. -/
theorem provisioning_order_irrelevant_reversed :
    let crypto := Crypto.standard
    let short := X509.bare [0xAB] firstKey
    let calls : List Call := [.addCertificate second, .verify certificate digest,
      .addCertificate short, .addCertificate [0x30]]
    let calls' : List Call :=
      [.addCertificate [0x30], .addCertificate short, .addCertificate second]
    ∃ store, TrustStore.new crypto none = .ok store ∧ store.Fresh crypto ∧
      Distinct crypto [second, short, [0x30]] ∧
      [second, short, [0x30]].Perm [[0x30], short, second] ∧
      (∀ data, answersTo (.addCertificate data) (calls.map Call.request)
          (replies crypto store (calls.map Call.request)) =
        answersTo (.addCertificate data) (calls'.map Call.request)
          (replies crypto store (calls'.map Call.request))) ∧
      (∀ data, answersTo (.addCertificate data) calls (answers crypto store calls) =
        answersTo (.addCertificate data) calls' (answers crypto store calls')) ∧
      ∀ certificate digest,
        (answer crypto (afterCalls crypto store calls) (.verify certificate digest)).1 =
          (answer crypto (afterCalls crypto store calls') (.verify certificate digest)).1 := by
  intro crypto short calls calls'
  have hdistinct : Distinct crypto [second, short, [0x30]] := by decide +kernel
  have hperm : [second, short, [0x30]].Perm [[0x30], short, second] :=
    (List.reverse_perm [second, short, [0x30]]).symm
  have hmade : ∃ store, TrustStore.new crypto none = .ok store := ⟨_, rfl⟩
  obtain ⟨store, hstore⟩ := hmade
  have hfresh := TrustStore.fresh_of_new hstore
  obtain ⟨hreplies, hanswers⟩ := provisioning_order_irrelevant crypto hdistinct hperm
  exact ⟨store, hstore, hfresh, hdistinct, hperm,
    (hreplies store store hfresh hfresh (calls.map Call.request) (calls'.map Call.request)
      rfl rfl).1,
    hanswers none none store store hstore hstore calls calls' rfl rfl⟩

end TrustedKeyring
