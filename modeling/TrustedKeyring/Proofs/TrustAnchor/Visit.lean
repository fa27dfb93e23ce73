import TrustedKeyring.Proofs.Verifier.Ensures

/-!
# Visits of a trust anchor

What an operation can find in an anchor and leave in it, whatever else it does.  An anchor is only
written by a load that finds it unset.
-/

namespace TrustedKeyring

variable {α : Type} {name : String} {owner : Option ServiceId} {isLoader : Bool}
  {shows : Option Handle → List Exchange → Outcome Refusal α → Prop} {anchor after : TrustAnchor}
  {calls : List Exchange} {outcome : Outcome Refusal α} {verifier : Verifier}

def Exchange.isOpening (exchange : Exchange) : Bool :=
  match exchange.request with
  | .openKeyring _ => true
  | _ => false

def showsUnset (refusal : Refusal) (handle : Option Handle) (_ : List Exchange)
    (outcome : Outcome Refusal α) : Prop :=
  handle = none → outcome = .error (.error refusal)

/-- The visit of a caller with a keyring name and an owner, who loads the anchor or only looks at
it, and whose further calls and outcome show what has been found.  It comes to calls, an outcome and
an anchor. -/
inductive Visit (name : String) (owner : Option ServiceId) (isLoader : Bool)
    (shows : Option Handle → List Exchange → Outcome Refusal α → Prop) (anchor : TrustAnchor) :
    List Exchange → Outcome Refusal α → TrustAnchor → Prop
  | refused {binding : Binding} {failure : Failure Refusal}
      (hbound : anchor.binding = some binding)
      (hanswer : Admission name owner binding (.error failure)) :
      Visit name owner isLoader shows anchor [] (.error failure) anchor
  | admitted {handle : Handle} {calls : List Exchange} {outcome : Outcome Refusal α}
      (hbound : anchor.binding = some ⟨handle, name, owner⟩)
      (hcalls : calls.filter Exchange.isOpening = [])
      (hshows : shows (some handle) calls outcome) :
      Visit name owner isLoader shows anchor calls outcome anchor
  | unset {outcome : Outcome Refusal α} (hunset : anchor.binding = none)
      (hlooks : isLoader = false) (hshows : shows none [] outcome) :
      Visit name owner isLoader shows anchor [] outcome anchor
  | ownerless (hunset : anchor.binding = none) (hloads : isLoader = true)
      (hshared : anchor.isProcess = true) (howner : owner = none) :
      Visit name owner isLoader shows anchor [] (.error (.error ownerRequired)) anchor
  | failed (hunset : anchor.binding = none) (hloads : isLoader = true)
      (howned : anchor.isProcess = false ∨ owner ≠ none) (errno : Errno) :
      Visit name owner isLoader shows anchor [⟨.openKeyring name, .error (.error errno)⟩]
        (.error (.error (.loadFailed errno))) anchor
  | panicked (hunset : anchor.binding = none) (hloads : isLoader = true)
      (howned : anchor.isProcess = false ∨ owner ≠ none) (message : String) :
      Visit name owner isLoader shows anchor [⟨.openKeyring name, .error (.panic message)⟩]
        (.error (.panic message)) { anchor with isPoisoned := true }
  | loaded {calls : List Exchange} {outcome : Outcome Refusal α}
      (hunset : anchor.binding = none) (hloads : isLoader = true)
      (howned : anchor.isProcess = false ∨ owner ≠ none) (handle : Handle)
      (hcalls : calls.filter Exchange.isOpening = [])
      (hshows : shows (some handle) calls outcome) :
      Visit name owner isLoader shows anchor (⟨.openKeyring name, .ok handle⟩ :: calls) outcome
        { anchor with binding := some ⟨handle, name, owner⟩ }

namespace Visit

/-- What a visit leaves does not depend on how its values are shown. -/
theorem change {β : Type} {shows' : Option Handle → List Exchange → Outcome Refusal β → Prop}
    {outcome' : Outcome Refusal β} (h : Visit name owner isLoader shows anchor calls outcome after)
    (hfailure : ∀ failure, outcome = .error failure → outcome' = .error failure)
    (hshows : ∀ handle calls, shows handle calls outcome → shows' handle calls outcome') :
    Visit name owner isLoader shows' anchor calls outcome' after := by
  cases h with
  | refused hbound hanswer => rw [hfailure _ rfl]; exact .refused hbound hanswer
  | admitted hbound hcalls hshown => exact .admitted hbound hcalls (hshows _ _ hshown)
  | unset hunset hlooks hshown => exact .unset hunset hlooks (hshows _ _ hshown)
  | ownerless hunset hloads hshared howner =>
    rw [hfailure _ rfl]; exact .ownerless hunset hloads hshared howner
  | failed hunset hloads howned errno =>
    rw [hfailure _ rfl]; exact .failed hunset hloads howned errno
  | panicked hunset hloads howned message =>
    rw [hfailure _ rfl]; exact .panicked hunset hloads howned message
  | loaded hunset hloads howned handle hcalls hshown =>
    exact .loaded hunset hloads howned handle hcalls (hshows _ _ hshown)

/-- A bound anchor answers by the caller's keyring name and owner, and is not loaded. -/
theorem exists_admission {binding : Binding}
    (h : Visit name owner isLoader shows anchor calls outcome after)
    (hbound : anchor.binding = some binding) :
    ∃ answer, Admission name owner binding answer ∧ calls.filter Exchange.isOpening = [] ∧
      match answer with
      | .ok handle => shows (some handle) calls outcome
      | .error failure => calls = [] ∧ outcome = .error failure := by
  cases h with
  | @refused other failure hother hanswer =>
    rw [hbound] at hother
    cases hother
    exact ⟨.error failure, hanswer, rfl, rfl, rfl⟩
  | @admitted handle calls outcome hother hcalls hshows =>
    rw [hbound] at hother
    cases hother
    exact ⟨.ok handle, .admitted rfl rfl, hcalls, hshows⟩
  | unset hunset | ownerless hunset | failed hunset | panicked hunset | loaded hunset =>
    rw [hunset] at hbound
    cases hbound

/-- What an anchor is bound to stays as it is. -/
theorem binding_eq {binding : Binding}
    (h : Visit name owner isLoader shows anchor calls outcome after)
    (hbound : anchor.binding = some binding) : after.binding = some binding := by
  cases h with
  | refused | admitted => exact hbound
  | unset hunset | ownerless hunset | failed hunset | panicked hunset | loaded hunset =>
    rw [hunset] at hbound
    cases hbound

/-- What an anchor is bound to was there before, or was opened for the visitor. -/
theorem binding_or_opening {binding : Binding}
    (h : Visit name owner isLoader shows anchor calls outcome after)
    (hbinding : after.binding = some binding) :
    anchor.binding = some binding ∨
      isLoader = true ∧ (anchor.isProcess = false ∨ owner ≠ none) ∧
        ∃ handle, binding = ⟨handle, name, owner⟩ ∧
          ⟨.openKeyring name, .ok handle⟩ ∈ calls := by
  cases h with
  | loaded _ hloads howned handle =>
    cases hbinding
    exact .inr ⟨hloads, howned, handle, rfl, List.mem_cons_self⟩
  | refused | admitted | unset | ownerless | failed | panicked => exact .inl hbinding

theorem isProcess_eq (h : Visit name owner isLoader shows anchor calls outcome after) :
    after.isProcess = anchor.isProcess := by
  cases h <;> rfl

end Visit

theorem LoadTrace.visit {outcome : Outcome Refusal Handle}
    (h : LoadTrace name owner anchor calls outcome after) :
    Visit name owner true
      (fun handle calls outcome => ∀ given ∈ handle, calls = [] ∧ outcome = .ok given) anchor calls
      outcome after := by
  cases h with
  | @bound binding outcome hbound hanswer =>
    cases outcome with
    | error failure => exact .refused hbound hanswer
    | ok handle =>
      rw [hanswer.binding_eq] at hbound
      exact .admitted hbound rfl fun given hgiven =>
        ⟨rfl, congrArg Except.ok (Option.some.inj hgiven)⟩
  | ownerless hunset hshared howner => exact .ownerless hunset rfl hshared howner
  | failed hunset howned errno => exact .failed hunset rfl howned errno
  | panicked hunset howned message => exact .panicked hunset rfl howned message
  | loaded hunset howned handle =>
    exact .loaded hunset rfl howned handle rfl fun given hgiven =>
      ⟨rfl, congrArg Except.ok (Option.some.inj hgiven)⟩

theorem SearchTrace.filter_isOpening {keyring : Handle} {id : KeyId}
    {outcome : Outcome Refusal Handle} (h : SearchTrace keyring id calls outcome) :
    calls.filter Exchange.isOpening = [] := by
  cases h <;> rfl

theorem CheckTrace.filter_isOpening {keyring : Handle} {certificate : Certificate}
    {digest : Bytes} {digestLength : Nat} {outcome : Outcome Refusal Int32}
    (h : CheckTrace keyring certificate digest digestLength calls outcome) :
    calls.filter Exchange.isOpening = [] := by
  cases h with
  | unknownAlgorithm => rfl
  | notFound _ hsearch => exact hsearch.filter_isOpening
  | checked _ hsearch | panicked _ hsearch =>
    rw [List.filter_append, hsearch.filter_isOpening]
    rfl

/-- A verification visits its anchor as the load that it begins with. -/
theorem VerifyTrace.visit {certificate : Certificate} {digest : Bytes} {digestLength : Nat}
    {outcome : Outcome Refusal Int32}
    (h : VerifyTrace verifier certificate digest digestLength anchor calls outcome after) :
    Visit verifier.config.keyringName verifier.owner true (fun _ _ _ => True) anchor calls outcome
      after := by
  cases h with
  | notLoaded hload =>
    refine hload.visit.change ?_ fun _ _ _ => trivial
    intro failure hfailure
    cases hfailure
    rfl
  | loaded hload hcheck =>
    cases hload with
    | bound hbound hanswer =>
      rw [hanswer.binding_eq] at hbound
      exact .admitted hbound hcheck.filter_isOpening trivial
    | loaded hunset howned => exact .loaded hunset rfl howned _ hcheck.filter_isOpening trivial

theorem FindTrace.visit {id : KeyId} {outcome : Outcome Refusal Handle}
    (h : FindTrace verifier id anchor calls outcome) :
    Visit verifier.config.keyringName verifier.owner false (showsUnset .noKey) anchor calls outcome
      anchor := by
  cases h with
  | unset hunset => exact .unset hunset rfl fun _ => rfl
  | refused hbound hanswer => exact .refused hbound hanswer
  | searched hbound hsearch => exact .admitted hbound hsearch.filter_isOpening nofun

theorem ProvisionTrace.visit {data : Bytes} {outcome : Outcome Refusal Unit}
    (h : ProvisionTrace verifier data anchor calls outcome) :
    Visit verifier.config.keyringName verifier.owner false
      (showsUnset (.invalidArgument "trust anchor is not loaded")) anchor calls outcome anchor := by
  cases h with
  | unset hunset => exact .unset hunset rfl fun _ => rfl
  | refused hbound hanswer => exact .refused hbound hanswer
  | empty hbound | added hbound | failed hbound | panicked hbound =>
    exact .admitted hbound rfl nofun

theorem PeekTrace.visit {outcome : Outcome Refusal (Option Handle)}
    (h : PeekTrace name owner anchor outcome) :
    Visit name owner false (fun handle calls outcome => calls = [] ∧ outcome = .ok handle) anchor
      [] outcome anchor := by
  cases h with
  | unset hunset => exact .unset hunset rfl ⟨rfl, rfl⟩
  | @bound binding outcome hbound hanswer =>
    cases outcome with
    | error failure => exact .refused hbound hanswer
    | ok handle =>
      rw [hanswer.binding_eq] at hbound
      exact .admitted hbound rfl ⟨rfl, rfl⟩

/-! ## Operations -/

theorem visit_load (name : String) (owner : Option ServiceId) (anchor : TrustAnchor) :
    (TrustAnchor.load name owner).Ensures anchor (Visit name owner true
      (fun handle calls outcome => ∀ given ∈ handle, calls = [] ∧ outcome = .ok given) anchor) :=
  (ensures_load name owner anchor).mono fun _ _ _ h => h.visit

theorem visit_verify (verifier : Verifier) (certificate : Certificate) (digest : Bytes)
    (digestLength : Nat) (anchor : TrustAnchor) :
    (verifier.verify certificate digest digestLength).Ensures anchor
      (Visit verifier.config.keyringName verifier.owner true (fun _ _ _ => True) anchor) :=
  (ensures_verify verifier certificate digest digestLength anchor).mono fun _ _ _ h => h.visit

theorem visit_findKey (verifier : Verifier) (id : KeyId) (anchor : TrustAnchor) :
    (verifier.findKey id).Ensures anchor
      (Visit verifier.config.keyringName verifier.owner false (showsUnset .noKey) anchor) := by
  refine (ensures_findKey verifier id anchor).mono ?_
  rintro calls outcome after ⟨hfind, rfl⟩
  exact hfind.visit

theorem visit_provision (verifier : Verifier) (data : Bytes) (anchor : TrustAnchor) :
    (verifier.provision data).Ensures anchor
      (Visit verifier.config.keyringName verifier.owner false
        (showsUnset (.invalidArgument "trust anchor is not loaded")) anchor) := by
  refine (ensures_provision verifier data anchor).mono ?_
  rintro calls outcome after ⟨hprovision, rfl⟩
  exact hprovision.visit

theorem visit_peek (name : String) (owner : Option ServiceId) (anchor : TrustAnchor) :
    (TrustAnchor.peek name owner).Ensures anchor
      (Visit name owner false (fun handle calls outcome => calls = [] ∧ outcome = .ok handle)
        anchor) := by
  refine (ensures_peek name owner anchor).mono ?_
  rintro calls outcome after ⟨hpeek, rfl, rfl⟩
  exact hpeek.visit

end TrustedKeyring
