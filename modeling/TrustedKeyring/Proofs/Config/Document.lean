import TrustedKeyring.Proofs.Json.Quote
import TrustedKeyring.Proofs.Verifier.Run

/-!
# Configuration documents

A configuration with a keyring name that is not blank is read from the document that it is written
to.  What is read from any document is such a configuration, and every anchor but the shared one can
have a verifier for it (`json_round_trip`).
-/

namespace TrustedKeyring.Config

theorem validate_of_exists {config : Config}
    (h : ∃ c ∈ config.keyringName.toList, Text.isBlank c = false) : config.validate = .ok () := by
  have hbare : ¬Text.allBlank config.keyringName.toList = true := by
    rw [Text.allBlank, List.all_eq_true]
    obtain ⟨c, hmem, hc⟩ := h
    intro hall
    rw [hall c hmem] at hc
    cases hc
  rw [validate, if_neg hbare]

theorem validate_of_forall {config : Config}
    (h : ∀ c ∈ config.keyringName.toList, Text.isBlank c = true) :
    config.validate = .error (.badConfig "keyring name must not be empty") := by
  have hblank : Text.allBlank config.keyringName.toList = true := List.all_eq_true.mpr h
  rw [validate, if_pos hblank]

/-- The only member of a written configuration is followed by the end of the object. -/
theorem members_toJson (fuel : Nat) (name : List Char) :
    members (fuel + 2) true none (Json.quote memberName ++ ':' :: (Json.quote name ++ ['}'])) =
      .ok (some name, []) := by
  have hkey := Json.stringBody_flatMap_escape memberName (':' :: (Json.quote name ++ ['}']))
  have hcolon : Json.colon (':' :: (Json.quote name ++ ['}'])) = .ok (Json.quote name ++ ['}']) :=
    rfl
  have hlast : members (fuel + 1) false (some name) ['}'] = .ok (some name, []) := rfl
  have hspace (text : List Char) : Json.skipSpace ('"' :: text) = '"' :: text := rfl
  rw [Json.quote_append, members]
  simp only [hspace, hkey, hcolon, Json.string_quote, hlast, if_true, Option.isSome_none,
    Bool.false_eq_true, if_false]

theorem toList_toJson (config : Config) :
    config.toJson.toList =
      '{' :: (Json.quote memberName ++ ':' :: (Json.quote config.keyringName.toList ++ ['}'])) := by
  simp [toJson]

theorem read_toJson (config : Config) : read config.toJson.toList = .ok (config, []) := by
  rw [toList_toJson]
  show (members _ true none _).map _ = _
  obtain ⟨fuel, hfuel⟩ : ∃ fuel, (Json.quote memberName ++
      ':' :: (Json.quote config.keyringName.toList ++ ['}'])).length + 1 = fuel + 2 :=
    ⟨_, rfl⟩
  rw [hfuel, members_toJson]
  show Except.ok ((⟨String.ofList config.keyringName.toList⟩ : Config), _) = _
  rw [String.ofList_toList]

theorem ofJson_toJson (config : Config) :
    ofJson config.toJson = config.validate.map fun _ => config := by
  rw [ofJson, Json.document, read_toJson]
  rfl

theorem validate_of_ofJson {text : String} {config : Config} (h : ofJson text = .ok config) :
    config.validate = .ok () := by
  unfold ofJson at h
  cases hread : Json.document read text with
  | error fault =>
    rw [hread] at h
    cases h
  | ok given =>
    rw [hread] at h
    change given.validate.map (fun _ => given) = .ok config at h
    cases hvalid : given.validate with
    | error refusal =>
      rw [hvalid] at h
      cases h
    | ok valid =>
      rw [hvalid] at h
      cases h
      exact hvalid

/-- Whatever characters a keyring name is made of, the document of its configuration is read as this
configuration, or refused if the name is blank.  A configuration that was read from any document is
valid, is read again from its own document, and is one for verifiers of every anchor but the shared
one. -/
theorem json_round_trip :
    (∀ name : String, (∃ c ∈ name.toList, Text.isBlank c = false) →
      ofJson (toJson ⟨name⟩) = .ok ⟨name⟩) ∧
    (∀ name : String, (∀ c ∈ name.toList, Text.isBlank c = true) →
      ofJson (toJson ⟨name⟩) = .error (.badConfig "keyring name must not be empty")) ∧
    ∀ text config, ofJson text = .ok config →
      config.validate = .ok () ∧ ofJson config.toJson = .ok config ∧
        ∀ anchor : TrustAnchor, anchor.isProcess = false →
          Verifier.ofAnchor config anchor = .ok ⟨config, none⟩ := by
  refine ⟨?_, ?_, ?_⟩
  · intro name hname
    rw [ofJson_toJson, validate_of_exists hname]
    rfl
  · intro name hname
    rw [ofJson_toJson, validate_of_forall hname]
    rfl
  · intro text config hread
    have hvalid := validate_of_ofJson hread
    refine ⟨hvalid, ?_, ?_⟩
    · rw [ofJson_toJson, hvalid]
      rfl
    · intro anchor howned
      exact Verifier.ofAnchor_eq_ok_iff.mpr ⟨hvalid, howned, rfl⟩

/-- A name of a quote, a backslash, a control character, an ideographic space and a character
outside the basic plane. -/
theorem json_round_trip_escaped :
    let name := "\"\\\x01\u3000🔑"
    let config : Config := ⟨name⟩
    ofJson config.toJson = .ok config ∧ config.validate = .ok () ∧
      ofJson (toJson ⟨"\t\u3000"⟩) = .error (.badConfig "keyring name must not be empty") ∧
      Verifier.ofAnchor config (.preloaded ".five" ⟨7⟩) = .ok ⟨config, none⟩ := by
  intro name config
  obtain ⟨hround, hblank, hread⟩ := json_round_trip
  have hname : ofJson config.toJson = .ok config :=
    hround name ⟨'"', by decide, by decide⟩
  obtain ⟨hvalid, -, hverifier⟩ := hread config.toJson config hname
  exact ⟨hname, hvalid, hblank _ (List.all_eq_true.mp (by decide)), hverifier _ rfl⟩

end TrustedKeyring.Config
