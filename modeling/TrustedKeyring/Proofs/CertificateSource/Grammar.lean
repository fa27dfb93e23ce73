import Mathlib.Data.List.TakeDrop
import Mathlib.Data.List.TakeWhile
import TrustedKeyring.CertificateSource
import TrustedKeyring.Proofs.Text.Trimming

/-!
# The grammar of certificate sources

What a written source means is decided by what stands before its first colon and by what is left of
the rest when it is trimmed.  Every text is read in exactly one way, and what was read from a
written source is read again from its own written form (`parse_grammar`).
-/

namespace TrustedKeyring.CertificateSource

variable {text : String} {scheme rest : List Char}

inductive Reads : String → Except Error CertificateSource → Prop
  | file {rest value : String} (htrim : Text.Trims rest.toList value.toList)
      (hvalue : value ≠ "") : Reads ("file:" ++ rest) (.ok (.file value))
  | environment {rest value : String} (htrim : Text.Trims rest.toList value.toList)
      (hvalue : value ≠ "") : Reads ("env:" ++ rest) (.ok (.environment value))
  | missingPath {rest : String} (hblank : Text.allBlank rest.toList = true) :
      Reads ("file:" ++ rest) (.error .missingPath)
  | missingName {rest : String} (hblank : Text.allBlank rest.toList = true) :
      Reads ("env:" ++ rest) (.error .missingName)
  | unmarked {text : String} (hcolon : ':' ∉ text.toList) : Reads text (.error .invalidScheme)
  | otherScheme {scheme rest : String} (hcolon : ':' ∉ scheme.toList) (hfile : scheme ≠ "file")
      (henvironment : scheme ≠ "env") : Reads (scheme ++ ":" ++ rest) (.error .invalidScheme)

/-! ## The first colon -/

theorem ne_colon_of_not_mem (h : ':' ∉ scheme) : ∀ c ∈ scheme, (c != ':') = true := by
  intro c hc
  rw [bne_iff_ne]
  rintro rfl
  exact h hc

theorem parse_of_not_mem (h : ':' ∉ text.toList) : parse text = .error .invalidScheme := by
  have hdrop : text.toList.dropWhile (· != ':') = [] :=
    List.dropWhile_eq_nil_iff.mpr (ne_colon_of_not_mem h)
  rw [parse, List.span_eq_takeWhile_dropWhile, hdrop]

theorem parse_of_eq_append (htext : text.toList = scheme ++ ':' :: rest) (h : ':' ∉ scheme) :
    parse text =
      if scheme = fileScheme then
        if (Text.trim rest).isEmpty then .error .missingPath
        else .ok (.file (String.ofList (Text.trim rest)))
      else if scheme = environmentScheme then
        if (Text.trim rest).isEmpty then .error .missingName
        else .ok (.environment (String.ofList (Text.trim rest)))
      else .error .invalidScheme := by
  have hall := ne_colon_of_not_mem h
  have hspan : (scheme ++ ':' :: rest).span (· != ':') = (scheme, ':' :: rest) := by
    rw [List.span_eq_takeWhile_dropWhile, List.takeWhile_append_of_pos hall,
      List.dropWhile_append_of_pos hall, List.takeWhile_cons_of_neg (by decide),
      List.dropWhile_cons_of_neg (by decide), List.append_nil]
  rw [parse, htext, hspan]

/-! ## Values -/

theorem trim_eq_nil (h : Text.allBlank rest = true) : Text.trim rest = [] :=
  Text.trims_iff.mp (Text.trims_nil_iff.mpr h)

theorem trim_of_trims {rest value : String} (h : Text.Trims rest.toList value.toList)
    (hvalue : value ≠ "") :
    (Text.trim rest.toList).isEmpty = false ∧ String.ofList (Text.trim rest.toList) = value := by
  rw [Text.trims_iff.mp h, List.isEmpty_eq_false_iff, String.ofList_toList]
  exact ⟨mt String.toList_eq_nil_iff.mp hvalue, rfl⟩

theorem toList_file (rest : String) : ("file:" ++ rest).toList = fileScheme ++ ':' :: rest.toList :=
  String.toList_append

theorem toList_environment (rest : String) :
    ("env:" ++ rest).toList = environmentScheme ++ ':' :: rest.toList :=
  String.toList_append

theorem parse_of_reads {result : Except Error CertificateSource} (h : Reads text result) :
    parse text = result := by
  cases h with
  | file htrim hvalue =>
    obtain ⟨hfull, hread⟩ := trim_of_trims htrim hvalue
    rw [parse_of_eq_append (toList_file _) (by decide), if_pos rfl, hfull, hread]
    rfl
  | environment htrim hvalue =>
    obtain ⟨hfull, hread⟩ := trim_of_trims htrim hvalue
    rw [parse_of_eq_append (toList_environment _) (by decide), if_neg (by decide), if_pos rfl,
      hfull, hread]
    rfl
  | missingPath hblank =>
    rw [parse_of_eq_append (toList_file _) (by decide), if_pos rfl, trim_eq_nil hblank]
    rfl
  | missingName hblank =>
    rw [parse_of_eq_append (toList_environment _) (by decide), if_neg (by decide), if_pos rfl,
      trim_eq_nil hblank]
    rfl
  | unmarked hcolon => exact parse_of_not_mem hcolon
  | @otherScheme scheme rest hcolon hfile henvironment =>
    have htext : (scheme ++ ":" ++ rest).toList = scheme.toList ++ ':' :: rest.toList := by
      simp [String.toList_append]
    have hnotFile : scheme.toList ≠ fileScheme := fun h => hfile (String.toList_inj.mp h)
    have hnotEnvironment : scheme.toList ≠ environmentScheme :=
      fun h => henvironment (String.toList_inj.mp h)
    rw [parse_of_eq_append htext hcolon, if_neg hnotFile, if_neg hnotEnvironment]

/-- After its scheme, a source is told by whether the rest is blank. -/
theorem exists_reads_of_rest (rest : String) :
    (∃ result, Reads ("file:" ++ rest) result) ∧ ∃ result, Reads ("env:" ++ rest) result := by
  have htrims := Text.trim_trims rest.toList
  by_cases hnil : Text.trim rest.toList = []
  · rw [hnil] at htrims
    have hblank := Text.trims_nil_iff.mp htrims
    exact ⟨⟨_, .missingPath hblank⟩, ⟨_, .missingName hblank⟩⟩
  · have hvalue : String.ofList (Text.trim rest.toList) ≠ "" :=
      mt String.ofList_eq_empty_iff.mp hnil
    rw [← String.toList_ofList (l := Text.trim rest.toList)] at htrims
    exact ⟨⟨_, .file htrims hvalue⟩, ⟨_, .environment htrims hvalue⟩⟩

theorem exists_reads (text : String) : ∃ result, Reads text result := by
  by_cases hcolon : ':' ∈ text.toList
  · obtain ⟨scheme, rest, htext, hscheme⟩ := List.eq_append_cons_of_mem hcolon
    have heq : text = String.ofList scheme ++ ":" ++ String.ofList rest := by
      apply String.toList_inj.mp
      simp [htext]
    by_cases hfile : String.ofList scheme = "file"
    · rw [heq, hfile]
      exact (exists_reads_of_rest _).1
    · by_cases henvironment : String.ofList scheme = "env"
      · rw [heq, henvironment]
        exact (exists_reads_of_rest _).2
      · rw [heq]
        exact ⟨_, .otherScheme (by rw [String.toList_ofList]; exact hscheme) hfile henvironment⟩
  · exact ⟨_, .unmarked hcolon⟩

theorem parse_eq_iff {result : Except Error CertificateSource} :
    parse text = result ↔ Reads text result := by
  constructor
  · rintro rfl
    obtain ⟨result, hreads⟩ := exists_reads text
    rw [parse_of_reads hreads]
    exact hreads
  · exact parse_of_reads

/-- A written source has one reading, the one that it is parsed to.  A value without blanks at its
ends is read as it is after either scheme, and a source that was read is read again from its written
form. -/
theorem parse_grammar (text : String) :
    (∀ result, parse text = result ↔ Reads text result) ∧ (∃! result, Reads text result) ∧
    (∀ value : String, value ≠ "" → Text.IsBare value.toList →
      parse ("file:" ++ value) = .ok (.file value) ∧
        parse ("env:" ++ value) = .ok (.environment value)) ∧
    ∀ source, parse text = .ok source → parse source.render = .ok source := by
  have hround : ∀ value : String, value ≠ "" → Text.IsBare value.toList →
      parse ("file:" ++ value) = .ok (.file value) ∧
        parse ("env:" ++ value) = .ok (.environment value) := by
    intro value hvalue hbare
    exact ⟨parse_of_reads (.file hbare.trims hvalue),
      parse_of_reads (.environment hbare.trims hvalue)⟩
  refine ⟨fun _ => parse_eq_iff, ⟨parse text, parse_eq_iff.mp rfl, ?_⟩, hround, ?_⟩
  · intro result hreads
    exact (parse_of_reads hreads).symm
  · intro source hsource
    cases parse_eq_iff.mp hsource with
    | file htrim hvalue => exact (hround _ hvalue htrim.1).1
    | environment htrim hvalue => exact (hround _ hvalue htrim.1).2

/-- A value with colons and blanks inside, and blanks of several kinds around it. -/
theorem parse_grammar_inner :
    let text := "file:\u00a0 C:\\keys\u3000a.der\t"
    let value := "C:\\keys\u3000a.der"
    Reads text (.ok (.file value)) ∧ parse ("env:" ++ value) = .ok (.environment value) ∧
      parse (render (.file value)) = .ok (.file value) := by
  intro text value
  obtain ⟨hreads, -, hround, hagain⟩ := parse_grammar text
  have hparse : parse text = .ok (.file value) := by decide
  have hfirst : value.toList.head? = some 'C' := by decide
  have hlast : value.toList.getLast? = some 'r' := by decide
  have hbare : Text.IsBare value.toList := by
    rw [Text.IsBare, hfirst, hlast]
    constructor
    · rintro c ⟨⟩
      decide
    · rintro c ⟨⟩
      decide
  exact ⟨(hreads _).mp hparse, (hround value (by decide) hbare).2, hagain _ hparse⟩

end TrustedKeyring.CertificateSource
