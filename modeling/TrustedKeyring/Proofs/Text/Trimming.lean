import Mathlib.Data.List.DropRight
import TrustedKeyring.Text.Blank

/-!
# Trimmed text

Trimming leaves the only part of a text that has no blanks at its ends and nothing but blanks
around it (`trims_iff`).
-/

namespace TrustedKeyring.Text

variable {text value before after : List Char}

def IsBare (text : List Char) : Prop :=
  (∀ c ∈ text.head?, isBlank c = false) ∧ ∀ c ∈ text.getLast?, isBlank c = false

def Trims (text value : List Char) : Prop :=
  IsBare value ∧
    ∃ before after, text = before ++ value ++ after ∧ allBlank before = true ∧ allBlank after = true

theorem dropWhile_isBlank_append (hbefore : allBlank before = true)
    (hvalue : ∀ c ∈ value.head?, isBlank c = false) :
    (before ++ value).dropWhile isBlank = value := by
  rw [List.dropWhile_append_of_pos (List.all_eq_true.mp hbefore)]
  cases value with
  | nil => rfl
  | cons c rest =>
    have hc : isBlank c = false := hvalue c rfl
    rw [List.dropWhile_cons_of_neg (by simp [hc])]

theorem trimEnd_append (hafter : allBlank after = true)
    (hvalue : ∀ c ∈ value.getLast?, isBlank c = false) : trimEnd (value ++ after) = value := by
  have hreversed : allBlank after.reverse = true := by rw [allBlank, List.all_reverse]; exact hafter
  have hlast : ∀ c ∈ value.reverse.head?, isBlank c = false := by
    rw [List.head?_reverse]
    exact hvalue
  rw [trimEnd, List.reverse_append, dropWhile_isBlank_append hreversed hlast, List.reverse_reverse]

/-- Where dropping blanks stops, there is none. -/
theorem isBlank_head?_dropWhile (text : List Char) :
    ∀ c ∈ (text.dropWhile isBlank).head?, isBlank c = false := by
  intro c hc
  have hstop := List.head?_dropWhile_not isBlank text
  rw [Option.mem_def.mp hc] at hstop
  simpa using hstop

theorem exists_eq_trimEnd_append (text : List Char) :
    ∃ after, text = trimEnd text ++ after ∧ allBlank after = true ∧
      ∀ c ∈ (trimEnd text).getLast?, isBlank c = false := by
  refine ⟨text.rtakeWhile isBlank, List.rdropWhile_append_rtakeWhile.symm,
    List.all_eq_true.mpr fun _ => List.mem_rtakeWhile_imp, ?_⟩
  rw [trimEnd, List.getLast?_reverse]
  exact isBlank_head?_dropWhile text.reverse

theorem trim_trims (text : List Char) : Trims text (trim text) := by
  obtain ⟨after, heq, hafter, hlast⟩ := exists_eq_trimEnd_append (text.dropWhile isBlank)
  refine ⟨⟨?_, hlast⟩, text.takeWhile isBlank, after, ?_, List.all_takeWhile, hafter⟩
  · intro c hc
    apply isBlank_head?_dropWhile text
    have hfirst : (trimEnd (text.dropWhile isBlank)).head? = some c := hc
    rw [heq, List.head?_append, hfirst]
    rfl
  · rw [trim, List.append_assoc, ← heq, List.takeWhile_append_dropWhile]

/-- A text is trimmed to the only part of it without blanks at its ends that has nothing but blanks
around it. -/
theorem trims_iff : Trims text value ↔ trim text = value := by
  constructor
  · rintro ⟨⟨hfirst, hlast⟩, before, after, rfl, hbefore, hafter⟩
    rw [trim, List.append_assoc]
    cases value with
    | nil =>
      have hall : allBlank (before ++ after) = true := by
        rw [allBlank, List.all_append, Bool.and_eq_true]
        exact ⟨hbefore, hafter⟩
      have hdrop := dropWhile_isBlank_append hall hfirst
      rw [List.append_nil] at hdrop
      rw [List.nil_append, hdrop]
      rfl
    | cons c rest =>
      have hnext : ∀ d ∈ (c :: rest ++ after).head?, isBlank d = false := hfirst
      rw [dropWhile_isBlank_append hbefore hnext, trimEnd_append hafter hlast]
  · rintro rfl
    exact trim_trims text

theorem trims_nil_iff : Trims text [] ↔ allBlank text = true := by
  constructor
  · rintro ⟨-, before, after, rfl, hbefore, hafter⟩
    rw [List.append_nil, allBlank, List.all_append, Bool.and_eq_true]
    exact ⟨hbefore, hafter⟩
  · intro hblank
    exact ⟨⟨nofun, nofun⟩, text, [], by simp, hblank, rfl⟩

theorem IsBare.trims (h : IsBare text) : Trims text text :=
  ⟨h, [], [], by simp, rfl, rfl⟩

end TrustedKeyring.Text
