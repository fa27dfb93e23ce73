import Mathlib.Data.List.DropRight
import TrustedKeyring.Pem

/-!
# Lines of a text

A line that is not too long is read as a whole (`lines_of_short`); a longer one comes in pieces
(`lines_of_long`).  What is proved of lines goes from the last piece back to the first
(`pieceInduction`).
-/

namespace TrustedKeyring.Pem

variable {line tail rest : Bytes}

/-! ## Splitting -/

theorem length_splitLine_le (room : Nat) (bytes : Bytes) :
    (splitLine room bytes).2.length ≤ bytes.length := by
  induction room generalizing bytes with
  | zero => exact Nat.le_refl _
  | succ room ih =>
    cases bytes with
    | nil => exact Nat.le_refl _
    | cons b bytes =>
      rw [splitLine]
      split
      · exact Nat.le_succ _
      · exact Nat.le_succ_of_le (ih bytes)

theorem length_splitLine_lt (room : Nat) (b : UInt8) (bytes : Bytes) :
    (splitLine (room + 1) (b :: bytes)).2.length < (b :: bytes).length := by
  rw [splitLine]
  split
  · exact Nat.lt_succ_self _
  · exact Nat.lt_succ_of_le (length_splitLine_le room bytes)

theorem linesFrom_cons (fuel : Nat) (b : UInt8) (bytes : Bytes) :
    linesFrom (fuel + 1) (b :: bytes) =
      (splitLine maxLine (b :: bytes)).1 :: linesFrom fuel (splitLine maxLine (b :: bytes)).2 :=
  rfl

theorem linesFrom_congr {fuel fuel' : Nat} {bytes : Bytes} (h : bytes.length ≤ fuel)
    (h' : bytes.length ≤ fuel') : linesFrom fuel bytes = linesFrom fuel' bytes := by
  induction fuel generalizing fuel' bytes with
  | zero =>
    obtain rfl := List.length_eq_zero_iff.mp (Nat.le_zero.mp h)
    cases fuel' <;> rfl
  | succ fuel ih =>
    cases bytes with
    | nil => cases fuel' <;> rfl
    | cons b bytes =>
      obtain ⟨fuel', rfl⟩ : ∃ n, fuel' = n + 1 := ⟨fuel' - 1, by simp at h'; omega⟩
      have hless : (splitLine maxLine (b :: bytes)).2.length < (b :: bytes).length :=
        length_splitLine_lt 253 b bytes
      rw [linesFrom_cons, linesFrom_cons]
      exact congrArg (_ :: ·) (ih (by omega) (by omega))

theorem lines_of_ne_nil {bytes : Bytes} (hbytes : bytes ≠ []) :
    lines bytes = (splitLine maxLine bytes).1 :: lines (splitLine maxLine bytes).2 := by
  cases bytes with
  | nil => exact absurd rfl hbytes
  | cons b bytes =>
    have hless : (splitLine maxLine (b :: bytes)).2.length < (b :: bytes).length :=
      length_splitLine_lt 253 b bytes
    rw [lines, List.length_cons, linesFrom_cons]
    exact congrArg (_ :: ·) (linesFrom_congr (Nat.le_of_lt_succ hless) (Nat.le_refl _))

theorem splitLine_append (hline : lineFeed ∉ line) (room : Nat) :
    splitLine room (line ++ lineFeed :: rest) =
      if line.length < room then (line ++ [lineFeed], rest)
      else (line.take room, line.drop room ++ lineFeed :: rest) := by
  induction line generalizing room with
  | nil => cases room <;> rfl
  | cons b line ih =>
    have hb : b ≠ lineFeed := fun heq => hline (heq ▸ List.mem_cons_self)
    have hmore : lineFeed ∉ line := fun hmem => hline (List.mem_cons_of_mem b hmem)
    cases room with
    | zero => rfl
    | succ room =>
      rw [List.cons_append, splitLine, if_neg hb, ih hmore]
      by_cases hfits : line.length < room
      · rw [if_pos hfits, if_pos (by simpa using hfits)]
        rfl
      · rw [if_neg hfits, if_neg (by simpa using hfits)]
        rfl

theorem lines_of_short (hline : lineFeed ∉ line) (hlength : line.length < maxLine) :
    lines (line ++ lineFeed :: rest) = (line ++ [lineFeed]) :: lines rest := by
  rw [lines_of_ne_nil (by simp), splitLine_append hline, if_pos hlength]

theorem lines_of_long (hline : lineFeed ∉ line) (hlength : maxLine ≤ line.length) :
    lines (line ++ lineFeed :: rest) =
      line.take maxLine :: lines (line.drop maxLine ++ lineFeed :: rest) := by
  rw [lines_of_ne_nil (by simp), splitLine_append hline, if_neg (Nat.not_lt.mpr hlength)]

/-- The last line of a text may have no line feed. -/
theorem splitLine_last (hline : lineFeed ∉ line) {room : Nat} (hlength : line.length ≤ room) :
    splitLine room line = (line, []) := by
  induction line generalizing room with
  | nil => cases room <;> rfl
  | cons b line ih =>
    have hb : b ≠ lineFeed := fun heq => hline (heq ▸ List.mem_cons_self)
    obtain ⟨room, rfl⟩ : ∃ n, room = n + 1 := ⟨room - 1, by simp at hlength; omega⟩
    rw [splitLine, if_neg hb,
      ih (fun hmem => hline (List.mem_cons_of_mem b hmem)) (Nat.le_of_succ_le_succ hlength)]

theorem lines_last (hline : lineFeed ∉ line) (hne : line ≠ []) (hlength : line.length ≤ maxLine) :
    lines line = [line] := by
  rw [lines_of_ne_nil hne, splitLine_last hline hlength]
  rfl

/-- A line that is short, or of which `maxLine` octets are split off before the others. -/
@[elab_as_elim]
theorem pieceInduction {motive : Bytes → Prop}
    (short : ∀ line : Bytes, line.length < maxLine → motive line)
    (long : ∀ line : Bytes, maxLine ≤ line.length → motive (line.drop maxLine) → motive line)
    (line : Bytes) : motive line := by
  induction hn : line.length using Nat.strong_induction_on generalizing line with
  | _ n ih =>
    by_cases hlength : line.length < maxLine
    · exact short line hlength
    · have hless : (line.drop maxLine).length < n := by
        rw [List.length_drop]
        unfold maxLine at hlength ⊢
        omega
      exact long line (Nat.le_of_not_lt hlength) (ih _ hless _ rfl)

theorem isSplit_of_short : isSplit (line ++ [lineFeed]) = false := by
  simp [isSplit]

theorem isSplit_of_long (hline : lineFeed ∉ line) (hlength : maxLine ≤ line.length) :
    isSplit (line.take maxLine) = true := by
  have hfull : (line.take maxLine).length = maxLine := by
    rw [List.length_take, Nat.min_eq_left hlength]
  have hlast : (line.take maxLine).getLast? ≠ some lineFeed := fun heq =>
    hline (List.mem_of_mem_take (List.mem_of_getLast? heq))
  simp [isSplit, hfull, hlast]

/-! ## Trimming -/

theorem trimLine_append (htail : ∀ b ∈ tail, isTrailing b = true) :
    trimLine (line ++ tail) = trimLine line := by
  rw [trimLine, List.reverse_append,
    List.dropWhile_append_of_pos fun b hb => htail b (List.mem_reverse.mp hb), trimLine]

theorem trimLine_of_last {last : UInt8} (hlast : isTrailing last = false) :
    trimLine (line ++ [last]) = line ++ [last] :=
  List.rdropWhile_concat_neg _ _ _ (by simp [hlast])

theorem trimLine_eq_self (hline : ∀ b ∈ line, isTrailing b = false) : trimLine line = line :=
  List.rdropWhile_eq_self_iff.mpr fun hne => by
    simpa using hline _ (List.getLast_mem hne)

theorem exists_eq_trimLine_append (line : Bytes) :
    ∃ tail, line = trimLine line ++ tail ∧ ∀ b ∈ tail, isTrailing b = true :=
  ⟨line.rtakeWhile isTrailing, List.rdropWhile_append_rtakeWhile.symm,
    fun _ => List.mem_rtakeWhile_imp⟩

theorem trimLine_isPrefix (line : Bytes) : trimLine line <+: line :=
  List.rdropWhile_prefix _ line

theorem trimLine_ne_nil {b : UInt8} (hmem : b ∈ line) (hb : isTrailing b = false) :
    trimLine line ≠ [] := by
  intro hnil
  have hall := List.rdropWhile_eq_nil_iff.mp hnil b hmem
  rw [hb] at hall
  cases hall

theorem isTrailing_lineFeed : ∀ b ∈ [lineFeed], isTrailing b = true :=
  List.all_eq_true.mp (by decide)

end TrustedKeyring.Pem
