import TrustedKeyring.Proofs.Base64.RoundTrip
import TrustedKeyring.Proofs.Pem.Lines

/-!
# Written blocks

What may stand in a block (`Encloses`): its lines end with a line feed, or with a carriage return
and a line feed.  A block without header may break its body wherever it likes.  After a header
stands an empty line, and then a body in full lines.
-/

namespace TrustedKeyring

namespace Bytes

theorem piecesFrom_congr {width fuel fuel' : Nat} {bytes : Bytes} (h : bytes.length ≤ fuel)
    (h' : bytes.length ≤ fuel') (hwidth : 0 < width) :
    piecesFrom width fuel bytes = piecesFrom width fuel' bytes := by
  induction fuel generalizing fuel' bytes with
  | zero =>
    obtain rfl := List.length_eq_zero_iff.mp (Nat.le_zero.mp h)
    cases fuel' <;> rfl
  | succ fuel ih =>
    cases bytes with
    | nil => cases fuel' <;> rfl
    | cons b bytes =>
      obtain ⟨fuel', rfl⟩ : ∃ n, fuel' = n + 1 := ⟨fuel' - 1, by simp at h'; omega⟩
      have hless : ((b :: bytes).drop width).length < (b :: bytes).length := by simp; omega
      rw [piecesFrom, piecesFrom]
      exact congrArg (_ :: ·) (ih (by omega) (by omega))

theorem pieces_of_ne_nil {width : Nat} (hwidth : 0 < width) {bytes : Bytes} (hbytes : bytes ≠ []) :
    pieces width bytes = bytes.take width :: pieces width (bytes.drop width) := by
  cases bytes with
  | nil => exact absurd rfl hbytes
  | cons b bytes =>
    rw [pieces, List.length_cons, piecesFrom]
    exact congrArg (_ :: ·) (piecesFrom_congr (by simp; omega) (Nat.le_refl _) hwidth)

/-- Nothing, or some octets of which `width` are cut off before the others. -/
@[elab_as_elim]
theorem cutInduction {width : Nat} (hwidth : 0 < width) {motive : Bytes → Prop} (nil : motive [])
    (cut : ∀ bytes : Bytes, bytes ≠ [] → motive (bytes.drop width) → motive bytes)
    (bytes : Bytes) : motive bytes := by
  induction hn : bytes.length using Nat.strong_induction_on generalizing bytes with
  | _ n ih =>
    by_cases hbytes : bytes = []
    · exact hbytes ▸ nil
    · have hpos := List.length_pos_of_ne_nil hbytes
      have hless : (bytes.drop width).length < n := by
        rw [List.length_drop]
        omega
      exact cut bytes hbytes (ih _ hless _ rfl)

theorem nil_not_mem_pieces {width : Nat} (hwidth : 0 < width) (bytes : Bytes) :
    [] ∉ pieces width bytes := by
  induction bytes using cutInduction hwidth with
  | nil => nofun
  | cut bytes hbytes ih =>
    rw [pieces_of_ne_nil hwidth hbytes, List.mem_cons, not_or]
    refine ⟨fun hnil => ?_, ih⟩
    rcases List.take_eq_nil_iff.mp hnil.symm with hzero | hnone
    · exact Nat.ne_of_gt hwidth hzero
    · exact hbytes hnone

theorem flatten_pieces {width : Nat} (hwidth : 0 < width) (bytes : Bytes) :
    (pieces width bytes).flatten = bytes := by
  induction bytes using cutInduction hwidth with
  | nil => rfl
  | cut bytes hbytes ih =>
    rw [pieces_of_ne_nil hwidth hbytes, List.flatten_cons, ih, List.take_append_drop]

end Bytes

namespace Pem

open Base64 (IsSymbol)

variable {line lineEnd text more : Bytes} {ls : List Bytes}

def colon : UInt8 := 58

def carriageReturn : UInt8 := 13

inductive IsLineEnd : Bytes → Prop where
  | lf : IsLineEnd [lineFeed]
  | crlf : IsLineEnd [carriageReturn, lineFeed]

inductive Written : List Bytes → Bytes → Prop where
  | nil : Written [] []
  | cons {line lineEnd : Bytes} {lines : List Bytes} {text : Bytes} :
      IsLineEnd lineEnd → Written lines text → Written (line :: lines) (line ++ lineEnd ++ text)

/-- A line that may stand before the body of a block: it ends no block, and it is not blank where
it starts. -/
structure IsLeading (line : Bytes) : Prop where
  unbroken : lineFeed ∉ line
  endless : ¬endMark <:+: line
  started : ∃ b ∈ line.take maxLine, isTrailing b = false

/-- What stands between the BEGIN line and the END line of a block, with the lines of its header.
A colon in the END line would make a header of the lines before it. -/
inductive Encloses (label content : Bytes) : List Bytes → Bytes → Prop where
  | plain {pieces : List Bytes} {text : Bytes} :
      colon ∉ label → [] ∉ pieces → pieces.flatten = Base64.encode content → Written pieces text →
      Encloses label content [] text
  | headed {header : List Bytes} {head lineEnd body : Bytes} :
      (∀ line ∈ header, IsLeading line) → Written header head → IsLineEnd lineEnd →
      Written (Bytes.pieces bodyLine (Base64.encode content)) body →
      Encloses label content header (head ++ lineEnd ++ body)

/-! ## Line ends -/

theorem IsLineEnd.exists_blanks (h : IsLineEnd lineEnd) :
    ∃ blanks, lineEnd = blanks ++ [lineFeed] ∧ (blanks = [] ∨ blanks = [carriageReturn]) := by
  cases h with
  | lf => exact ⟨[], rfl, .inl rfl⟩
  | crlf => exact ⟨[carriageReturn], rfl, .inr rfl⟩

theorem lineFeed_not_mem_append {blanks : Bytes} (hline : lineFeed ∉ line)
    (hblanks : blanks = [] ∨ blanks = [carriageReturn]) : lineFeed ∉ line ++ blanks := by
  rw [List.mem_append, not_or]
  refine ⟨hline, ?_⟩
  rcases hblanks with rfl | rfl <;> decide

theorem IsLineEnd.trimLine_append (h : IsLineEnd lineEnd) :
    trimLine (line ++ lineEnd) = trimLine line := by
  apply Pem.trimLine_append
  cases h <;> exact List.all_eq_true.mp (by decide)

theorem IsLineEnd.colon_not_mem (h : IsLineEnd lineEnd) : colon ∉ lineEnd := by
  cases h <;> decide

/-- A line that fits is read with its line end. -/
theorem lines_append_lineEnd (hline : lineFeed ∉ line) (hlength : line.length + 1 < maxLine)
    (hend : IsLineEnd lineEnd) :
    lines (line ++ lineEnd ++ more) = (line ++ lineEnd) :: lines more := by
  cases hend with
  | lf =>
    rw [List.append_assoc]
    exact lines_of_short hline (by omega)
  | crlf =>
    have hlines : lines (line ++ [carriageReturn] ++ lineFeed :: more) =
        (line ++ [carriageReturn] ++ [lineFeed]) :: lines more :=
      lines_of_short (lineFeed_not_mem_append hline (.inr rfl)) (by simpa using hlength)
    simpa using hlines

/-- A carriage return completes no mark. -/
theorem not_infix_append {mark blanks : Bytes} (hmark : mark ≠ [])
    (hlast : mark.getLast? ≠ some carriageReturn) (hline : ¬mark <:+: line)
    (hblanks : blanks = [] ∨ blanks = [carriageReturn]) : ¬mark <:+: line ++ blanks := by
  rcases hblanks with rfl | rfl
  · rwa [List.append_nil]
  · rw [List.infix_concat_iff, not_or, List.suffix_concat_iff]
    refine ⟨?_, hline⟩
    rintro (hnil | ⟨start, heq, -⟩)
    · exact hmark hnil
    · rw [heq, List.getLast?_concat] at hlast
      exact hlast rfl

/-! ## Symbols -/

theorem isSymbol_spec {c : UInt8} (hc : IsSymbol c) :
    isTrailing c = false ∧ c ≠ lineFeed ∧ c ≠ colon ∧ c ≠ Base64.terminator :=
  hc.forall
    (p := fun c => isTrailing c = false ∧ c ≠ lineFeed ∧ c ≠ colon ∧ c ≠ Base64.terminator)
    (by decide) (by decide)

theorem trimLine_symbols (hline : ∀ c ∈ line, IsSymbol c) : trimLine line = line :=
  trimLine_eq_self fun c hc => (isSymbol_spec (hline c hc)).1

theorem isLeading_symbols (hne : line ≠ []) (hline : ∀ c ∈ line, IsSymbol c) :
    IsLeading line where
  unbroken hmem := (isSymbol_spec (hline _ hmem)).2.1 rfl
  endless hinside :=
    have hmem : Base64.terminator ∈ line := hinside.subset (by decide)
    (isSymbol_spec (hline _ hmem)).2.2.2 rfl
  started := by
    cases line with
    | nil => exact absurd rfl hne
    | cons c line =>
      exact ⟨c, List.mem_cons_self, (isSymbol_spec (hline c List.mem_cons_self)).1⟩

def IsClean (text : Bytes) : Prop :=
  ∀ b ∈ text, isTrailing b = true → Base64.isSpace b = true

theorem isClean_append : IsClean (text ++ more) ↔ IsClean text ∧ IsClean more :=
  List.forall_mem_append

theorem isClean_symbols (hline : ∀ c ∈ line, IsSymbol c) : IsClean line := by
  intro c hc htrailing
  rw [(isSymbol_spec (hline c hc)).1] at htrailing
  cases htrailing

def symbols (text : Bytes) : Bytes :=
  text.filter fun c => !Base64.isSpace c

theorem symbols_append (text more : Bytes) :
    symbols (text ++ more) = symbols text ++ symbols more :=
  List.filter_append _ _

theorem symbols_eq_self (htext : ∀ c ∈ text, IsSymbol c) : symbols text = text :=
  List.filter_eq_self.mpr fun c hc => by simp [Base64.isSpace_of_isSymbol (htext c hc)]

theorem IsLineEnd.isClean (h : IsLineEnd lineEnd) : IsClean lineEnd := by
  cases h with
  | lf => exact List.forall_mem_singleton.mpr fun _ => rfl
  | crlf =>
    exact List.forall_mem_cons.mpr ⟨fun _ => rfl, List.forall_mem_singleton.mpr fun _ => rfl⟩

theorem IsLineEnd.symbols_eq (h : IsLineEnd lineEnd) : symbols lineEnd = [] := by
  cases h <;> rfl

theorem symbols_trimLine (hclean : IsClean line) : symbols (trimLine line) = symbols line := by
  obtain ⟨tail, heq, htail⟩ := exists_eq_trimLine_append line
  have hspace : symbols tail = [] := by
    refine List.filter_eq_nil_iff.mpr fun b hb => ?_
    have hmem : b ∈ line := heq ▸ List.mem_append_right _ hb
    simp [hclean b hmem (htail b hb)]
  conv_rhs => rw [heq, symbols_append, hspace, List.append_nil]

/-- A clean line hides nothing, for it has no zero octet. -/
theorem symbols_visible (hclean : IsClean line) :
    symbols (visible (trimLine line ++ [lineFeed])) = symbols line := by
  have hzero : ∀ b ∈ trimLine line ++ [lineFeed], (b != 0) = true := by
    intro b hb
    rw [bne_iff_ne]
    rintro rfl
    rcases List.mem_append.mp hb with hb | hb
    · have hspace := hclean 0 ((trimLine_isPrefix line).subset hb) rfl
      cases hspace
    · cases List.mem_singleton.mp hb
  have hvisible : visible (trimLine line ++ [lineFeed]) = trimLine line ++ [lineFeed] :=
    List.takeWhile_eq_self_iff.mpr hzero
  rw [hvisible, symbols_append, symbols_trimLine hclean]
  exact List.append_nil _

/-! ## Lines of symbols -/

theorem written_flatMap (hend : IsLineEnd lineEnd) (ls : List Bytes) :
    Written ls (ls.flatMap (· ++ lineEnd)) := by
  induction ls with
  | nil => exact .nil
  | cons line ls ih => exact .cons hend ih

/-- In a text of lines of symbols nothing else counts. -/
theorem Written.symbols_eq (h : Written ls text) (hls : ∀ line ∈ ls, ∀ c ∈ line, IsSymbol c) :
    IsClean text ∧ colon ∉ text ∧ symbols text = ls.flatten := by
  induction h with
  | nil => exact ⟨nofun, nofun, rfl⟩
  | @cons line lineEnd ls text hend _ ih =>
    obtain ⟨hline, hls⟩ := List.forall_mem_cons.mp hls
    obtain ⟨hclean, hcolon, hsymbols⟩ := ih hls
    refine ⟨?_, ?_, ?_⟩
    · rw [isClean_append, isClean_append]
      exact ⟨⟨isClean_symbols hline, hend.isClean⟩, hclean⟩
    · rw [List.mem_append, List.mem_append, not_or, not_or]
      exact ⟨⟨fun hmem => (isSymbol_spec (hline _ hmem)).2.2.1 rfl, hend.colon_not_mem⟩, hcolon⟩
    · rw [symbols_append, symbols_append, symbols_eq_self hline, hend.symbols_eq, hsymbols,
        List.append_nil, List.flatten_cons]

end Pem

end TrustedKeyring
