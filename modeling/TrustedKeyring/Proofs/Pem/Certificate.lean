import TrustedKeyring.Proofs.Pem.Block

/-!
# The first certificate of a text

A text carries a byte string if that is what its first certificate block encloses, after other
blocks and lines that begin none (`Carries`).  Then it is what is read from the text
(`certificate?_of_carries`), and such a text can be written (`carries_write`).
-/

namespace TrustedKeyring.Pem

variable {label content line lineEnd text more : Bytes} {header : List Bytes}

/-! ## Texts with certificates -/

/-- Whether a block can have this label: the BEGIN line, with either line end, is read as a whole
and hides nothing of it. -/
structure IsLabel (label : Bytes) : Prop where
  visible : 0 ∉ label
  unbroken : lineFeed ∉ label
  fits : (beginMark ++ label ++ tailMark).length + 1 < maxLine

def IsBlock (label content : Bytes) (header : List Bytes) (text : Bytes) : Prop :=
  ∃ lineEnd inner, IsLineEnd lineEnd ∧ Encloses label content header inner ∧
    text = beginMark ++ label ++ tailMark ++ lineEnd ++ inner ++ (endMark ++ label ++ tailMark)

/-- What may stand before a certificate: other blocks, and lines that begin none. -/
inductive Prologue : Bytes → Prop where
  | nil : Prologue []
  | line {line lineEnd rest : Bytes} :
      lineFeed ∉ line → ¬beginMark <:+: line → IsLineEnd lineEnd → Prologue rest →
      Prologue (line ++ lineEnd ++ rest)
  | block {label content : Bytes} {header : List Bytes} {text lineEnd rest : Bytes} :
      IsLabel label → label ∉ certificateLabels → content ≠ [] →
      IsBlock label content header text → IsLineEnd lineEnd → Prologue rest →
      Prologue (text ++ lineEnd ++ rest)

/-- Whether the first certificate block of a text encloses a byte string.  Anything may stand in
the lines after it. -/
def Carries (content text : Bytes) : Prop :=
  ∃ prologue label block after, Prologue prologue ∧ label ∈ certificateLabels ∧
    IsBlock label content [] block ∧
    (after = [] ∨ ∃ lineEnd rest, IsLineEnd lineEnd ∧ after = lineEnd ++ rest) ∧
    text = prologue ++ block ++ after

/-! ## The first certificate among lines -/

theorem length_le_of_readBlock {block : Block} {ls rest : List Bytes} {head : Bytes}
    (h : readBlock label block ls = some (head, content, rest)) : rest.length ≤ ls.length := by
  induction ls generalizing block with
  | nil => cases h
  | cons line ls ih =>
    rw [readBlock] at h
    split at h
    · cases h
    · exact Nat.le_succ_of_le (ih h)
    · split at h
      · cases h
      · cases h
      · cases h
        exact Nat.le_succ _

theorem length_unmark (ls : List Bytes) : (unmark ls).length = ls.length := by
  cases ls with
  | nil => rfl
  | cons line ls =>
    rw [unmark]
    split <;> rfl

theorem firstCertificate?_congr {fuel fuel' : Nat} {ls : List Bytes} (h : ls.length < fuel)
    (h' : ls.length < fuel') : firstCertificate? fuel ls = firstCertificate? fuel' ls := by
  induction fuel generalizing fuel' ls with
  | zero => exact absurd h (Nat.not_lt_zero _)
  | succ fuel ih =>
    obtain ⟨fuel', rfl⟩ : ∃ n, fuel' = n + 1 := ⟨fuel' - 1, by omega⟩
    cases ls with
    | nil => rfl
    | cons line ls =>
      rw [List.length_cons] at h h'
      rw [firstCertificate?, firstCertificate?]
      split
      · exact ih (by omega) (by omega)
      · split
        · rfl
        next label head content rest hblock =>
          have hless := length_le_of_readBlock hblock
          have hrest : (unmark rest).length < fuel := by rw [length_unmark]; omega
          have hrest' : (unmark rest).length < fuel' := by rw [length_unmark]; omega
          rw [ih hrest hrest']

def certificateAmong? (ls : List Bytes) : Option Bytes :=
  firstCertificate? (ls.length + 1) ls

theorem certificate?_eq (text : Bytes) :
    certificate? text = certificateAmong? (unmark (lines text)) := rfl

theorem certificateAmong?_of_none {ls : List Bytes} (hline : beginLabel? line = none) :
    certificateAmong? (line :: ls) = certificateAmong? ls := by
  rw [certificateAmong?, firstCertificate?, hline]
  rfl

theorem certificateAmong?_of_block {ls rest : List Bytes} {head : Bytes}
    (hline : beginLabel? line = some label)
    (hblock : readBlock label {} ls = some (head, content, rest)) :
    certificateAmong? (line :: ls) =
      if certificateLabels.contains label then if head.isEmpty then some content else none
      else certificateAmong? (unmark rest) := by
  have hless : (unmark rest).length ≤ ls.length :=
    (length_unmark rest).trans_le (length_le_of_readBlock hblock)
  have hrest : firstCertificate? (line :: ls).length (unmark rest) =
      certificateAmong? (unmark rest) :=
    firstCertificate?_congr (by rw [List.length_cons]; omega) (Nat.lt_succ_self _)
  rw [certificateAmong?, firstCertificate?, hline]
  simp only [hblock, hrest]

/-! ## Lines that begin no block -/

theorem beginLabel?_of_unmarked (h : ¬beginMark <+: trimLine line) : beginLabel? line = none := by
  rw [← List.isPrefixOf_iff_prefix] at h
  rw [beginLabel?, if_neg fun hmark => h hmark.1]

theorem exists_unmark_cons (line : Bytes) (ls : List Bytes) :
    ∃ rest, rest <:+ line ∧ unmark (line :: ls) = rest :: ls := by
  rw [unmark]
  split
  · exact ⟨_, List.drop_suffix _ _, rfl⟩
  · exact ⟨line, List.suffix_rfl, rfl⟩

/-- A line that begins no block is passed over, as is the rest of it after a byte order mark. -/
theorem certificateAmong?_cons {ls : List Bytes}
    (hnone : ∀ rest, rest <:+ line → ¬beginMark <+: trimLine rest) :
    certificateAmong? (line :: ls) = certificateAmong? ls ∧
      certificateAmong? (unmark (line :: ls)) = certificateAmong? ls := by
  obtain ⟨rest, hrest, hunmarked⟩ := exists_unmark_cons line ls
  rw [hunmarked]
  exact ⟨certificateAmong?_of_none (beginLabel?_of_unmarked (hnone line List.suffix_rfl)),
    certificateAmong?_of_none (beginLabel?_of_unmarked (hnone rest hrest))⟩

theorem not_isPrefix_trimLine (hmark : ¬beginMark <:+: line) {rest : Bytes}
    (hrest : rest <:+ line ++ [lineFeed]) : ¬beginMark <+: trimLine rest := by
  rcases List.suffix_concat_iff.mp hrest with rfl | ⟨start, rfl, hstart⟩
  · decide
  · rw [trimLine_append isTrailing_lineFeed]
    exact fun h => hmark ((h.trans (trimLine_isPrefix start)).isInfix.trans hstart.isInfix)

/-- A line without a BEGIN mark is passed over, whatever its length and wherever it stands. -/
theorem certificate?_lineFeed (hline : lineFeed ∉ line) (hmark : ¬beginMark <:+: line) :
    certificateAmong? (lines (line ++ lineFeed :: more)) = certificateAmong? (lines more) ∧
      certificate? (line ++ lineFeed :: more) = certificateAmong? (lines more) := by
  rw [certificate?_eq]
  induction line using pieceInduction with
  | short line hlength =>
    rw [lines_of_short hline hlength]
    exact certificateAmong?_cons fun rest hrest => not_isPrefix_trimLine hmark hrest
  | long line hlength ih =>
    have hpiece : line.take maxLine <:+: line := (List.take_prefix maxLine line).isInfix
    have hdropped : line.drop maxLine <:+: line := (List.drop_suffix maxLine line).isInfix
    obtain ⟨hmore, -⟩ :=
      ih (fun h => hline (hdropped.subset h)) fun h => hmark (h.trans hdropped)
    rw [lines_of_long hline hlength, ← hmore]
    exact certificateAmong?_cons fun rest hrest h =>
      hmark (((h.trans (trimLine_isPrefix rest)).isInfix.trans hrest.isInfix).trans hpiece)

theorem certificate?_line (hline : lineFeed ∉ line) (hmark : ¬beginMark <:+: line)
    (hend : IsLineEnd lineEnd) :
    certificateAmong? (lines (line ++ lineEnd ++ more)) = certificateAmong? (lines more) ∧
      certificate? (line ++ lineEnd ++ more) = certificateAmong? (lines more) := by
  obtain ⟨blanks, rfl, hblanks⟩ := hend.exists_blanks
  have hcut : line ++ (blanks ++ [lineFeed]) ++ more = line ++ blanks ++ lineFeed :: more := by
    simp only [List.append_assoc, List.cons_append, List.nil_append]
  rw [hcut]
  exact certificate?_lineFeed (lineFeed_not_mem_append hline hblanks)
    (not_infix_append (by decide) (by decide) hmark hblanks)

/-! ## Blocks -/

theorem trimLine_append_tailMark (line : Bytes) :
    trimLine (line ++ tailMark) = line ++ tailMark := by
  have hlast : line ++ tailMark = line ++ tailMark.dropLast ++ [45] := by
    rw [List.append_assoc]
    rfl
  rw [hlast, trimLine_of_last (by decide)]

theorem beginLabel?_of_isLabel (hlabel : IsLabel label) (hend : IsLineEnd lineEnd) :
    beginLabel? (beginMark ++ label ++ tailMark ++ lineEnd) = some label := by
  have htrim : trimLine (beginMark ++ label ++ tailMark ++ lineEnd) =
      beginMark ++ label ++ tailMark :=
    hend.trimLine_append.trans (trimLine_append_tailMark _)
  have hbegin : beginMark.isPrefixOf (beginMark ++ label ++ tailMark) = true := by
    rw [List.append_assoc]
    exact List.isPrefixOf_iff_prefix.mpr (List.prefix_append _ _)
  have htail : tailMark.isSuffixOf (beginMark ++ label ++ tailMark) = true := by
    rw [List.isSuffixOf_iff_suffix]
    exact List.suffix_append _ _
  have hbetween : ((beginMark ++ label ++ tailMark).drop beginMark.length).take
      ((beginMark ++ label ++ tailMark).length - beginMark.length - tailMark.length) = label := by
    rw [List.append_assoc, List.drop_left, List.length_append, List.length_append,
      Nat.add_sub_cancel_left, Nat.add_sub_cancel, List.take_left]
  have hvisible : visible label = label :=
    List.takeWhile_eq_self_iff.mpr fun b hb => by
      rw [bne_iff_ne]
      rintro rfl
      exact hlabel.visible hb
  rw [beginLabel?, htrim]
  simp only [hbegin, htail, and_self, if_true, hbetween, hvisible]

/-- The lines around a block are short enough to be read as a whole. -/
theorem IsLabel.frame (hlabel : IsLabel label) :
    lineFeed ∉ beginMark ++ label ++ tailMark ∧
      (beginMark ++ label ++ tailMark).length + 1 < maxLine ∧
      lineFeed ∉ endMark ++ label ++ tailMark ∧
      (endMark ++ label ++ tailMark).length + 1 < maxLine := by
  have hfits := hlabel.fits
  have hbegin : lineFeed ∉ beginMark := by decide
  have hend : lineFeed ∉ endMark := by decide
  have htail : lineFeed ∉ tailMark := by decide
  have hshorter : endMark.length ≤ beginMark.length := by decide
  simp only [List.length_append] at hfits
  simp only [List.mem_append, hbegin, hend, htail, hlabel.unbroken, or_false, not_false_iff,
    List.length_append, true_and]
  omega

/-- A block has no byte order mark before it. -/
theorem unmark_lines_block (hlabel : IsLabel label) (hblock : IsBlock label content header text)
    (more : Bytes) : unmark (lines (text ++ more)) = lines (text ++ more) := by
  obtain ⟨lineEnd, inner, hend, -, rfl⟩ := hblock
  obtain ⟨hunbroken, hfits, -, -⟩ := hlabel.frame
  simp only [List.append_assoc] at hunbroken hfits ⊢
  rw [← List.append_assoc label, ← List.append_assoc beginMark,
    ← List.append_assoc _ lineEnd, lines_append_lineEnd hunbroken hfits hend, unmark]
  apply if_neg
  rintro ⟨-, hmarked⟩
  cases hmarked

/-- A block with what follows its END line is read as what it encloses. -/
theorem certificateAmong?_block (hlabel : IsLabel label) (hcontent : content ≠ [])
    (hblock : IsBlock label content header text) {closing : Bytes} {rest : List Bytes}
    (hclosing : lines (endMark ++ label ++ tailMark ++ more) = closing :: rest)
    (hline : trimLine closing = endMark ++ label ++ tailMark)
    (hcolon : colon ∈ closing → colon ∈ label) :
    ∃ head : Bytes, (header = [] → head = []) ∧ certificateAmong? (lines (text ++ more)) =
      if certificateLabels.contains label then if head.isEmpty then some content else none
      else certificateAmong? (unmark rest) := by
  obtain ⟨lineEnd, inner, hend, hencloses, rfl⟩ := hblock
  obtain ⟨hunbroken, hfits, -, -⟩ := hlabel.frame
  obtain ⟨head, hread, hempty⟩ := readBlock_of_encloses hencloses hcontent hclosing hline hcolon
  refine ⟨head, hempty, ?_⟩
  rw [← certificateAmong?_of_block (beginLabel?_of_isLabel hlabel hend) hread,
    ← lines_append_lineEnd hunbroken hfits hend]
  simp only [List.append_assoc]

theorem trimLine_end (hend : IsLineEnd lineEnd) :
    trimLine (endMark ++ label ++ tailMark ++ lineEnd) = endMark ++ label ++ tailMark :=
  hend.trimLine_append.trans (trimLine_append_tailMark _)

theorem colon_mem_of_end (h : colon ∈ endMark ++ label ++ tailMark) : colon ∈ label := by
  have hend : colon ∉ endMark := by decide
  have htail : colon ∉ tailMark := by decide
  simpa only [List.mem_append, hend, htail, false_or, or_false] using h

theorem certificateAmong?_otherBlock (hlabel : IsLabel label)
    (hother : label ∉ certificateLabels) (hcontent : content ≠ [])
    (hblock : IsBlock label content header text) (hend : IsLineEnd lineEnd) :
    certificateAmong? (lines (text ++ lineEnd ++ more)) = certificate? more := by
  obtain ⟨-, -, hunbroken, hfits⟩ := hlabel.frame
  have hcolon (h : colon ∈ endMark ++ label ++ tailMark ++ lineEnd) : colon ∈ label :=
    colon_mem_of_end ((List.mem_append.mp h).resolve_right hend.colon_not_mem)
  have hclosing : lines (endMark ++ label ++ tailMark ++ (lineEnd ++ more)) =
      (endMark ++ label ++ tailMark ++ lineEnd) :: lines more := by
    rw [← List.append_assoc, lines_append_lineEnd hunbroken hfits hend]
  obtain ⟨head, -, hread⟩ :=
    certificateAmong?_block hlabel hcontent hblock hclosing (trimLine_end hend) hcolon
  rw [List.append_assoc, hread, if_neg (by simpa using hother), certificate?_eq]

theorem isLabel_of_mem (h : label ∈ certificateLabels) : IsLabel label := by
  simp only [certificateLabels, List.mem_cons, List.not_mem_nil, or_false] at h
  rcases h with rfl | rfl <;> exact ⟨by decide, by decide, by decide⟩

theorem certificateAmong?_firstBlock (hlabel : label ∈ certificateLabels)
    (hcontent : content ≠ []) (hblock : IsBlock label content [] text)
    (hmore : more = [] ∨ ∃ lineEnd rest, IsLineEnd lineEnd ∧ more = lineEnd ++ rest) :
    certificateAmong? (lines (text ++ more)) = some content := by
  have hvalid := isLabel_of_mem hlabel
  obtain ⟨-, -, hunbroken, hfits⟩ := hvalid.frame
  obtain ⟨closing, rest, hclosing, hline, hcolon⟩ :
      ∃ closing rest, lines (endMark ++ label ++ tailMark ++ more) = closing :: rest ∧
        trimLine closing = endMark ++ label ++ tailMark ∧ (colon ∈ closing → colon ∈ label) := by
    rcases hmore with rfl | ⟨lineEnd, rest, hend, rfl⟩
    · refine ⟨_, [], ?_, trimLine_append_tailMark _, colon_mem_of_end⟩
      rw [List.append_nil, lines_last hunbroken (by simp [endMark, Bytes.ascii]) (by omega)]
    · refine ⟨_, lines rest, ?_, trimLine_end hend, fun h =>
        colon_mem_of_end ((List.mem_append.mp h).resolve_right hend.colon_not_mem)⟩
      rw [← List.append_assoc, lines_append_lineEnd hunbroken hfits hend]
  obtain ⟨head, hempty, hread⟩ :=
    certificateAmong?_block hvalid hcontent hblock hclosing hline hcolon
  rw [hread, if_pos (by simpa using hlabel), hempty rfl]
  rfl

/-! ## Whole texts -/

/-- What stands before a block is passed over. -/
theorem certificate?_prologue (h : Prologue text) (hmore : unmark (lines more) = lines more) :
    certificateAmong? (lines (text ++ more)) = certificateAmong? (lines more) ∧
      certificate? (text ++ more) = certificateAmong? (lines more) := by
  induction h with
  | nil =>
    rw [List.nil_append, certificate?_eq, hmore]
    exact ⟨rfl, rfl⟩
  | line hline hmark hend _ ih =>
    rw [List.append_assoc, ← ih.1]
    exact certificate?_line hline hmark hend
  | block hlabel hother hcontent hblock hend _ ih =>
    rw [List.append_assoc, ← ih.2]
    constructor
    · exact certificateAmong?_otherBlock hlabel hother hcontent hblock hend
    · rw [certificate?_eq, List.append_assoc, unmark_lines_block hlabel hblock,
        ← List.append_assoc]
      exact certificateAmong?_otherBlock hlabel hother hcontent hblock hend

/-- A certificate is read from a text that carries it. -/
theorem certificate?_of_carries (h : Carries content text) (hcontent : content ≠ []) :
    certificate? text = some content := by
  obtain ⟨prologue, label, block, after, hprologue, hlabel, hblock, hafter, rfl⟩ := h
  have hunmarked := unmark_lines_block (isLabel_of_mem hlabel) hblock after
  obtain ⟨-, hread⟩ := certificate?_prologue hprologue hunmarked
  rw [List.append_assoc, hread, certificateAmong?_firstBlock hlabel hcontent hblock hafter]

/-! ## Texts that are written -/

theorem exists_isBlock_write (hend : IsLineEnd lineEnd) (hlabel : colon ∉ label) (content : Bytes) :
    ∃ block, IsBlock label content [] block ∧ write lineEnd label content = block ++ lineEnd := by
  have hpos : 0 < bodyLine := by decide
  refine ⟨_, ⟨lineEnd, _, hend, .plain hlabel (Bytes.nil_not_mem_pieces hpos _)
    (Bytes.flatten_pieces hpos _) (written_flatMap hend _), rfl⟩, ?_⟩
  simp only [write, List.append_assoc]

theorem prologue_write (hend : IsLineEnd lineEnd) (hlabel : IsLabel label) (hcolon : colon ∉ label)
    (hother : label ∉ certificateLabels) (hcontent : content ≠ []) (hmore : Prologue more) :
    Prologue (write lineEnd label content ++ more) := by
  obtain ⟨block, hblock, heq⟩ := exists_isBlock_write hend hcolon content
  rw [heq]
  exact .block hlabel hother hcontent hblock hend hmore

/-- A certificate that was written after a prologue is carried, whatever follows. -/
theorem carries_write (hend : IsLineEnd lineEnd) (hlabel : label ∈ certificateLabels)
    {prologue : Bytes} (hprologue : Prologue prologue) (content more : Bytes) :
    Carries content (prologue ++ write lineEnd label content ++ more) := by
  have hcolon : colon ∉ label := by
    simp only [certificateLabels, List.mem_cons, List.not_mem_nil, or_false] at hlabel
    rcases hlabel with rfl | rfl <;> decide
  obtain ⟨block, hblock, heq⟩ := exists_isBlock_write hend hcolon content
  refine ⟨prologue, label, block, lineEnd ++ more, hprologue, hlabel, hblock,
    .inr ⟨lineEnd, more, hend, rfl⟩, ?_⟩
  rw [heq]
  simp only [List.append_assoc]

end TrustedKeyring.Pem
