import TrustedKeyring.Proofs.Pem.Written

/-!
# Reading a block

What a line does to a block is said once for each kind of line.  The lines before the body are
gathered, whatever their length (`readBlock_written`), and those of the body come after an empty
line (`readBlock_body`).  So a block is read as what it encloses (`readBlock_of_encloses`).
-/

namespace TrustedKeyring.Pem

open Base64 (IsSymbol)

variable {label content line lineEnd text more : Bytes} {block block' : Block}

/-! ## Single lines -/

def Block.next (block : Block) (line : Bytes) : Section :=
  if block.part = .undecided ∧ line.contains colon then .header else block.part

theorem Block.next_of_colon_not_mem (hline : colon ∉ line) : block.next line = block.part := by
  simp [Block.next, hline]

theorem Block.next_of_body (hpart : block.part = .body) : block.next line = .body := by
  simp [Block.next, hpart]

theorem Block.next_ne_body (hpart : block.part ≠ .body) (line : Bytes) :
    block.next line ≠ .body := by
  unfold Block.next
  split
  · nofun
  · exact hpart

/-- The section as the reader computes it, which the lemmas below fold up. -/
theorem Block.next_fold (block : Block) (line : Bytes) :
    (if block.part = .undecided ∧ line.contains 58 = true then Section.header else block.part) =
      block.next line :=
  rfl

/-- What is left of a line that was split for its length may be blank. -/
theorem readLine_split (label : Bytes) (hblank : trimLine line = [])
    (hsplit : block.isSplit = true) :
    block.readLine label line =
      .reading { block with part := block.next line, isSplit := isSplit line } := by
  simp only [Block.readLine, Block.next_fold, hblank, hsplit, List.isEmpty_nil, if_true]

theorem readLine_blank (label : Bytes) (hblank : trimLine line = [])
    (hsplit : block.isSplit = false) (hpart : block.part ≠ .body) :
    block.readLine label line =
      .reading { block with part := .body, isSplit := isSplit line } := by
  simp only [Block.readLine, Block.next_fold, hblank, hsplit, List.isEmpty_nil, if_true,
    Bool.false_eq_true, if_false, Block.next_ne_body hpart]

theorem readLine_header (label : Bytes) (hblank : trimLine line ≠ [])
    (hendless : ¬endMark <+: trimLine line) (hended : block.isEnded = false)
    (hpart : block.part ≠ .body) :
    block.readLine label line =
      .reading { block with
        part := block.next line
        header := block.header ++ visible (trimLine line ++ [lineFeed])
        isSplit := isSplit line } := by
  simp only [Block.readLine, Block.next_fold, List.isEmpty_iff, hblank, List.isPrefixOf_iff_prefix,
    hendless, hended, Bool.false_eq_true, if_false, Block.next_ne_body hpart]

theorem readLine_body (label : Bytes) (hblank : trimLine line ≠ [])
    (hendless : ¬endMark <+: trimLine line) (hended : block.isEnded = false)
    (hpart : block.part = .body) (hlength : (trimLine line).length ≤ bodyLine) :
    block.readLine label line =
      .reading { block with
        part := .body
        body := block.body ++ visible (trimLine line ++ [lineFeed])
        isSplit := isSplit line
        isEnded := (trimLine line).length < bodyLine } := by
  simp only [Block.readLine, Block.next_fold, List.isEmpty_iff, hblank, List.isPrefixOf_iff_prefix,
    hendless, hended, Bool.false_eq_true, if_false, Block.next_of_body hpart, if_true,
    Nat.not_lt.mpr hlength]

theorem readLine_end (block : Block) (hline : trimLine line = endMark ++ label ++ tailMark) :
    block.readLine label line =
      if block.next line = .undecided then .finished [] block.header
      else .finished block.header block.body := by
  have hblank : trimLine line ≠ [] := by rw [hline]; simp [endMark, tailMark, Bytes.ascii]
  have hmark : endMark <+: trimLine line := by
    rw [hline, List.append_assoc]
    exact List.prefix_append _ _
  simp only [Block.readLine, Block.next_fold, List.isEmpty_iff, hblank, List.isPrefixOf_iff_prefix,
    hmark, if_false, if_true, eq_true hline]
  rfl

/-! ## Lines before the body -/

structure Block.Leads (block : Block) : Prop where
  part : block.part ≠ .body
  body : block.body = []
  isEnded : block.isEnded = false

/-- What a text before the body makes of a block.  Without a colon it does not settle that there is
a header, which may be the body. -/
structure Block.Gathers (block : Block) (text : Bytes) (block' : Block) : Prop where
  leads : block'.Leads
  part : colon ∉ text → block'.part = block.part
  header : IsClean text → symbols block'.header = symbols block.header ++ symbols text

theorem Block.leads_empty : Block.Leads {} :=
  ⟨nofun, rfl, rfl⟩

theorem Block.Leads.gathers_nil (h : block.Leads) : block.Gathers [] block :=
  ⟨h, fun _ => rfl, fun _ => (List.append_nil _).symm⟩

theorem Block.Gathers.append {between : Block} (h : block.Gathers text between)
    (h' : between.Gathers more block') : block.Gathers (text ++ more) block' where
  leads := h'.leads
  part hcolon := by
    rw [List.mem_append, not_or] at hcolon
    exact (h'.part hcolon.2).trans (h.part hcolon.1)
  header hclean := by
    rw [isClean_append] at hclean
    rw [h'.header hclean.2, h.header hclean.1, List.append_assoc, symbols_append]

/-- A line before the body is gathered; only a piece of a line that was split may be blank. -/
theorem readLine_leading (label line : Bytes) (hleads : block.Leads)
    (hendless : ¬endMark <+: trimLine line)
    (hstarted : block.isSplit = true ∨ trimLine line ≠ []) :
    ∃ block', block.readLine label line = .reading block' ∧ block.Gathers line block' ∧
      block'.isSplit = isSplit line := by
  have hnext := Block.next_ne_body hleads.part line
  by_cases hblank : trimLine line = []
  · have hsplit : block.isSplit = true := hstarted.resolve_right fun h => h hblank
    refine ⟨_, readLine_split label hblank hsplit, ⟨⟨hnext, hleads.body, hleads.isEnded⟩,
      Block.next_of_colon_not_mem, fun hclean => ?_⟩, rfl⟩
    rw [← symbols_trimLine hclean, hblank]
    exact (List.append_nil _).symm
  · refine ⟨_, readLine_header label hblank hendless hleads.isEnded hleads.part,
      ⟨⟨hnext, hleads.body, hleads.isEnded⟩, Block.next_of_colon_not_mem, fun hclean => ?_⟩, rfl⟩
    rw [symbols_append, symbols_visible hclean]

theorem readBlock_of_reading {rest : List Bytes}
    (h : block.readLine label line = .reading block') :
    readBlock label block (line :: rest) = readBlock label block' rest := by
  rw [readBlock, h]

/-- A whole line before the body is gathered piece by piece, if it does not start blank. -/
theorem readBlock_leading (label : Bytes) (hleads : block.Leads) (hline : lineFeed ∉ line)
    (hendless : ¬endMark <:+: line)
    (hstarted : block.isSplit = true ∨ ∃ b ∈ line.take maxLine, isTrailing b = false) :
    ∃ block', block.Gathers (line ++ [lineFeed]) block' ∧ block'.isSplit = false ∧
      ∀ more, readBlock label block (lines (line ++ lineFeed :: more)) =
        readBlock label block' (lines more) := by
  -- a line longer than the limit comes in pieces, each of which leaves the block gathering
  induction line using pieceInduction generalizing block with
  | short line hlength =>
    have htrim : trimLine (line ++ [lineFeed]) = trimLine line :=
      trimLine_append isTrailing_lineFeed
    obtain ⟨block', hread, hgathers, hsplit⟩ :=
      readLine_leading label (line ++ [lineFeed]) hleads
        (fun h => hendless ((htrim ▸ h).trans (trimLine_isPrefix line)).isInfix)
        (hstarted.imp_right fun ⟨b, hb, htext⟩ =>
          htrim ▸ trimLine_ne_nil (List.mem_of_mem_take hb) htext)
    refine ⟨block', hgathers, hsplit.trans isSplit_of_short, fun more => ?_⟩
    rw [lines_of_short hline hlength, readBlock_of_reading hread]
  | long line hlength ih =>
    have hpiece : line.take maxLine <:+: line := (List.take_prefix maxLine line).isInfix
    have hrest : line.drop maxLine <:+: line := (List.drop_suffix _ _).isInfix
    obtain ⟨between, hread, hgathers, hsplit⟩ :=
      readLine_leading label (line.take maxLine) hleads
        (fun h => hendless ((h.trans (trimLine_isPrefix _)).isInfix.trans hpiece))
        (hstarted.imp_right fun ⟨b, hb, htext⟩ => trimLine_ne_nil hb htext)
    obtain ⟨block', hgathers', hsplit', hread'⟩ :=
      ih hgathers.leads (fun h => hline (hrest.subset h)) (fun h => hendless (h.trans hrest))
        (.inl (hsplit.trans (isSplit_of_long hline hlength)))
    refine ⟨block', ?_, hsplit', fun more => ?_⟩
    · have hboth := hgathers.append hgathers'
      rwa [← List.append_assoc, List.take_append_drop] at hboth
    · rw [lines_of_long hline hlength, readBlock_of_reading hread, hread']

theorem readBlock_line (label : Bytes) (hleads : block.Leads) (hline : IsLeading line)
    (hend : IsLineEnd lineEnd) :
    ∃ block', block.Gathers (line ++ lineEnd) block' ∧ block'.isSplit = false ∧
      ∀ more, readBlock label block (lines (line ++ lineEnd ++ more)) =
        readBlock label block' (lines more) := by
  obtain ⟨blanks, rfl, hblanks⟩ := hend.exists_blanks
  have hstarted : ∃ b ∈ (line ++ blanks).take maxLine, isTrailing b = false := by
    obtain ⟨b, hb, htext⟩ := hline.started
    rw [List.take_append]
    exact ⟨b, List.mem_append_left _ hb, htext⟩
  obtain ⟨block', hgathers, hsplit, hread⟩ :=
    readBlock_leading label hleads (lineFeed_not_mem_append hline.unbroken hblanks)
      (not_infix_append (by decide) (by decide) hline.endless hblanks) (.inr hstarted)
  refine ⟨block', ?_, hsplit, fun more => ?_⟩
  · rwa [← List.append_assoc]
  · rw [← hread more, List.append_assoc, List.append_assoc, List.append_assoc]
    rfl

/-- Lines before the body are gathered one after the other. -/
theorem readBlock_written (label : Bytes) {ls : List Bytes} (hwritten : Written ls text)
    (hleads : block.Leads) (hsplit : block.isSplit = false) (hlines : ∀ line ∈ ls, IsLeading line) :
    ∃ block', block.Gathers text block' ∧ block'.isSplit = false ∧ (ls = [] → block' = block) ∧
      ∀ more, readBlock label block (lines (text ++ more)) =
        readBlock label block' (lines more) := by
  induction hwritten generalizing block with
  | nil => exact ⟨block, hleads.gathers_nil, hsplit, fun _ => rfl, fun _ => rfl⟩
  | @cons line lineEnd ls text hend _ ih =>
    rw [List.forall_mem_cons] at hlines
    obtain ⟨between, hgathers, hsplit, hread⟩ := readBlock_line label hleads hlines.1 hend
    obtain ⟨block', hgathers', hsplit', -, hread'⟩ := ih hgathers.leads hsplit hlines.2
    refine ⟨block', hgathers.append hgathers', hsplit', nofun, fun more => ?_⟩
    rw [List.append_assoc _ text, hread, hread']

/-! ## The body after an empty line -/

theorem readBlock_bodyLine (label : Bytes) (hne : line ≠ []) (hline : ∀ c ∈ line, IsSymbol c)
    (hlength : line.length ≤ bodyLine) (hend : IsLineEnd lineEnd) (hpart : block.part = .body)
    (hended : block.isEnded = false) :
    ∃ block', block'.part = .body ∧ block'.header = block.header ∧
      block'.isEnded = decide (line.length < bodyLine) ∧
      symbols block'.body = symbols block.body ++ line ∧
      ∀ more, readBlock label block (lines (line ++ lineEnd ++ more)) =
        readBlock label block' (lines more) := by
  have hleading := isLeading_symbols hne hline
  have htrim : trimLine (line ++ lineEnd) = line :=
    hend.trimLine_append.trans (trimLine_symbols hline)
  have hne' : trimLine (line ++ lineEnd) ≠ [] := htrim.symm ▸ hne
  have hendless : ¬endMark <+: trimLine (line ++ lineEnd) :=
    htrim.symm ▸ fun h => hleading.endless h.isInfix
  have hread := readLine_body label hne' hendless hended hpart (htrim.symm ▸ hlength)
  rw [htrim] at hread
  refine ⟨{ block with
      part := .body
      body := block.body ++ visible (line ++ [lineFeed])
      isSplit := isSplit (line ++ lineEnd)
      isEnded := line.length < bodyLine }, rfl, rfl, rfl, ?_, fun more => ?_⟩
  · have hadded := symbols_visible (isClean_symbols hline)
    rw [trimLine_symbols hline, symbols_eq_self hline] at hadded
    rw [symbols_append, hadded]
  · have hfits : line.length + 1 < maxLine :=
      Nat.lt_of_le_of_lt (Nat.succ_le_succ hlength) (by decide)
    rw [lines_append_lineEnd hleading.unbroken hfits hend, readBlock_of_reading hread]

/-- A body in full lines, of which the last may be shorter. -/
theorem readBlock_body (label : Bytes) (block : Block) {octets : Bytes}
    (hoctets : ∀ c ∈ octets, IsSymbol c)
    (hwritten : Written (Bytes.pieces bodyLine octets) text) (hpart : block.part = .body)
    (hended : block.isEnded = false) :
    ∃ block', block'.part = .body ∧ block'.header = block.header ∧
      symbols block'.body = symbols block.body ++ octets ∧
      ∀ more, readBlock label block (lines (text ++ more)) =
        readBlock label block' (lines more) := by
  have hpos : 0 < bodyLine := by decide
  induction octets using Bytes.cutInduction hpos generalizing block text with
  | nil =>
    cases hwritten
    exact ⟨block, hpart, rfl, (List.append_nil _).symm, fun _ => rfl⟩
  | cut octets hnil ih =>
    rw [Bytes.pieces_of_ne_nil hpos hnil] at hwritten
    obtain ⟨lineEnd, rest, rfl, hend, hrest⟩ :
        ∃ lineEnd rest, text = octets.take bodyLine ++ lineEnd ++ rest ∧ IsLineEnd lineEnd ∧
          Written (Bytes.pieces bodyLine (octets.drop bodyLine)) rest := by
      cases hwritten with
      | cons hend hrest => exact ⟨_, _, rfl, hend, hrest⟩
    have hne : octets.take bodyLine ≠ [] := by
      rw [Ne, List.take_eq_nil_iff, not_or]
      exact ⟨by decide, hnil⟩
    obtain ⟨between, hpart₁, hheader, hended₁, hbody, hread⟩ :=
      readBlock_bodyLine label hne (fun c hc => hoctets c (List.mem_of_mem_take hc))
        (List.length_take_le _ _) hend hpart hended
    -- Only a full line may be followed by another.
    by_cases hlast : octets.length ≤ bodyLine
    · rw [List.drop_eq_nil_of_le hlast] at hrest
      cases hrest
      rw [List.take_of_length_le hlast] at hread hbody ⊢
      refine ⟨between, hpart₁, hheader, hbody, fun more => ?_⟩
      rw [List.append_nil, hread]
    · have hfull : (octets.take bodyLine).length = bodyLine := by
        rw [List.length_take, Nat.min_eq_left (Nat.le_of_not_le hlast)]
      rw [hfull, decide_eq_false (Nat.lt_irrefl _)] at hended₁
      obtain ⟨block', hpart', hheader', hbody', hread'⟩ :=
        ih between (fun c hc => hoctets c (List.mem_of_mem_drop hc)) hrest hpart₁ hended₁
      refine ⟨block', hpart', hheader'.trans hheader, ?_, fun more => ?_⟩
      · rw [hbody', hbody, List.append_assoc, List.take_append_drop]
      · rw [List.append_assoc _ rest, hread, hread']

/-! ## Whole blocks -/

theorem readBlock_of_finished {header body : Bytes} {rest : List Bytes}
    (h : block.readLine label line = .finished header body)
    (hbody : symbols body = Base64.encode content) (hcontent : content ≠ []) :
    readBlock label block (line :: rest) = some (header, content, rest) := by
  have hdecode := Base64.decode?_of_filter_eq_encode hbody
  cases content with
  | nil => exact absurd rfl hcontent
  | cons b content => simp only [readBlock, h, hdecode]

/-- A block is read as what it encloses, up to the END line, and without header if it has none. -/
theorem readBlock_of_encloses {header : List Bytes} {inner closing : Bytes} {rest : List Bytes}
    (hencloses : Encloses label content header inner) (hcontent : content ≠ [])
    (hclosing : lines closing = line :: rest) (hline : trimLine line = endMark ++ label ++ tailMark)
    (hcolon : colon ∈ line → colon ∈ label) :
    ∃ head, readBlock label {} (lines (inner ++ closing)) = some (head, content, rest) ∧
      (header = [] → head = []) := by
  have hsymbol := Base64.isSymbol_of_mem_encode content
  cases hencloses with
  -- without a colon, what was taken for a header is the body
  | @plain pieces _ hlabel hpieces hflatten hwritten =>
    have hsymbols : ∀ piece ∈ pieces, ∀ c ∈ piece, IsSymbol c := fun piece hpiece c hc =>
      hsymbol c (hflatten ▸ List.mem_flatten_of_mem hpiece hc)
    obtain ⟨block', hgathers, -, -, hread⟩ :=
      readBlock_written label hwritten Block.leads_empty rfl fun piece hpiece =>
        isLeading_symbols (fun hnil => hpieces (hnil ▸ hpiece)) (hsymbols piece hpiece)
    obtain ⟨hclean, hplain, hcounted⟩ := hwritten.symbols_eq hsymbols
    have hnext : block'.next line = .undecided :=
      (Block.next_of_colon_not_mem fun h => hlabel (hcolon h)).trans (hgathers.part hplain)
    have hheader : symbols block'.header = Base64.encode content :=
      (hgathers.header hclean).trans (hcounted.trans hflatten)
    have hfinish := readLine_end block' hline
    rw [if_pos hnext] at hfinish
    refine ⟨[], ?_, fun _ => rfl⟩
    rw [hread, hclosing]
    exact readBlock_of_finished hfinish hheader hcontent
  | @headed _ head lineEnd body hleading hhead hend hbody =>
    obtain ⟨between, hgathers, hsplit, hempty, hread⟩ :=
      readBlock_written label hhead Block.leads_empty rfl hleading
    have hblank : trimLine lineEnd = [] := by cases hend <;> decide
    have hblankLine : ∀ more, lines (lineEnd ++ more) = lineEnd :: lines more := fun more =>
      lines_append_lineEnd List.not_mem_nil (by decide) hend
    -- the blank line ends the header
    have hturn := readLine_blank label hblank hsplit hgathers.leads.part
    obtain ⟨block', hpart, hheader, hoctets, hread'⟩ :=
      readBlock_body label { between with part := .body, isSplit := isSplit lineEnd } hsymbol hbody
        rfl hgathers.leads.isEnded
    rw [hgathers.leads.body] at hoctets
    have hfinish := readLine_end block' hline
    rw [Block.next_of_body hpart, if_neg nofun] at hfinish
    refine ⟨block'.header, ?_, fun hnone => ?_⟩
    · rw [List.append_assoc _ body, List.append_assoc, hread, hblankLine,
        readBlock_of_reading hturn, hread', hclosing]
      exact readBlock_of_finished hfinish hoctets hcontent
    · rw [hheader, hempty hnone]

end TrustedKeyring.Pem
