/-
StaticSite.Proofs.Markdown.ProseBlocks — lines of prose are the paragraphs of a text.

What is read is the text with its blank lines cleared (`IsCleared`), and as there is
no markup in it, it is read as it stands (`extractRaw_eq_ofChars`). Two line ends
divide blocks. Where there are more of them an empty block is left, or a block that
starts with a line end: either way that line end is dropped (`AreBlocks`), and what
remains is one paragraph a line (`IsSpaced.outlineOf`).
-/
import StaticSite.Proofs.Markdown.PlainSource
import StaticSite.Proofs.Markdown.ProseLines

namespace StaticSite.Markdown

open StaticSite.Text

/-! ## 1. Clearing blank lines -/

/-- The lines with empty lines between them, each one line end more, and two at the end. -/
inductive IsCleared : List Line → List Char → Prop where
  | one (line : Line) : IsCleared [line] (line.source ++ ['\n', '\n'])
  | cons {lines : List Line} {s : List Char} (line : Line) (more : Nat) (h : IsCleared lines s) :
      IsCleared (line :: lines)
        (line.source ++ '\n' :: '\n' :: (List.replicate more '\n' ++ s))

/-- A line after the first, without the spaces if it has nothing else. -/
def clearedLine (line : List Char) : List Char :=
  if line.all (· == ' ') then [] else line

section

variable {lines : List Line} {s : List Char}

theorem IsSpaced.mem (h : IsSpaced lines s) {c : Char} (hc : c ∈ s) :
    isProseChar c = true ∨ c = '\n' := by
  induction h with
  | one line => exact .inl (line.areRuns.isProseChar c hc)
  | @cons lines s line spaces hne h ih =>
    rcases List.mem_append.mp hc with hc | hc
    · exact .inl (line.areRuns.isProseChar c hc)
    rcases List.mem_cons.mp hc with rfl | hc
    · exact .inr rfl
    rcases List.mem_append.mp hc with hc | hc
    · obtain ⟨n, -, hc⟩ := List.mem_flatMap.mp hc
      rcases List.mem_append.mp hc with hc | hc
      · rw [List.eq_of_mem_replicate hc]
        exact .inl (by decide)
      · exact .inr (List.mem_singleton.mp hc)
    · exact ih hc

theorem IsSpaced.not_mem (h : IsSpaced lines s) {c : Char} (hc : isProseChar c = false)
    (hne : c ≠ '\n') : c ∉ s := by
  intro hmem
  rcases h.mem hmem with hprose | heq
  · rw [hprose] at hc
    cases hc
  · exact hne heq

theorem expandTabs_of_not_mem (h : '\t' ∉ s) (column : Nat) : expandTabs column s = s := by
  induction s generalizing column with
  | nil => rfl
  | cons c s ih =>
    rw [List.mem_cons, not_or] at h
    have hc : (c == '\t') = false := beq_eq_false_iff_ne.mpr (Ne.symm h.1)
    rw [expandTabs, hc, if_neg Bool.false_ne_true, ih h.2, ih h.2, ite_self]

theorem clearedLine_source (line : Line) : clearedLine line.source = line.source := by
  obtain ⟨c, s, hsource, hc⟩ := line.exists_cons
  have hne : (c == ' ') = false :=
    beq_eq_false_iff_ne.mpr (ne_of_not (p := fun c => !isBlank c) (by rw [hc]; rfl) (by decide))
  rw [hsource, clearedLine, List.all_cons, hne, Bool.false_and, if_neg Bool.false_ne_true]

theorem clearedLine_replicate (n : Nat) : clearedLine (List.replicate n ' ') = [] := by
  rw [clearedLine, if_pos]
  exact List.all_eq_true.mpr fun c hc => beq_iff_eq.mpr (List.eq_of_mem_replicate hc)

theorem Line.splitOn_source (line : Line) (s : List Char) :
    splitOn (· == '\n') (line.source ++ '\n' :: s) = line.source :: splitOn (· == '\n') s := by
  have hnone : ∀ c ∈ line.source, (c == '\n') = false := by
    intro c hc
    refine beq_eq_false_iff_ne.mpr ?_
    rintro rfl
    exact line.not_mem (by decide) hc
  rw [splitOn_append_cons rfl, splitOn_of_none hnone, List.singleton_append]

theorem splitOn_spaces (n : Nat) (s : List Char) :
    splitOn (· == '\n') (List.replicate n ' ' ++ ['\n'] ++ s) =
      List.replicate n ' ' :: splitOn (· == '\n') s := by
  have hnone : ∀ c ∈ List.replicate n ' ', (c == '\n') = false := by
    intro c hc
    rw [List.eq_of_mem_replicate hc]
    rfl
  rw [List.append_assoc, List.singleton_append, splitOn_append_cons rfl, splitOn_of_none hnone,
    List.singleton_append]

/-- Clearing leaves one line end of each line of spaces. -/
theorem joinLists_cleared_spaces (spaces : List Nat) (s : List Char) :
    joinLists ['\n'] ((splitOn (· == '\n')
      (spaces.flatMap (fun n => List.replicate n ' ' ++ ['\n']) ++ s)).map clearedLine) =
      List.replicate spaces.length '\n' ++
        joinLists ['\n'] ((splitOn (· == '\n') s).map clearedLine) := by
  induction spaces with
  | nil => rfl
  | cons n spaces ih =>
    rw [List.flatMap_cons, List.append_assoc, splitOn_spaces, List.map_cons, clearedLine_replicate,
      joinLists_cons (by simp [splitOn_ne_nil]), ih]
    rfl

theorem IsSpaced.cleared (h : IsSpaced lines s) :
    IsCleared lines
      (joinLists ['\n'] ((splitOn (· == '\n') (s ++ ['\n', '\n'])).map clearedLine)) := by
  induction h with
  | one line =>
    rw [line.splitOn_source, List.map_cons, clearedLine_source, joinLists_cons (by decide),
      List.append_assoc]
    exact .one line
  | @cons lines s line spaces hne h ih =>
    obtain ⟨n, spaces, rfl⟩ := List.exists_cons_of_ne_nil hne
    rw [List.append_assoc, List.cons_append, line.splitOn_source, List.map_cons,
      clearedLine_source, joinLists_cons (by simp [splitOn_ne_nil]), List.append_assoc _ s,
      joinLists_cleared_spaces, List.append_assoc]
    exact .cons line spaces.length ih

/-- The first line has no spaces to lose. -/
theorem IsSpaced.clearLines (h : IsSpaced lines s) :
    clearLines (splitOn (· == '\n') (s ++ ['\n', '\n'])) =
      (splitOn (· == '\n') (s ++ ['\n', '\n'])).map clearedLine := by
  have hfirst : ∃ line rest,
      splitOn (· == '\n') (s ++ ['\n', '\n']) = Line.source line :: rest := by
    cases h with
    | one line => exact ⟨line, _, line.splitOn_source _⟩
    | cons line spaces hne h =>
      rw [List.append_assoc, List.cons_append]
      exact ⟨line, _, line.splitOn_source _⟩
  obtain ⟨line, rest, hsplit⟩ := hfirst
  rw [hsplit, List.map_cons, clearedLine_source]
  rfl

/-- Blank lines lose their spaces; nothing else is changed before reading. -/
theorem IsSpaced.normalized (h : IsSpaced lines s) : IsCleared lines (normalized s) := by
  have hfilter : s.filter (fun c => !isReserved c) = s := by
    refine List.filter_eq_self.mpr fun c hc => ?_
    have h₂ : c ≠ '\x02' := fun heq => h.not_mem (by decide) (by decide) (heq ▸ hc)
    have h₃ : c ≠ '\x03' := fun heq => h.not_mem (by decide) (by decide) (heq ▸ hc)
    simp [isReserved, h₂, h₃]
  have hreturn : '\r' ∉ s := h.not_mem (by decide) (by decide)
  have htab : '\t' ∉ s ++ ['\n', '\n'] := by simp [h.not_mem (c := '\t') (by decide) (by decide)]
  rw [Markdown.normalized, hfilter, unifyLineEnds_of_not_mem hreturn, expandTabs_of_not_mem htab,
    h.clearLines]
  exact h.cleared

theorem IsCleared.mem (h : IsCleared lines s) {c : Char} (hc : c ∈ s) :
    isProseChar c = true ∨ c = '\n' := by
  induction h with
  | one line =>
    rcases List.mem_append.mp hc with hc | hc
    · exact .inl (line.areRuns.isProseChar c hc)
    · exact .inr (by simpa using hc)
  | @cons lines s line more h ih =>
    simp only [List.mem_append, List.mem_cons] at hc
    rcases hc with hc | rfl | rfl | hc | hc
    · exact .inl (line.areRuns.isProseChar c hc)
    · exact .inr rfl
    · exact .inr rfl
    · exact .inr (List.eq_of_mem_replicate hc)
    · exact ih hc

theorem IsCleared.not_mem (h : IsCleared lines s) {c : Char} (hc : isProseChar c = false)
    (hne : c ≠ '\n') : c ∉ s := by
  intro hmem
  rcases h.mem hmem with hprose | heq
  · rw [hprose] at hc
    cases hc
  · exact hne heq

end

/-! ## 2. A text without markup and references -/

section

variable {st : RawState} {s : List Char}

theorem RawState.passed_text (st : RawState) (s : List Char) : (st.passed s).text = st.text := by
  induction s generalizing st with
  | nil => rfl
  | cons c s ih =>
    rw [RawState.passed, List.foldl_cons]
    refine (ih _).trans ?_
    split_ifs <;> rfl

theorem RawState.addData_text (h : st.IsPlain) (s : List Char) :
    (st.addData s).text = (ofChars s).reverse ++ st.text := by
  simp only [RawState.addData, h.inBlock, Bool.false_eq_true, if_false]
  split_ifs <;> rfl

theorem rawStep_of_text {c : Char} (h : st.IsPlain) (hangle : c ≠ '<') (hand : c ≠ '&')
    (last : Bool) : rawStep last st (c :: s) = .on ((st.addData [c]).passed [c]) s := by
  unfold rawStep
  simp only [h.plain]
  split
  all_goals first
    | exact absurd (List.cons.inj ‹_›).1 hangle
    | exact absurd (List.cons.inj ‹_›).1 hand
    | rfl

theorem rawLoop_of_text (h : st.IsPlain) (hangle : '<' ∉ s) (hand : '&' ∉ s) (last : Bool) :
    ∃ st', rawLoop last s.length st s = (st', []) ∧ st'.IsPlain ∧
      st'.text = (ofChars s).reverse ++ st.text := by
  induction s generalizing st with
  | nil => exact ⟨st, rfl, h, rfl⟩
  | cons c s ih =>
    rw [List.mem_cons, not_or] at hangle hand
    have hc : '<' ∉ [c] := by simpa using hangle.1
    obtain ⟨st', hloop, hplain, htext⟩ := ih ((h.addData hc).passed [c]) hangle.2 hand.2
    refine ⟨st', ?_, hplain, ?_⟩
    · rw [List.length_cons, rawLoop, rawStep_of_text h (Ne.symm hangle.1) (Ne.symm hand.1)]
      exact hloop
    · rw [htext, RawState.passed_text, RawState.addData_text h]
      simp [ofChars]

/-- Such a text is read as it stands. -/
theorem extractRaw_eq_ofChars (hangle : '<' ∉ s) (hand : '&' ∉ s) :
    extractRaw s = ofChars s := by
  obtain ⟨st, hloop, hplain, htext⟩ :=
    rawLoop_of_text (RawState.isPlain_start s) hangle hand false
  have hfinish : ({ st with source := [] }.addData []).finish = st.text.reverse := by
    have hagain : { st with source := [] }.IsPlain :=
      ⟨hplain.text, hplain.block, hplain.inBlock, hplain.inTail, hplain.plain⟩
    rw [RawState.finish, (hagain.addData List.not_mem_nil).block, RawState.addData_text hagain]
    rfl
  rw [extractRaw, hloop]
  refine hfinish.trans ?_
  rw [htext, List.reverse_append, List.reverse_reverse]
  rfl

end

/-! ## 3. Blocks -/

/-- The blocks of some lines: those of the lines, with empty ones between them, and with the line
end that may be left before a line. -/
inductive AreBlocks : List Line → List Atoms → Prop where
  | nil : AreBlocks [] []
  | empty {lines : List Line} {blocks : List Atoms} (h : AreBlocks lines blocks) :
      AreBlocks lines ([] :: blocks)
  | line {lines : List Line} {blocks : List Atoms} (line : Line) (h : AreBlocks lines blocks) :
      AreBlocks (line :: lines) (ofChars line.source :: blocks)
  | lineEnd {lines : List Line} {blocks : List Atoms} (line : Line) (h : AreBlocks lines blocks) :
      AreBlocks (line :: lines) ((.char '\n' :: ofChars line.source) :: blocks)

theorem splitBlocks_lineEnds (s : Atoms) :
    splitBlocks (.char '\n' :: .char '\n' :: s) = [] :: splitBlocks s :=
  rfl

theorem splitBlocks_cons {a b : Atom} {s part : Atoms} {parts : List Atoms}
    (h : (a.is '\n' && b.is '\n') = false) (hparts : splitBlocks (b :: s) = part :: parts) :
    splitBlocks (a :: b :: s) = (a :: part) :: parts := by
  rw [splitBlocks, h, if_neg Bool.false_ne_true, hparts]

/-- The text up to two line ends is a block. -/
theorem splitBlocks_append {s : List Char} (hs : '\n' ∉ s) (t : Atoms) :
    splitBlocks (ofChars s ++ .char '\n' :: .char '\n' :: t) = ofChars s :: splitBlocks t := by
  induction s with
  | nil => exact splitBlocks_lineEnds t
  | cons c s ih =>
    rw [List.mem_cons, not_or] at hs
    have hc : (Atom.char c).is '\n' = false := by simp [Atom.is, Atom.char?, Ne.symm hs.1]
    obtain ⟨b, rest, hrest⟩ :=
      List.exists_cons_of_ne_nil (l := ofChars s ++ .char '\n' :: .char '\n' :: t) (by simp)
    have hparts := ih hs.2
    rw [hrest] at hparts
    rw [ofChars_cons, List.cons_append, hrest]
    exact splitBlocks_cons (by rw [hc, Bool.false_and]) hparts

theorem length_splitBlocks_le (s : Atoms) : (splitBlocks s).length ≤ s.length + 1 := by
  fun_induction splitBlocks s with
  | case1 => exact Nat.le_refl 1
  | case2 a => exact Nat.le_succ 1
  | case3 a b s hends ih =>
    simp only [List.length_cons]
    omega
  | case4 a b s hends hparts ih =>
    simp only [List.length_cons, List.length_nil]
    omega
  | case5 a b s hends part parts hparts ih =>
    simp only [hparts, List.length_cons] at ih ⊢
    omega

section

variable {lines : List Line} {line : Line} {s : List Char}

/-- Of line ends before a line two make an empty block, and one that is left stands before the
line. -/
theorem AreBlocks.splitBlocks_replicate {rest : List Atoms} (hstart : line.source <+: s)
    (hsplit : splitBlocks (ofChars s) = ofChars line.source :: rest) (h : AreBlocks lines rest)
    (more : Nat) :
    AreBlocks (line :: lines) (splitBlocks (ofChars (List.replicate more '\n' ++ s))) := by
  induction more using Nat.twoStepInduction with
  | zero =>
    rw [List.replicate_zero, List.nil_append, hsplit]
    exact .line line h
  | one =>
    obtain ⟨t, rfl⟩ := hstart
    obtain ⟨c, u, hsource, hc⟩ := line.exists_cons
    have hne : c ≠ '\n' := ne_of_not (p := fun c => !isBlank c) (by rw [hc]; rfl) (by decide)
    have hends : ((Atom.char '\n').is '\n' && (Atom.char c).is '\n') = false := by
      simp [is_char, hne]
    rw [hsource, List.cons_append, ofChars_cons] at hsplit
    rw [List.replicate_one, List.singleton_append, hsource, List.cons_append, ofChars_cons,
      ofChars_cons, splitBlocks_cons hends hsplit, ← hsource]
    exact .lineEnd line h
  | more more ih _ =>
    rw [List.replicate_succ, List.replicate_succ]
    exact .empty ih

/-- The first block of cleared lines is the first line. -/
theorem IsCleared.splitBlocks (h : IsCleared lines s) :
    ∃ line later rest, lines = line :: later ∧ line.source <+: s ∧
      splitBlocks (ofChars s) = ofChars line.source :: rest ∧ AreBlocks later rest := by
  induction h with
  | one line =>
    refine ⟨line, [], [[]], rfl, List.prefix_append _ _, ?_, .empty .nil⟩
    rw [ofChars_append]
    exact splitBlocks_append (line.not_mem (by decide)) []
  | @cons lines s line more h ih =>
    obtain ⟨next, later, rest, rfl, hstart, hsplit, hrest⟩ := ih
    refine ⟨line, next :: later, _, rfl, List.prefix_append _ _, ?_,
      hrest.splitBlocks_replicate hstart hsplit more⟩
    rw [ofChars_append]
    exact splitBlocks_append (line.not_mem (by decide)) _

theorem IsCleared.areBlocks (h : IsCleared lines s) :
    AreBlocks lines (Markdown.splitBlocks (ofChars s)) := by
  obtain ⟨line, later, rest, rfl, -, hsplit, hrest⟩ := h.splitBlocks
  rw [hsplit]
  exact .line line hrest

end

/-! ## 4. Reading blocks -/

/-- The outline with a paragraph for each line. -/
def paragraphs (lines : List Line) : Outline :=
  ⟨⟨.document, none, [],
    lines.map fun line => (.ofText .paragraph (ofChars line.source), [])⟩, []⟩

section

variable {lines : List Line}

theorem paragraphs_add (lines : List Line) (line : Line) :
    (paragraphs lines).map (·.add (.ofText .paragraph (ofChars line.source))) =
      paragraphs (lines ++ [line]) := by
  rw [paragraphs, paragraphs, List.map_append]
  rfl

/-- There is no code that an empty line could belong to. -/
theorem paragraphs_extendCode (lines : List Line) (more : Atoms) :
    (paragraphs lines).map (extendCode more) = paragraphs lines := by
  have hlast : (paragraphs lines).block.lastIs (· = .pre) = false := by
    rw [paragraphs, Block.lastIs, Block.last?, List.getLast?_map, Option.map_map, Option.map_map]
    cases lines.getLast? <;> rfl
  rw [Outline.map, extendCode, hlast, if_neg Bool.false_ne_true]

theorem readBlock_empty (read : BlockReader) (lines : List Line) :
    readBlock read .plain [] (paragraphs lines) = (paragraphs lines, []) := by
  rw [readBlock, List.isEmpty_nil, Bool.true_or, if_pos rfl, readEmpty, paragraphs_extendCode]
  rfl

/-- A line end at the start of a block is dropped, and the rest of the block is left. -/
theorem readBlock_lineEnd (read : BlockReader) (lines : List Line) (line : Line) :
    readBlock read .plain (.char '\n' :: ofChars line.source) (paragraphs lines) =
      (paragraphs lines, [ofChars line.source]) := by
  obtain ⟨c, s, hsource, -⟩ := line.exists_cons
  have hstarts : startsWith '\n' (.char '\n' :: ofChars line.source) = true := rfl
  rw [readBlock, List.isEmpty_cons, Bool.false_or, if_pos hstarts, readEmpty,
    paragraphs_extendCode, hsource]
  rfl

/-- Each line is read in at most two steps. -/
theorem AreBlocks.readBlocks {blocks : List Atoms} (h : AreBlocks lines blocks) {bound : Nat}
    (hbound : 2 * blocks.length ≤ bound) (before : List Line) :
    readBlocks bound .plain blocks (paragraphs before) = paragraphs (before ++ lines) := by
  induction h generalizing bound before with
  | nil =>
    rw [List.append_nil]
    cases bound <;> rfl
  | @empty lines blocks h ih =>
    rw [List.length_cons] at hbound
    obtain ⟨bound, rfl⟩ := Nat.exists_eq_add_of_le' (show 1 ≤ bound by omega)
    rw [Markdown.readBlocks, readBlock_empty]
    exact ih (show 2 * blocks.length ≤ bound by omega) before
  | @line lines blocks line h ih =>
    rw [List.length_cons] at hbound
    obtain ⟨bound, rfl⟩ := Nat.exists_eq_add_of_le' (show 1 ≤ bound by omega)
    rw [Markdown.readBlocks, readBlock_line, paragraphs_add, List.append_cons before line lines]
    exact ih (show 2 * blocks.length ≤ bound by omega) (before ++ [line])
  | @lineEnd lines blocks line h ih =>
    rw [List.length_cons] at hbound
    obtain ⟨bound, rfl⟩ := Nat.exists_eq_add_of_le' (show 2 ≤ bound by omega)
    rw [Markdown.readBlocks, readBlock_lineEnd, List.append_cons before line lines]
    dsimp only
    rw [List.singleton_append, Markdown.readBlocks, readBlock_line, paragraphs_add]
    exact ih (show 2 * blocks.length ≤ bound by omega) (before ++ [line])

/-- The outline of spaced lines has a paragraph for each line. -/
theorem IsSpaced.outlineOf {s : List Char} (h : IsSpaced lines s) :
    outlineOf (extractRaw (Markdown.normalized s)) = paragraphs lines := by
  have hcleared := h.normalized
  rw [extractRaw_eq_ofChars (hcleared.not_mem (by decide) (by decide))
    (hcleared.not_mem (by decide) (by decide)), Markdown.outlineOf]
  have hblocks := length_splitBlocks_le (ofChars (Markdown.normalized s))
  exact hcleared.areBlocks.readBlocks (by omega) []

end

end StaticSite.Markdown
