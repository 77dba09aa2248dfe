/-
StaticSite.Proofs.Markdown.SafeOutline — the blocks of a safe text are safe.

Each rule of reading puts parts of the block into the outline, and leaves
other parts of it to be read. Rules that read blocks inside others are given
a reader for them, so they are safe if that is (`ReadsSafely`). The rules
together make one step (`ReadsSafely.readBlock`), and from it the reader
itself is safe by induction on its bound (`readsSafely_readBlocks`).
-/
import StaticSite.Proofs.Markdown.SafeLines

namespace StaticSite.Markdown

open StaticSite.Text Outline

/-! ## 1. Readers and steps -/

/-- The reader keeps outlines safe when it reads safe blocks. -/
def ReadsSafely (read : BlockReader) : Prop :=
  ∀ mode blocks, AllTextsSafe blocks → KeepsSafe (read mode blocks)

/-- The outline and the blocks that are left over are safe. -/
structure IsSafeStep (step : Step) : Prop where
  outline : step.1.IsSafe
  rest : AllTextsSafe step.2

variable {read : BlockReader} {mode : Mode} {s block : Atoms} {o : Outline} {step : Step}

theorem allTextsSafe_singleton (h : AllSafe s) : AllTextsSafe [s] :=
  allTextsSafe_cons.mpr ⟨h, allTextsSafe_nil⟩

theorem AllSafe.leftOver (h : AllSafe s) : AllTextsSafe (leftOver s) := by
  rw [Markdown.leftOver]
  split_ifs
  · exact allTextsSafe_nil
  · exact allTextsSafe_singleton h

theorem AllTextsSafe.splitAtForm {α : Type} {form : Atoms → Option α} {lines front back : List Atoms}
    {a : α} (h : AllTextsSafe lines) (hsplit : splitAtForm form lines = some (front, a, back)) :
    AllTextsSafe front ∧ (∃ line, AllSafe line ∧ form line = some a) ∧ AllTextsSafe back := by
  induction lines generalizing front with
  | nil => cases hsplit
  | cons line rest ih =>
    obtain ⟨hline, hrest⟩ := allTextsSafe_cons.mp h
    rw [Markdown.splitAtForm] at hsplit
    split at hsplit
    · next found hfound =>
      cases hsplit
      exact ⟨allTextsSafe_nil, ⟨line, hline, hfound⟩, hrest⟩
    · obtain ⟨⟨before, found, after⟩, hsplit, heq⟩ := Option.map_eq_some_iff.mp hsplit
      cases heq
      obtain ⟨hfront, hfound, hback⟩ := ih hrest hsplit
      exact ⟨allTextsSafe_cons.mpr ⟨hline, hfront⟩, hfound, hback⟩

/-! ## 2. Empty lines and code -/

theorem Block.IsSafe.extendCode {b : Block} (h : b.IsSafe) {more : Atoms} (hmore : AllSafe more) :
    (extendCode more b).IsSafe := by
  rw [Markdown.extendCode]
  split_ifs
  · exact h.mapLast fun c hc => hc.withText (allSafe_append.mpr ⟨hc.text, hmore⟩)
  · exact h

theorem isSafeStep_readEmpty (hblock : AllSafe block) (ho : o.IsSafe) :
    IsSafeStep (readEmpty block o) :=
  ⟨ho.map (ho.block.extendCode (allSafe_verbatimText _)), (hblock.drop 1).leftOver⟩

theorem AllSafe.codeText (h : AllSafe s) : AllSafe (codeText s) := by
  intro a ha
  obtain ⟨b, hb, ha⟩ := List.mem_flatMap.mp ha
  split at ha
  · exact allSafe_verbatimText _ a ha
  · rw [List.mem_singleton.mp ha]
    exact h b hb

theorem isSafeStep_readCode (hblock : AllSafe block) (ho : o.IsSafe) :
    IsSafeStep (readCode block o) := by
  obtain ⟨hlines, hrest⟩ := AllTextsSafe.takeIndented hblock.linesOf
  have hend : AllSafe [.verbatim '\n'] := allSafe_cons.mpr ⟨.verbatim _, allSafe_nil⟩
  have hcode : AllSafe (codeText (dropEndBlank (ofLines (takeIndented (linesOf block)).1)) ++
      [.verbatim '\n']) :=
    allSafe_append.mpr ⟨(allSafe_ofLines hlines).dropEndBlank.codeText, hend⟩
  refine ⟨⟨?_, ho.references⟩, (allSafe_ofLines hrest).leftOver⟩
  simp only [readCode, Outline.map]
  split_ifs
  · exact ho.block.extendCode (allSafe_cons.mpr ⟨.verbatim _, hcode⟩)
  · exact ho.block.add (Block.isSafe_ofText .pre hcode)

/-! ## 3. Headings and rules -/

/-- The outline after the lines before a heading or a rule, if there are any. -/
theorem ReadsSafely.readBefore (hread : ReadsSafely read) (mode : Mode) (p : Prop) [Decidable p]
    (ho : o.IsSafe) (hs : AllSafe s) : (if p then o else read mode [s] o).IsSafe := by
  split_ifs
  · exact ho
  · exact hread mode [s] (allTextsSafe_singleton hs) o ho

theorem isSafeStep_readHeading (hread : ReadsSafely read) (hblock : AllSafe block) (ho : o.IsSafe)
    (h : readHeading? read mode block o = some step) : IsSafeStep step := by
  obtain ⟨⟨before, ⟨level, text⟩, after⟩, hsplit, rfl⟩ := Option.map_eq_some_iff.mp h
  obtain ⟨hbefore, ⟨line, hline, htext⟩, hafter⟩ := hblock.linesOf.splitAtForm hsplit
  have hfront := hread.readBefore mode (before.isEmpty = true) ho (allSafe_ofLines hbefore)
  have hheading := Block.isSafe_ofText (.heading level) (hline.hashHeading htext)
  have hrest := allSafe_ofLines hafter
  refine ⟨hfront.add hheading, AllSafe.leftOver ?_⟩
  split_ifs
  · exact hrest.unindent tabWidth
  · exact hrest

theorem isSafeStep_readUnderlined (hblock : AllSafe block) (ho : o.IsSafe)
    (h : readUnderlined? block o = some step) : IsSafeStep step := by
  have hlines := hblock.linesOf
  unfold readUnderlined? at h
  split at h
  · next title underline rest heq =>
    obtain ⟨level, -, rfl⟩ := Option.map_eq_some_iff.mp h
    rw [heq] at hlines
    obtain ⟨htitle, hmore⟩ := allTextsSafe_cons.mp hlines
    have hrest := (allTextsSafe_cons.mp hmore).2
    exact ⟨ho.add (Block.isSafe_ofText _ htitle.trim),
      (allSafe_ofLines hrest).leftOver⟩
  · cases h

theorem AllSafe.dropLineEnds (h : AllSafe s) : AllSafe (dropLineEnds s) :=
  h.dropWhile

theorem AllSafe.dropEndLineEnds (h : AllSafe s) : AllSafe (dropEndLineEnds s) :=
  h.dropEndWhile

theorem isSafeStep_readRule (hread : ReadsSafely read) (hblock : AllSafe block) (ho : o.IsSafe)
    (h : readRule? read mode block o = some step) : IsSafeStep step := by
  obtain ⟨⟨before, _, after⟩, hsplit, rfl⟩ := Option.map_eq_some_iff.mp h
  obtain ⟨hbefore, -, hafter⟩ := hblock.linesOf.splitAtForm hsplit
  have hfront := hread.readBefore mode ((dropEndLineEnds (ofLines before)).isEmpty = true) ho
    (allSafe_ofLines hbefore).dropEndLineEnds
  exact ⟨hfront.add (Block.isSafe_empty .rule),
    (allSafe_ofLines hafter).dropLineEnds.leftOver⟩

/-! ## 4. Lists -/

theorem ReadsSafely.readItems (hread : ReadsSafely read) {items : List Atoms}
    (hitems : AllTextsSafe items) : KeepsSafe (readItems read items) := by
  intro o ho
  induction items generalizing o with
  | nil => exact ho
  | cons item rest ih =>
    obtain ⟨hitem, hrest⟩ := allTextsSafe_cons.mp hitems
    have hinside : KeepsSafe (read .item [item]) := hread .item _ (allTextsSafe_singleton hitem)
    refine ih hrest _ ?_
    dsimp only
    split_ifs
    · exact ho.inLast hinside
    · exact ho.inNew (Block.isSafe_empty .item) hinside

theorem ReadsSafely.readMoreItems (hread : ReadsSafely read) {items : List Atoms}
    (hitems : AllTextsSafe items) : KeepsSafe (readMoreItems read items) := by
  intro o ho
  cases items with
  | nil => exact ho
  | cons first rest =>
    obtain ⟨hfirst, hrest⟩ := allTextsSafe_cons.mp hitems
    have hloose : KeepsSafe (read .looseItem [first]) :=
      hread .looseItem _ (allTextsSafe_singleton hfirst)
    have hwrapped : (o.map (·.mapLast fun item => item.wrapText.wrapTail)).IsSafe :=
      ho.map (ho.block.mapLast fun c hc => hc.wrapText.wrapTail)
    exact hread.readItems hrest _ (hwrapped.inNew (Block.isSafe_empty .item) hloose)

theorem isSafe_newList (list : Tag) (number : List Char) : (newList list number).IsSafe := by
  refine .mk (fun htag => ?_) allSafe_nil (fun _ hentry => absurd hentry List.not_mem_nil)
    (fun _ hentry => absurd hentry List.not_mem_nil)
  have hlist : list = .paragraph := htag
  rw [newList, hlist]
  rfl

theorem isSafeStep_readList (hread : ReadsSafely read) {list : Tag} (hblock : AllSafe block)
    (ho : o.IsSafe) (h : readList? read list block o = some step) : IsSafeStep step := by
  have hitems := hblock.itemsOf list
  rw [readList?] at h
  split at h
  · cases h
  · next number text _ =>
    cases h
    refine ⟨?_, allTextsSafe_nil⟩
    dsimp only
    split_ifs
    · exact ho.inLast (hread.readMoreItems hitems)
    · exact hread.readItems hitems o ho
    · exact ho.inNew (isSafe_newList list number) (hread.readItems hitems)

/-! ## 5. Blocks in items -/

theorem ReadsSafely.readIntoList (hread : ReadsSafely read) (hblock : AllSafe block) :
    KeepsSafe (readIntoList read block) := by
  intro o ho
  have hinside : KeepsSafe (read .unindented [block]) :=
    hread .unindented _ (allTextsSafe_singleton hblock)
  rw [Markdown.readIntoList]
  split_ifs
  · exact hinside o ho
  · have hwrapped : (o.map (·.mapLast Block.wrapText)).IsSafe :=
      ho.map (ho.block.mapLast fun c hc => hc.wrapText)
    exact hwrapped.inLast (hread .unindented _ hblock.splitBlocks)
  · exact ho.inNew (Block.isSafe_empty .item) hinside

theorem isSafeStep_readIndented (hread : ReadsSafely read) (hblock : AllSafe block) (ho : o.IsSafe)
    (h : readIndented? read mode block o = some step) : IsSafeStep step := by
  unfold readIndented? at h
  dsimp only at h
  split at h
  · cases h
    refine ⟨?_, allTextsSafe_nil⟩
    generalize descend _ _ _ o.block = found
    have hinner := hblock.unindent (tabWidth * found.1)
    have hinside : KeepsSafe (read .unindented [unindent (tabWidth * found.1) block]) :=
      hread .unindented _ (allTextsSafe_singleton hinner)
    dsimp only
    split_ifs
    · exact ho.inLast hinside
    · exact hinside o ho
    · exact ho.atDepth (hread.readIntoList hinner) found.2
  · cases h

/-! ## 6. Quotations, references and paragraphs -/

theorem isSafeStep_readQuote (hread : ReadsSafely read) (hblock : AllSafe block) (ho : o.IsSafe)
    (h : readQuote? read mode block o = some step) : IsSafeStep step := by
  obtain ⟨⟨before, line, after⟩, hsplit, rfl⟩ := Option.map_eq_some_iff.mp h
  obtain ⟨hbefore, ⟨found, hfound, hline⟩, hafter⟩ := hblock.linesOf.splitAtForm hsplit
  have hsame : found = line := by
    split_ifs at hline
    cases hline
    rfl
  subst hsame
  have ho := hread mode [ofLines before] (allTextsSafe_singleton (allSafe_ofLines hbefore)) o ho
  have hunquoted : AllTextsSafe ((found :: after).map unquote) := by
    intro text htext
    obtain ⟨line, hline, rfl⟩ := List.mem_map.mp htext
    exact (allTextsSafe_cons.mpr ⟨hfound, hafter⟩ line hline).unquote
  have hlines : AllTextsSafe (if before.isEmpty then (found :: after).map unquote
      else [] :: (found :: after).map unquote) := by
    split_ifs
    · exact hunquoted
    · exact allTextsSafe_cons.mpr ⟨allSafe_nil, hunquoted⟩
  have hfill := hread .quote _ (allSafe_ofLines hlines).splitBlocks
  refine ⟨?_, allTextsSafe_nil⟩
  dsimp only
  split
  · exact ho.inLast hfill
  · exact ho.inNew (Block.isSafe_empty .quote) hfill

theorem AllSafe.takeDefinitions (h : AllSafe s) {references : References}
    (hreferences : AllReferencesSafe references) (bound : Nat) :
    AllReferencesSafe (takeDefinitions bound references s).1 ∧
      AllSafe (takeDefinitions bound references s).2 := by
  induction bound generalizing references s with
  | zero => exact ⟨hreferences, h⟩
  | succ bound ih =>
    rw [Markdown.takeDefinitions]
    split
    · next r rest hr =>
      obtain ⟨hsafe, hrest⟩ := h.dropLineEnds.referenceAt hr
      exact ih hrest (List.forall_mem_cons.mpr ⟨hsafe, hreferences⟩)
    · exact ⟨hreferences, h⟩

/-- What is left of a block around its definitions, unless that is blank. -/
theorem allTextsSafe_unlessBlank (h : AllSafe s) {p : Prop} [Decidable p] :
    AllTextsSafe (if p then [] else [s]) := by
  split_ifs
  · exact allTextsSafe_nil
  · exact allTextsSafe_singleton h

theorem isSafeStep_readReference (hblock : AllSafe block) (ho : o.IsSafe)
    (h : readReference? block o = some step) : IsSafeStep step := by
  obtain ⟨⟨before, r, after⟩, hfind, rfl⟩ := Option.map_eq_some_iff.mp h
  obtain ⟨hbefore, hr, hafter⟩ := hblock.findDefinition allSafe_nil hfind
  obtain ⟨hreferences, hrest⟩ := hafter.takeDefinitions
    (List.forall_mem_cons.mpr ⟨hr, ho.references⟩) after.length
  exact ⟨⟨ho.block, hreferences⟩, allTextsSafe_append.mpr
    ⟨allTextsSafe_unlessBlank hbefore.dropEndLineEnds, allTextsSafe_unlessBlank hrest.dropLineEnds⟩⟩

theorem Block.IsSafe.addItemText {b : Block} (h : b.IsSafe) (hblock : AllSafe block) :
    (addItemText block b).IsSafe := by
  rw [Markdown.addItemText]
  split
  · next c hlast =>
    exact h.setLast (h.last hlast) (allSafe_append.mpr ⟨h.lastTail, allSafe_newLine hblock⟩)
  · split_ifs
    · exact h.withText hblock.dropBlank
    · exact h.withText (allSafe_append.mpr ⟨h.text, allSafe_newLine hblock⟩)

theorem isSafeStep_readParagraph (hblock : AllSafe block) (ho : o.IsSafe) :
    IsSafeStep (readParagraph mode block o) := by
  rw [readParagraph]
  split_ifs
  · exact ⟨ho, allTextsSafe_nil⟩
  · exact ⟨ho.map (ho.block.addItemText hblock), allTextsSafe_nil⟩
  · exact ⟨ho.add (Block.isSafe_ofText .paragraph hblock.dropBlank),
      allTextsSafe_nil⟩

/-! ## 7. All of them -/

theorem ReadsSafely.readBlock (hread : ReadsSafely read) (mode : Mode) (hblock : AllSafe block)
    (ho : o.IsSafe) :
    IsSafeStep (readBlock read mode block o) := by
  unfold Markdown.readBlock
  split
  · exact isSafeStep_readEmpty hblock ho
  · dsimp only
    split
    · next step hstep => exact isSafeStep_readIndented hread hblock ho hstep
    · split
      · exact isSafeStep_readCode hblock ho
      · -- the first rule that fits, or a paragraph
        generalize hrules : List.findSome? _ _ = found
        cases found with
        | none => exact isSafeStep_readParagraph hblock ho
        | some step =>
          obtain ⟨rule, hrule, hstep⟩ := List.exists_of_findSome?_eq_some hrules
          simp only [List.mem_cons, List.not_mem_nil, or_false] at hrule
          rcases hrule with rfl | rfl | rfl | rfl | rfl | rfl | rfl
          · exact isSafeStep_readHeading hread hblock ho hstep
          · exact isSafeStep_readUnderlined hblock ho hstep
          · exact isSafeStep_readRule hread hblock ho hstep
          · exact isSafeStep_readList hread hblock ho hstep
          · exact isSafeStep_readList hread hblock ho hstep
          · exact isSafeStep_readQuote hread hblock ho hstep
          · exact isSafeStep_readReference hblock ho hstep

theorem readsSafely_readBlocks (bound : Nat) : ReadsSafely (readBlocks bound) := by
  induction bound with
  | zero => exact fun mode blocks _ o ho => ho
  | succ bound ih =>
    intro mode blocks hblocks o ho
    cases blocks with
    | nil => exact ho
    | cons block rest =>
      obtain ⟨hblock, hrest⟩ := allTextsSafe_cons.mp hblocks
      have hstep := ih.readBlock mode hblock ho
      exact ih mode _ (allTextsSafe_append.mpr ⟨hstep.rest, hrest⟩) _ hstep.outline

theorem AllSafe.outlineOf (h : AllSafe s) : (outlineOf s).IsSafe :=
  readsSafely_readBlocks _ .plain _ h.splitBlocks _
    ⟨Block.isSafe_empty .document, fun _ hr => absurd hr List.not_mem_nil⟩

end StaticSite.Markdown
