/-
StaticSite.Proofs.Markdown.PlainSource — texts without angle brackets before their blocks are read.

All markup that is taken out of a text starts with an angle bracket. In a
text without one nothing is taken out, so what is read is text from its
start to its end: the state of the reading stays plain (`RawState.IsPlain`)
in every step. Only references to characters are looked at, and they stay in
the text as well.
-/
import StaticSite.Proofs.Markdown.Safety

namespace StaticSite.Markdown

open StaticSite.Text

/-! ## 1. Line ends and tabs -/

theorem mem_unifyLineEnds {s : List Char} {c : Char} (h : c ∈ unifyLineEnds s) :
    c = '\n' ∨ c ∈ s := by
  fun_induction unifyLineEnds s with
  | case1 => exact absurd h List.not_mem_nil
  | case2 s ih =>
    rcases List.mem_cons.mp h with h | h
    · exact .inl h
    · exact (ih h).imp_right fun h => by simp [h]
  | case3 s hnext ih =>
    rcases List.mem_cons.mp h with h | h
    · exact .inl h
    · exact (ih h).imp_right (List.mem_cons_of_mem _)
  | case4 d s hfirst hnext ih =>
    rcases List.mem_cons.mp h with h | h
    · exact .inr (h ▸ List.mem_cons_self)
    · exact (ih h).imp_right (List.mem_cons_of_mem _)

theorem mem_expandTabs {column : Nat} {s : List Char} {c : Char} (h : c ∈ expandTabs column s) :
    c = ' ' ∨ c ∈ s := by
  induction s generalizing column with
  | nil => exact absurd h List.not_mem_nil
  | cons d s ih =>
    simp only [expandTabs] at h
    split_ifs at h
    · rcases List.mem_append.mp h with h | h
      · exact .inl (List.eq_of_mem_replicate h)
      · exact (ih h).imp_right (List.mem_cons_of_mem _)
    all_goals
      rcases List.mem_cons.mp h with h | h
      · exact .inr (h ▸ List.mem_cons_self)
      · exact (ih h).imp_right (List.mem_cons_of_mem _)

theorem mem_of_mem_clearLines {lines : List (List Char)} {line : List Char} {c : Char}
    (hline : line ∈ clearLines lines) (hc : c ∈ line) : ∃ line ∈ lines, c ∈ line := by
  cases lines with
  | nil => exact absurd hline List.not_mem_nil
  | cons first rest =>
    rcases List.mem_cons.mp hline with rfl | hline
    · exact ⟨line, List.mem_cons_self, hc⟩
    · obtain ⟨original, hmem, rfl⟩ := List.mem_map.mp hline
      split_ifs at hc
      · exact absurd hc List.not_mem_nil
      · exact ⟨original, List.mem_cons_of_mem _ hmem, hc⟩

theorem angle_not_mem_normalized {s : List Char} (h : '<' ∉ s) : '<' ∉ normalized s := by
  intro hmem
  rcases mem_joinLists hmem with hmem | ⟨line, hline, hmem⟩
  · exact absurd hmem (by decide)
  · obtain ⟨line, hline, hmem⟩ := mem_of_mem_clearLines hline hmem
    have hmem := subset_of_mem_splitOn line hline hmem
    rcases mem_expandTabs hmem with hmem | hmem
    · exact absurd hmem (by decide)
    · rcases List.mem_append.mp hmem with hmem | hmem
      · rcases mem_unifyLineEnds hmem with hmem | hmem
        · exact absurd hmem (by decide)
        · exact h (List.mem_of_mem_filter hmem)
      · exact absurd hmem (by decide)

/-! ## 2. References -/

theorem subset_of_numberReference {s body rest : List Char}
    (h : numberReference? s = some (body, rest)) : body ⊆ s ∧ rest ⊆ s := by
  have hdrop : s.drop 2 ⊆ s := List.drop_subset 2 s
  unfold numberReference? at h
  dsimp only at h
  generalize s.drop 2 = digits at h hdrop
  cases digits with
  | nil => cases h
  | cons c r =>
    obtain ⟨hc, hr⟩ := List.cons_subset.mp hdrop
    by_cases hx : (c == 'x' || c == 'X') = true
    · simp only [if_pos hx] at h
      split at h
      · cases h
      · cases h
      · split_ifs at h
        cases h
        exact ⟨List.cons_subset.mpr ⟨hc, List.Subset.trans (List.takeWhile_subset _) hr⟩,
          List.Subset.trans (List.dropWhile_subset _) hr⟩
    · simp only [if_neg hx] at h
      split at h
      · cases h
      · cases h
      · split_ifs at h
        cases h
        exact ⟨List.Subset.trans (List.takeWhile_subset _) hdrop,
          List.Subset.trans (List.dropWhile_subset _) hdrop⟩

theorem subset_of_nameReference {s text rest : List Char}
    (h : nameReference? s = some (text, rest)) : text ⊆ s ∧ rest ⊆ s := by
  unfold nameReference? at h
  split at h
  · next c r =>
    dsimp only at h
    split at h
    · next after hafter =>
      split_ifs at h
      cases h
      have hend : ';' :: rest ⊆ r := hafter ▸ List.dropWhile_subset _
      have hmore : r ⊆ '&' :: c :: r :=
        List.subset_cons_of_subset _ (List.subset_cons_self c r)
      obtain ⟨hsign, hrest⟩ := List.cons_subset.mp hend
      refine ⟨?_, List.Subset.trans hrest hmore⟩
      refine List.append_subset.mpr ⟨?_, by simp [hmore hsign]⟩
      exact List.cons_subset_cons _ (List.cons_subset_cons _ (List.takeWhile_subset _))
    · cases h
  · cases h

/-! ## 3. The state -/

namespace RawState

/-- No markup has been met. -/
structure IsPlain (st : RawState) : Prop where
  text : AllSafe st.text
  block : st.block = []
  inBlock : st.inBlock = false
  inTail : st.inTail = false
  plain : st.plain = none

variable {st : RawState} {s : List Char}

theorem isPlain_start (source : List Char) : (start source).IsPlain :=
  ⟨allSafe_nil, rfl, rfl, rfl, rfl⟩

theorem IsPlain.passed (h : st.IsPlain) (s : List Char) : (st.passed s).IsPlain := by
  induction s generalizing st with
  | nil => exact h
  | cons c s ih =>
    rw [RawState.passed, List.foldl_cons]
    refine ih ?_
    split_ifs
    · exact ⟨h.text, h.block, h.inBlock, h.inTail, h.plain⟩
    · exact ⟨h.text, h.block, h.inBlock, h.inTail, h.plain⟩

theorem IsPlain.addText (h : st.IsPlain) (hs : '<' ∉ s) :
    AllSafe ((ofChars s).reverse ++ st.text) :=
  allSafe_append.mpr ⟨allSafe_reverse.mpr (allSafe_ofChars.mpr hs), h.text⟩

theorem IsPlain.addData (h : st.IsPlain) (hs : '<' ∉ s) : (st.addData s).IsPlain := by
  have htext := h.addText hs
  simp only [RawState.addData, h.inTail, h.inBlock, Bool.false_and, Bool.false_eq_true, if_false]
  split_ifs
  · exact ⟨htext, h.block, rfl, rfl, h.plain⟩
  · exact ⟨htext, h.block, rfl, rfl, h.plain⟩

theorem IsPlain.atLineStart (h : st.IsPlain) : st.atLineStart.1.IsPlain := by
  rw [RawState.atLineStart]
  split_ifs
  · exact h
  · exact h
  · exact ⟨h.text, h.block, h.inBlock, h.inTail, h.plain⟩

theorem IsPlain.addPiece (h : st.IsPlain) (hs : '<' ∉ s) : (st.addPiece s false).IsPlain := by
  have hline := h.atLineStart
  have htext := hline.addText hs
  simp only [RawState.addPiece, h.inBlock, h.inTail, Bool.or_self, Bool.false_and,
    Bool.false_eq_true, if_false]
  exact ⟨htext, hline.block, hline.inBlock, hline.inTail, hline.plain⟩

theorem IsPlain.allSafe_finish (h : st.IsPlain) : AllSafe st.finish := by
  rw [finish, h.block]
  exact allSafe_reverse.mpr h.text

end RawState

/-! ## 4. Reading -/

/-- Neither what has been read nor what follows has markup. -/
def RawProgress.IsPlain : RawProgress → Prop
  | .on st rest => st.IsPlain ∧ '<' ∉ rest
  | .stop st rest => st.IsPlain ∧ '<' ∉ rest

theorem isPlain_rawStep {st : RawState} (h : st.IsPlain) {s : List Char} (hs : '<' ∉ s)
    (last : Bool) : (rawStep last st s).IsPlain := by
  have hstart : ∀ r, s ≠ '<' :: r := by
    rintro r rfl
    exact hs List.mem_cons_self
  have hdata (n : Nat) : ((st.addData (s.take n)).passed (s.take n)).IsPlain ∧ '<' ∉ s.drop n :=
    ⟨(h.addData fun hmem => hs (List.take_subset n s hmem)).passed _,
      fun hmem => hs (List.drop_subset n s hmem)⟩
  unfold rawStep
  simp only [h.plain]
  split
  · exact absurd rfl (hstart _)
  · exact absurd rfl (hstart _)
  · exact absurd rfl (hstart _)
  · exact absurd rfl (hstart _)
  · exact absurd rfl (hstart _)
  · -- a reference to a number
    split
    · next body rest href =>
      obtain ⟨hbody, hrest⟩ := subset_of_numberReference href
      have hpiece : '<' ∉ '&' :: '#' :: body ++ [';'] := by
        have hbody : '<' ∉ body := fun hmem => hs (hbody hmem)
        simp [hbody]
      refine ⟨(h.addPiece hpiece).passed _, fun hmem => hs (hrest ?_)⟩
      split_ifs at hmem
      · exact List.drop_subset 1 rest hmem
      · exact hmem
    · split_ifs
      · exact hdata 2
      · exact ⟨h, hs⟩
  · -- a reference to a name
    split
    · next text rest href =>
      obtain ⟨htext, hrest⟩ := subset_of_nameReference href
      exact ⟨(h.addPiece fun hmem => hs (htext hmem)).passed _, fun hmem => hs (hrest hmem)⟩
    · exact hdata 1
  · exact hdata 1

theorem isPlain_rawLoop {st : RawState} (h : st.IsPlain) {s : List Char} (hs : '<' ∉ s)
    (last : Bool) (bound : Nat) :
    (rawLoop last bound st s).1.IsPlain ∧ '<' ∉ (rawLoop last bound st s).2 := by
  induction bound generalizing st s with
  | zero => exact ⟨h, hs⟩
  | succ bound ih =>
    cases s with
    | nil => exact ⟨h, hs⟩
    | cons c s =>
      have hstep := isPlain_rawStep h hs last
      rw [rawLoop]
      cases hprogress : rawStep last st (c :: s) with
      | on next rest =>
        rw [hprogress] at hstep
        exact ih hstep.1 hstep.2
      | stop next rest =>
        rw [hprogress] at hstep
        exact hstep

theorem allSafe_extractRaw {s : List Char} (hs : '<' ∉ s) : AllSafe (extractRaw s) := by
  obtain ⟨hfirst, hrest⟩ := isPlain_rawLoop (RawState.isPlain_start s) hs false s.length
  rw [extractRaw]
  generalize rawLoop false s.length (.start s) s = first at hfirst hrest
  obtain ⟨st, rest⟩ := first
  have hagain : { st with source := rest }.IsPlain :=
    ⟨hfirst.text, hfirst.block, hfirst.inBlock, hfirst.inTail, hfirst.plain⟩
  obtain ⟨hsecond, hrest⟩ := isPlain_rawLoop hagain hrest true rest.length
  exact (hsecond.addData hrest).allSafe_finish

end StaticSite.Markdown
