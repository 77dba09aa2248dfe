/-
StaticSite.Proofs.Markdown.SafeLines — what is taken out of safe lines.

The text of a heading, of an item or of a quotation and the parts of a
reference are parts of the lines they stand in, so they are as safe as these
are. Cutting a text into lines or blocks and joining them adds nothing but
line ends.
-/
import StaticSite.Proofs.Markdown.SafeBlocks

namespace StaticSite.Markdown

open StaticSite.Text

/-! ## 1. Lists of texts -/

/-- All of the texts are safe. -/
def AllTextsSafe (texts : List Atoms) : Prop :=
  ∀ s ∈ texts, AllSafe s

@[simp]
theorem allTextsSafe_nil : AllTextsSafe [] :=
  fun _ hs => absurd hs List.not_mem_nil

@[simp]
theorem allTextsSafe_cons {s : Atoms} {texts : List Atoms} :
    AllTextsSafe (s :: texts) ↔ AllSafe s ∧ AllTextsSafe texts :=
  List.forall_mem_cons

@[simp]
theorem allTextsSafe_append {first second : List Atoms} :
    AllTextsSafe (first ++ second) ↔ AllTextsSafe first ∧ AllTextsSafe second :=
  List.forall_mem_append

theorem AllSafe.linesOf {s : Atoms} (h : AllSafe s) : AllTextsSafe (linesOf s) :=
  fun _ hline => h.of_mem_linesOf hline

/-! ## 2. Indentation -/

variable {s t : Atoms}

theorem AllSafe.dropShortIndent (h : AllSafe s) (ht : dropShortIndent s = some t) :
    AllSafe t := by
  rw [Markdown.dropShortIndent] at ht
  split_ifs at ht
  cases ht
  exact h.drop _

theorem AllSafe.unindent (h : AllSafe s) (width : Nat) : AllSafe (unindent width s) := by
  refine allSafe_ofLines fun line hline => ?_
  obtain ⟨original, hmem, rfl⟩ := List.mem_map.mp hline
  have horiginal := h.of_mem_linesOf hmem
  split_ifs
  · exact horiginal.drop width
  · exact horiginal

theorem AllTextsSafe.takeIndented {lines : List Atoms} (h : AllTextsSafe lines) :
    AllTextsSafe (takeIndented lines).1 ∧ AllTextsSafe (takeIndented lines).2 := by
  induction lines with
  | nil => exact ⟨allTextsSafe_nil, allTextsSafe_nil⟩
  | cons line rest ih =>
    obtain ⟨hline, hrest⟩ := allTextsSafe_cons.mp h
    obtain ⟨hfront, hback⟩ := ih hrest
    simp only [Markdown.takeIndented]
    split_ifs
    · exact ⟨allTextsSafe_cons.mpr ⟨hline.drop tabWidth, hfront⟩, hback⟩
    · exact ⟨allTextsSafe_cons.mpr ⟨allSafe_nil, hfront⟩, hback⟩
    · exact ⟨allTextsSafe_nil, h⟩

theorem AllSafe.splitBlocks (h : AllSafe s) : AllTextsSafe (splitBlocks s) := by
  fun_induction Markdown.splitBlocks s with
  | case1 => simp
  | case2 a => simpa using h
  | case3 a b s hends ih =>
    have hs : AllSafe s := (allSafe_cons.mp (allSafe_cons.mp h).2).2
    exact allTextsSafe_cons.mpr ⟨allSafe_nil, ih hs⟩
  | case4 a b s hends hnone ih =>
    have ha : a.IsSafe := (allSafe_cons.mp h).1
    simpa using ha
  | case5 a b s hends part parts hparts ih =>
    obtain ⟨ha, hs⟩ := allSafe_cons.mp h
    have hmore := ih hs
    rw [hparts, allTextsSafe_cons] at hmore
    exact allTextsSafe_cons.mpr ⟨allSafe_cons.mpr ⟨ha, hmore.1⟩, hmore.2⟩

/-! ## 3. Headings and items -/

theorem AllSafe.headingText (h : AllSafe s) (ht : headingText? s = some t) : AllSafe t := by
  fun_induction headingText? s generalizing t with
  | case1 =>
    cases ht
    exact allSafe_nil
  | case2 a s hall =>
    cases ht
    exact allSafe_nil
  | case3 a hall hslash => cases ht
  | case4 a hslash b s hall ih =>
    obtain ⟨ha, hb, hs⟩ : a.IsSafe ∧ b.IsSafe ∧ AllSafe s := by simpa using h
    obtain ⟨text, htext, rfl⟩ := Option.map_eq_some_iff.mp ht
    exact allSafe_cons.mpr ⟨ha, allSafe_cons.mpr ⟨hb, ih hs htext⟩⟩
  | case5 a s hall hslash ih =>
    obtain ⟨ha, hs⟩ := allSafe_cons.mp h
    obtain ⟨text, htext, rfl⟩ := Option.map_eq_some_iff.mp ht
    exact allSafe_cons.mpr ⟨ha, ih hs htext⟩

theorem AllSafe.hashHeading (h : AllSafe s) {level : Nat} (ht : hashHeading? s = some (level, t)) :
    AllSafe t := by
  rw [hashHeading?] at ht
  split_ifs at ht
  obtain ⟨text, htext, heq⟩ := Option.map_eq_some_iff.mp ht
  cases heq
  exact ((h.drop _).headingText htext).trim

theorem AllSafe.itemText (h : AllSafe s) (ht : itemText? s = some t) : AllSafe t := by
  rw [itemText?] at ht
  split_ifs at ht
  cases ht
  exact h.drop _

theorem AllSafe.afterBullet (h : AllSafe s) (ht : afterBullet? s = some t) : AllSafe t := by
  unfold afterBullet? at ht
  split at ht
  · split_ifs at ht
    exact (allSafe_cons.mp h).2.itemText ht
  · cases ht

theorem AllSafe.afterNumber (h : AllSafe s) {number : List Char}
    (ht : afterNumber? s = some (number, t)) : AllSafe t := by
  rw [afterNumber?] at ht
  split at ht
  · next rest hrest =>
    split_ifs at ht
    obtain ⟨text, htext, heq⟩ := Option.map_eq_some_iff.mp ht
    cases heq
    have hdot := h.drop (s.takeWhile (Atom.isIn isDecimalDigit)).length
    rw [hrest] at hdot
    exact (allSafe_cons.mp hdot).2.itemText htext
  · cases ht

theorem AllSafe.itemOf (h : AllSafe s) {list : Tag} {number : List Char}
    (ht : itemOf? list s = some (number, t)) : AllSafe t := by
  rw [itemOf?] at ht
  split at ht
  · cases ht
  · next line hline =>
    have hsafe := h.dropShortIndent hline
    split_ifs at ht
    · exact hsafe.afterNumber ht
    · obtain ⟨text, htext, heq⟩ := Option.map_eq_some_iff.mp ht
      cases heq
      exact hsafe.afterBullet htext

theorem allSafe_newLine (h : AllSafe s) : AllSafe (.char '\n' :: s) :=
  allSafe_cons.mpr ⟨.char (by decide), h⟩

theorem AllSafe.addLine (h : AllSafe s) (list : Tag) {items : List Atoms}
    (hitems : AllTextsSafe items) : AllTextsSafe (addLine list items s) := by
  unfold Markdown.addLine
  split
  · next number text hitem => exact allTextsSafe_cons.mpr ⟨h.itemOf hitem, hitems⟩
  · exact allTextsSafe_cons.mpr ⟨h, allTextsSafe_nil⟩
  · next item rest hitem =>
    obtain ⟨hfirst, hrest⟩ := allTextsSafe_cons.mp hitems
    split_ifs
    · exact allTextsSafe_cons.mpr ⟨h, hitems⟩
    · exact allTextsSafe_cons.mpr ⟨allSafe_append.mpr ⟨hfirst, allSafe_newLine h⟩, hrest⟩

theorem AllSafe.itemsOf (h : AllSafe s) (list : Tag) : AllTextsSafe (itemsOf list s) := by
  have hfold : ∀ (lines items : List Atoms), AllTextsSafe lines → AllTextsSafe items →
      AllTextsSafe (lines.foldl (Markdown.addLine list) items) := by
    intro lines
    induction lines with
    | nil => exact fun items _ hitems => hitems
    | cons line rest ih =>
      intro items hlines hitems
      obtain ⟨hline, hrest⟩ := allTextsSafe_cons.mp hlines
      exact ih _ hrest (hline.addLine list hitems)
  intro item hitem
  exact hfold _ [] h.linesOf allTextsSafe_nil item (List.mem_reverse.mp hitem)

/-! ## 4. Quotations -/

theorem AllSafe.quoted (h : AllSafe s) (ht : quoted? s = some t) : AllSafe t := by
  rw [quoted?] at ht
  split at ht
  · next rest hrest =>
    cases ht
    have hsafe := (allSafe_cons.mp (h.dropShortIndent hrest)).2
    split_ifs
    · exact hsafe.drop 1
    · exact hsafe
  · cases ht

theorem AllSafe.unquote (h : AllSafe s) : AllSafe (unquote s) := by
  rw [Markdown.unquote]
  split
  · exact allSafe_nil
  · cases hquoted : quoted? s with
    | none => exact h
    | some text => exact h.quoted hquoted

/-! ## 5. References -/

theorem AllSafe.titleLine (h : AllSafe s) (ht : titleLine? s = some t) : AllSafe t := by
  have hline : AllSafe (s.reverse.dropWhile (Atom.is ' ')).reverse := h.dropEndWhile
  rw [titleLine?] at ht
  dsimp only at ht
  split at ht
  · next o inner c hinner _ =>
    split_ifs at ht
    cases ht
    rw [hinner] at hline
    exact (allSafe_cons.mp hline).2.dropLast
  · cases ht

/-- A title in a line of its own or of the target, and the text after that line. -/
theorem AllSafe.titleLine_splitLine (h : AllSafe s) {title : Atoms}
    (ht : titleLine? (splitLine s).1 = some title) :
    IsSafeTitle (some title) ∧ AllSafe (splitLine s).2 :=
  ⟨isSafeTitle_some.mpr (AllSafe.titleLine h.takeWhile ht), h.dropWhile⟩

theorem AllSafe.referenceTail (h : AllSafe s) {title : Option Atoms} {rest : Atoms}
    (ht : referenceTail? s = some (title, rest)) :
    IsSafeTitle title ∧ AllSafe rest := by
  have hs : AllSafe (s.dropWhile (Atom.is ' ')) := h.dropWhile
  have hhere (found : Option Atoms × Atoms)
      (hfound : (if (splitLine (s.dropWhile (Atom.is ' '))).1.isEmpty then
          some (none, (splitLine (s.dropWhile (Atom.is ' '))).2)
        else (titleLine? (splitLine (s.dropWhile (Atom.is ' '))).1).map fun title =>
          (some title, (splitLine (s.dropWhile (Atom.is ' '))).2)) = some found) :
      IsSafeTitle found.1 ∧ AllSafe found.2 := by
    split_ifs at hfound
    · cases hfound
      exact ⟨isSafeTitle_none, hs.dropWhile⟩
    · obtain ⟨title, htitle, rfl⟩ := Option.map_eq_some_iff.mp hfound
      exact hs.titleLine_splitLine htitle
  unfold referenceTail? at ht
  dsimp only at ht
  split at ht
  · next r hr =>
    rw [hr] at hs
    have hnext : AllSafe (r.dropWhile (Atom.is ' ')) := (allSafe_cons.mp hs).2.dropWhile
    by_cases hempty : (splitLine (r.dropWhile (Atom.is ' '))).1.isEmpty = true
    · rw [if_pos hempty] at ht
      cases ht
      exact ⟨isSafeTitle_none, hnext.dropWhile⟩
    · rw [if_neg hempty] at ht
      split at ht
      · next found hfound =>
        cases ht
        exact hnext.titleLine_splitLine hfound
      · exact hhere _ ht
  · exact hhere _ ht

theorem AllSafe.target (h : AllSafe s) {bound : Nat} {target : Atoms} {title : Option Atoms}
    {rest : Atoms} (ht : target? s bound = some (target, title, rest)) :
    AllSafe target ∧ IsSafeTitle title ∧ AllSafe rest := by
  induction bound with
  | zero => cases ht
  | succ n ih =>
    rw [target?] at ht
    split at ht
    · next found after hfound =>
      cases ht
      obtain ⟨htitle, hrest⟩ := (h.drop _).referenceTail hfound
      exact ⟨h.take _, htitle, hrest⟩
    · exact ih ht

theorem AllSafe.bareTarget (h : AllSafe s) : AllSafe (bareTarget s) :=
  h.dropWhile.dropEndWhile

theorem AllSafe.referenceAt (h : AllSafe s) {r : Reference} {rest : Atoms}
    (ht : referenceAt? s = some (r, rest)) : r.IsSafe ∧ AllSafe rest := by
  have hnextLine (s : Atoms) (h : AllSafe s) :
      AllSafe (if startsWith '\n' s then s.drop 1 else s) := by
    split_ifs
    · exact h.drop 1
    · exact h
  unfold referenceAt? at ht
  split at ht
  · next inner hinner =>
    have hs := (allSafe_cons.mp (h.dropShortIndent hinner)).2
    dsimp only at ht
    split at ht
    · next after hafter =>
      have hdrop := hs.drop (inner.takeWhile fun a => !(Atom.is '[' a || Atom.is ']' a)).length
      rw [hafter] at hdrop
      have hafter : AllSafe (after.dropWhile (Atom.is ' ')) :=
        (allSafe_cons.mp (allSafe_cons.mp hdrop).2).2.dropWhile
      have hrest := hnextLine _ hafter
      split at ht
      · next name target title last _ htarget =>
        cases ht
        obtain ⟨hplace, htitle, hlast⟩ := AllSafe.target hrest.dropWhile htarget
        refine ⟨⟨hplace.bareTarget, fun t heq => ?_⟩, hlast⟩
        obtain ⟨u, hu, heq⟩ := Option.bind_eq_some_iff.mp heq
        split_ifs at heq
        cases heq
        exact htitle t hu
      · cases ht
    · cases ht
  · cases ht

theorem AllSafe.findDefinition (h : AllSafe s) {before : Atoms} (hbefore : AllSafe before)
    {atStart : Bool} {front : Atoms} {r : Reference} {after : Atoms}
    (ht : findDefinition? before atStart s = some (front, r, after)) :
    AllSafe front ∧ r.IsSafe ∧ AllSafe after := by
  induction s generalizing before atStart with
  | nil => cases ht
  | cons a s ih =>
    obtain ⟨ha, hs⟩ := allSafe_cons.mp h
    rw [findDefinition?] at ht
    split at ht
    · next found rest hfound =>
      cases ht
      split_ifs at hfound
      obtain ⟨hr, hafter⟩ := h.referenceAt hfound
      exact ⟨allSafe_reverse.mpr hbefore, hr, hafter⟩
    · exact ih hs (allSafe_cons.mpr ⟨ha, hbefore⟩) ht

end StaticSite.Markdown
