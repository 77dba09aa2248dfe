/-
StaticSite.Proofs.Markdown.ProseHtml — prose as markup.

Each paragraph of a text of prose becomes what is meant by its line, on a line of its
own (`IsSpaced.toHtml`). Nothing is escaped, as no sign that means something in markup
comes in prose. For use in a line the tags of a lone paragraph are taken off, since no
other `<p>` stands in what is meant by a line (`Line.tag_not_infix`); of more paragraphs
the second one starts with it.
-/
import StaticSite.Proofs.Markdown.LoneParagraph
import StaticSite.Proofs.Markdown.ProseBlocks
import StaticSite.Proofs.Markdown.ProseEmphasis

namespace StaticSite.Markdown

open StaticSite.Text

/-! ## 1. Elements in paragraphs -/

/-- There is no element in the text. -/
def HasNoNodes (s : Atoms) : Prop :=
  ∀ a ∈ s, a.isNode = false

/-- A character, or an element in a line with nothing but text in it. -/
inductive Atom.IsInline : Atom → Prop where
  | char (c : Char) : (Atom.char c).IsInline
  | node {tag : Tag} {content : Atoms} (attributes : List (String × Atoms))
      (hblock : tag.isBlock = false) (hbreak : tag ≠ .lineBreak) (hcontent : HasNoNodes content) :
      (Atom.node tag attributes content).IsInline

section

variable {s : Atoms} {runs : List Run}

theorem hasNoNodes_ofChars (s : List Char) : HasNoNodes (ofChars s) := by
  intro a ha
  obtain ⟨c, -, rfl⟩ := List.mem_map.mp ha
  rfl

theorem hasNoNodes_verbatimText (s : List Char) : HasNoNodes (verbatimText s) := by
  intro a ha
  obtain ⟨c, -, rfl⟩ := List.mem_map.mp ha
  rfl

theorem Run.isInline_atoms (r : Run) : ∀ a ∈ r.atoms, a.IsInline := by
  intro a ha
  cases r with
  | plain s =>
    obtain ⟨c, -, rfl⟩ := List.mem_map.mp ha
    exact .char c
  | code s =>
    rw [List.mem_singleton.mp ha]
    exact .node _ rfl (by decide) (hasNoNodes_verbatimText s)
  | emphasis s =>
    rw [List.mem_singleton.mp ha]
    exact .node _ rfl (by decide) (hasNoNodes_ofChars s)
  | link label target =>
    rw [List.mem_singleton.mp ha]
    exact .node _ rfl (by decide) (hasNoNodes_ofChars label)

theorem isInline_flatMap_atoms (runs : List Run) : ∀ a ∈ runs.flatMap Run.atoms, a.IsInline := by
  intro a ha
  obtain ⟨r, -, ha⟩ := List.mem_flatMap.mp ha
  exact r.isInline_atoms a ha

theorem HasNoNodes.leadingText (h : HasNoNodes s) : leadingText s = s :=
  List.takeWhile_eq_self_iff.mpr fun a ha => by rw [h a ha]; rfl

theorem HasNoNodes.fromElement (h : HasNoNodes s) : fromElement s = [] :=
  List.dropWhile_eq_nil_iff.mpr fun a ha => by rw [h a ha]; rfl

theorem HasNoNodes.readElements (h : HasNoNodes s) (read : Atoms → Atoms) (bound : Nat) :
    readElements read bound s = s := by
  induction bound generalizing s with
  | zero => rw [Markdown.readElements]
  | succ bound ih =>
    cases s with
    | nil => rfl
    | cons a s =>
      rw [HasNoNodes, List.forall_mem_cons] at h
      cases a with
      | node tag attributes content => cases h.1
      | char c | verbatim c | escaped c | markup m => rw [Markdown.readElements, ih h.2]; simp

theorem map_of_isInline {f : Atom → Atom} (h : ∀ a ∈ s, a.IsInline)
    (hchar : ∀ c, f (.char c) = .char c)
    (hnode : ∀ tag attributes content, HasNoNodes content →
      f (.node tag attributes content) = .node tag attributes content) : s.map f = s := by
  refine (List.map_congr_left fun a ha => ?_).trans s.map_id
  cases h a ha with
  | char c => exact hchar c
  | node attributes hblock hbreak hcontent => exact hnode _ attributes _ hcontent

end

/-- The paragraph of a line that has been read. -/
def Line.node (line : Line) : Atom :=
  .node .paragraph [] (line.runs.flatMap Run.atoms)

theorem leadingText_map_node {α : Type} (tag : Tag) (content : α → Atoms) (rest : List α) :
    leadingText (rest.map fun a => .node tag [] (content a)) = [] := by
  cases rest <;> rfl

theorem fromElement_map_node {α : Type} (tag : Tag) (content : α → Atoms) (rest : List α) :
    fromElement (rest.map fun a => .node tag [] (content a)) =
      rest.map fun a => .node tag [] (content a) := by
  cases rest <;> rfl

/-- The text of each paragraph is read, and nothing stands between the paragraphs. -/
theorem readElements_paragraphs (references : References) (lines : List Line) {bound : Nat}
    (h : lines.length ≤ bound) :
    readElements (readText references) bound
      (lines.map fun line => .node .paragraph [] (ofChars line.source)) = lines.map Line.node := by
  induction lines generalizing bound with
  | nil => cases bound <;> rfl
  | cons line lines ih =>
    obtain ⟨bound, rfl⟩ := Nat.exists_eq_add_of_le' (show 1 ≤ bound from le_trans (by simp) h)
    have htext := hasNoNodes_ofChars line.source
    have hread : readText references (ofChars line.source) = line.runs.flatMap Run.atoms :=
      line.areRuns.readText_eq references
    have hlines : lines.length ≤ bound := by simpa using h
    rw [List.map_cons, readElements, htext.leadingText, htext.fromElement, hread,
      leadingText_map_node, fromElement_map_node, readText_nil, List.nil_append]
    simp only [List.isEmpty_nil, if_true]
    rw [ih hlines, map_of_isInline (isInline_flatMap_atoms line.runs) (fun _ => rfl)
      fun tag attributes content hcontent => by dsimp only; rw [hcontent.readElements]]
    rfl

theorem childAtoms_paragraphs (lines : List Line) :
    childAtoms (lines.map fun line => (.ofText .paragraph (ofChars line.source), [])) =
      lines.map fun line => .node .paragraph [] (ofChars line.source) := by
  induction lines with
  | nil => rfl
  | cons line lines ih =>
    rw [List.map_cons, childAtoms, ih, Block.ofText, Block.toAtom, if_neg (by decide), childAtoms,
      List.append_nil]
    rfl

theorem length_le_size (s : Atoms) : s.length ≤ size s := by
  induction s with
  | nil => exact Nat.zero_le _
  | cons a s ih =>
    have ha : 1 ≤ a.size := by
      cases a with
      | node tag attributes content => exact Nat.le_add_left 1 _
      | char c | verbatim c | escaped c | markup m => exact Nat.le_refl 1
    rw [size, List.length_cons]
    omega

theorem documentOf_paragraphs (lines : List Line) :
    documentOf (paragraphs lines) = lines.map Line.node := by
  have hlength := length_le_size
    (lines.map fun line => .node .paragraph [] (ofChars line.source))
  rw [List.length_map] at hlength
  rw [documentOf, paragraphs, Block.toAtom, if_neg (by decide), childAtoms_paragraphs]
  exact readElements_paragraphs [] lines hlength

/-! ## 2. Line ends -/

section

variable {s : Atoms} {inBlock : Bool}

theorem HasNoNodes.layElements (h : HasNoNodes s) : layElements inBlock s = [] := by
  induction s with
  | nil => rfl
  | cons a s ih =>
    rw [HasNoNodes, List.forall_mem_cons] at h
    cases a with
    | node tag attributes content => cases h.1
    | char c | verbatim c | escaped c | markup m => rw [Markdown.layElements, ih h.2]; simp

theorem HasNoNodes.laidStart (h : HasNoNodes s) : laidStart inBlock s = s := by
  rw [Markdown.laidStart, h.fromElement, h.leadingText]

/-- An element in a line is laid out as it is. -/
theorem layAtom_inline {tag : Tag} {attributes : List (String × Atoms)} {content : Atoms}
    (hblock : tag.isBlock = false) (hcontent : HasNoNodes content) :
    layAtom (.node tag attributes content) = .node tag attributes content := by
  rw [layAtom]
  · rw [hcontent.laidStart, hcontent.layElements, List.append_nil]
  · rintro _ _ rfl
    cases hblock

theorem laidTail_inline {tag : Tag} (hblock : tag.isBlock = false) (hbreak : tag ≠ .lineBreak) :
    laidTail inBlock tag s = s := by
  rw [laidTail, if_neg hbreak, hblock, Bool.and_false, if_neg Bool.false_ne_true]

theorem layElements_inline (h : ∀ a ∈ s, a.IsInline) :
    layElements inBlock s = fromElement s := by
  induction s with
  | nil => rfl
  | cons a s ih =>
    rw [List.forall_mem_cons] at h
    cases h.1 with
    | char c =>
      rw [layElements, ih h.2]
      · rfl
      · intro tag attributes content heq
        cases heq
    | node attributes hblock hbreak hcontent =>
      rw [layElements, layAtom_inline hblock hcontent, laidTail_inline hblock hbreak, ih h.2,
        leadingText, fromElement, List.takeWhile_append_dropWhile]
      rfl

theorem laidStart_inline (h : ∀ a ∈ s, a.IsInline) : laidStart inBlock s = leadingText s := by
  rw [laidStart]
  split
  · next a rest heq =>
    have ha := h a (List.dropWhile_subset _ (heq ▸ List.mem_cons_self))
    have hblock : a.isBlockNode = false := by
      cases ha with
      | char c => rfl
      | node attributes hblock hbreak hcontent => exact hblock
    rw [hblock, Bool.and_false, if_neg Bool.false_ne_true]
  · rfl

end

theorem layAtom_node (line : Line) : layAtom line.node = line.node := by
  have hinline := isInline_flatMap_atoms line.runs
  rw [Line.node, layAtom]
  · rw [laidStart_inline hinline, layElements_inline hinline, leadingText, fromElement,
      List.takeWhile_append_dropWhile]
  · exact nofun

theorem layElements_lines (lines : List Line) :
    layElements true (lines.map Line.node) =
      lines.flatMap fun line => [line.node, .verbatim '\n'] := by
  induction lines with
  | nil => rfl
  | cons line lines ih =>
    have hleading : leadingText (lines.map Line.node) = [] := leadingText_map_node _ _ _
    rw [List.map_cons, Line.node, layElements, hleading, ih, ← Line.node, layAtom_node]
    rfl

theorem lay_lines {lines : List Line} (h : lines ≠ []) :
    lay (lines.map Line.node) =
      .verbatim '\n' :: lines.flatMap fun line => [line.node, .verbatim '\n'] := by
  obtain ⟨line, lines, rfl⟩ := List.exists_cons_of_ne_nil h
  rw [lay, layElements_lines]
  rfl

/-! ## 3. Rendering -/

section

variable {s : List Char} {rest : Atoms}

/-- No character of the text means something in markup. -/
def NeedsNoEscape (s : List Char) : Prop :=
  ∀ c ∈ s, isProseChar c = true

theorem escapeText_eq_self (h : NeedsNoEscape s) (inValue : Bool) : escapeText inValue s = s := by
  induction s with
  | nil => rfl
  | cons c s ih =>
    rw [NeedsNoEscape, List.forall_mem_cons] at h
    have hand : c ≠ '&' := ne_of_not h.1 (by decide)
    have hless : c ≠ '<' := ne_of_not h.1 (by decide)
    have hgreater : c ≠ '>' := ne_of_not h.1 (by decide)
    have hquote : c ≠ '"' := ne_of_not h.1 (by decide)
    simp [escapeText, ih h.2, hand, hless, hgreater, hquote]

theorem renderFrom_ofChars (s collected : List Char) (rest : Atoms) :
    renderFrom collected (ofChars s ++ rest) = renderFrom (s.reverse ++ collected) rest := by
  induction s generalizing collected with
  | nil => rfl
  | cons c s ih =>
    rw [ofChars_cons, List.cons_append, renderFrom, ih, List.reverse_cons, List.append_assoc]
    rfl

theorem renderFrom_verbatimText (s collected : List Char) (rest : Atoms) :
    renderFrom collected (verbatimText s ++ rest) = renderFrom (s.reverse ++ collected) rest := by
  induction s generalizing collected with
  | nil => rfl
  | cons c s ih =>
    rw [verbatimText, List.map_cons, List.cons_append, renderFrom, ← verbatimText, ih,
      List.reverse_cons, List.append_assoc]
    rfl

theorem renderFrom_nil (h : NeedsNoEscape s) : renderFrom s.reverse [] = s := by
  rw [renderFrom, afterText, List.reverse_reverse, escapeText_eq_self h, List.append_nil]

theorem renderFrom_text (h : NeedsNoEscape s) : renderFrom [] (ofChars s) = s := by
  have htext := renderFrom_ofChars s [] []
  rw [List.append_nil, List.append_nil] at htext
  rw [htext, renderFrom_nil h]

theorem renderFrom_code (h : NeedsNoEscape s) : renderFrom [] (verbatimText s) = s := by
  have htext := renderFrom_verbatimText s [] []
  rw [List.append_nil, List.append_nil] at htext
  rw [htext, renderFrom_nil h]

theorem renderValue_ofChars (s collected : List Char) (rest : Atoms) :
    renderValue collected (ofChars s ++ rest) = renderValue (s.reverse ++ collected) rest := by
  induction s generalizing collected with
  | nil => rfl
  | cons c s ih =>
    rw [ofChars_cons, List.cons_append, renderValue, ih, List.reverse_cons, List.append_assoc]
    rfl

theorem renderValue_text (h : NeedsNoEscape s) : renderValue [] (ofChars s) = s := by
  have htext := renderValue_ofChars s [] []
  rw [List.append_nil, List.append_nil] at htext
  rw [htext, renderValue, afterText, List.reverse_reverse, escapeText_eq_self h, List.append_nil]

end

section

variable {r : Run} {runs : List Run} {s : List Char}

theorem renderAtom_of_ne {tag : Tag} (h : tag ≠ .paragraph) (attributes : List (String × Atoms))
    (content : Atoms) :
    renderAtom (.node tag attributes content) =
      startTagText tag attributes ++ (renderFrom [] content ++ endTagText tag) := by
  rw [renderAtom, decide_eq_false h, Bool.false_and, if_neg Bool.false_ne_true, List.append_assoc]

theorem renderAtom_code (h : (Run.code s).IsSound) :
    renderAtom (.node .code [] (verbatimText s)) = (Run.code s).html := by
  have hs : NeedsNoEscape s := IsWordOver.isProseChar h (by decide)
  rw [renderAtom_of_ne (by decide), renderFrom_code hs]
  rfl

theorem renderAtom_emphasis (h : (Run.emphasis s).IsSound) :
    renderAtom (.node .emphasis [] (ofChars s)) = (Run.emphasis s).html := by
  have hs : NeedsNoEscape s := IsPhrase.isProseChar h
  rw [renderAtom_of_ne (by decide), renderFrom_text hs]
  rfl

theorem startTagText_link {value : Atoms} {target : List Char} (h : renderValue [] value = target) :
    startTagText .link [("href", value)] = "<a href=\"".toList ++ (target ++ ['"', '>']) := by
  have hname : Tag.link.name.toList = ['a'] := by decide
  have hhref : "href".toList = ['h', 'r', 'e', 'f'] := by decide
  rw [startTagText, renderAttributes, renderAttributes, h, renderAttribute, hname, hhref]
  simp

theorem renderAtom_link {label target : List Char} (h : (Run.link label target).IsSound) :
    renderAtom (.node .link [("href", ofChars target)] (ofChars label)) =
      (Run.link label target).html := by
  have hlabel : NeedsNoEscape label := h.1.isProseChar
  have htarget : NeedsNoEscape target := h.2.isProseChar (by decide)
  have hstart := startTagText_link (renderValue_text htarget)
  have hend : endTagText .link = "</a>".toList := by decide
  rw [renderAtom_of_ne (by decide), renderFrom_text hlabel, hstart, hend,
    List.append_assoc, List.append_assoc]
  rfl

theorem renderFrom_node (h : NeedsNoEscape s) (tag : Tag) (attributes : List (String × Atoms))
    (content rest : Atoms) :
    renderFrom s.reverse (.node tag attributes content :: rest) =
      s ++ (renderAtom (.node tag attributes content) ++ renderFrom [] rest) := by
  rw [renderFrom, afterText, List.reverse_reverse, escapeText_eq_self h]

/-- Text is collected from one element to the next. -/
theorem AreRuns.renderFrom_eq (h : AreRuns runs) (hs : NeedsNoEscape s) :
    renderFrom s.reverse (runs.flatMap Run.atoms) = s ++ runs.flatMap Run.html := by
  induction runs generalizing s with
  | nil => rw [List.flatMap_nil, renderFrom_nil hs, List.flatMap_nil, List.append_nil]
  | cons r runs ih =>
    have hnext := ih h.tail (s := []) (by simp [NeedsNoEscape])
    rw [List.flatMap_cons, List.flatMap_cons]
    cases r with
    | plain t =>
      have ht : NeedsNoEscape t := h.head.isProseChar
      have hboth : NeedsNoEscape (s ++ t) := List.forall_mem_append.mpr ⟨hs, ht⟩
      have hcollected := ih h.tail hboth
      rw [List.reverse_append, List.append_assoc] at hcollected
      exact (renderFrom_ofChars t _ _).trans hcollected
    | code t =>
      rw [← renderAtom_code h.head, ← List.nil_append (runs.flatMap Run.html), ← hnext]
      exact renderFrom_node hs _ _ _ _
    | emphasis t =>
      rw [← renderAtom_emphasis h.head, ← List.nil_append (runs.flatMap Run.html), ← hnext]
      exact renderFrom_node hs _ _ _ _
    | link label target =>
      rw [← renderAtom_link h.head, ← List.nil_append (runs.flatMap Run.html), ← hnext]
      exact renderFrom_node hs _ _ _ _

theorem isLoneBlock_inline {s : Atoms} (h : ∀ a ∈ s, a.IsInline) : isLoneBlock s = false := by
  unfold isLoneBlock
  split
  · next m => cases h (.markup m) List.mem_cons_self
  · rfl

theorem renderAtom_paragraph (line : Line) : renderAtom line.node = line.paragraph := by
  have hcontent := line.areRuns.renderFrom_eq (s := []) (by simp [NeedsNoEscape])
  rw [Line.node, renderAtom, isLoneBlock_inline (isInline_flatMap_atoms line.runs), Bool.and_false,
    if_neg Bool.false_ne_true]
  refine (congrArg (fun inside => "<p>".toList ++ inside ++ "</p>".toList) hcontent).trans ?_
  rw [List.append_assoc]
  rfl

/-- Each paragraph comes on a line of its own. -/
theorem renderFrom_lines (lines : List Line) :
    renderFrom ['\n'] (lines.flatMap fun line => [line.node, .verbatim '\n']) =
      '\n' :: lines.flatMap fun line => line.paragraph ++ ['\n'] := by
  induction lines with
  | nil => rfl
  | cons line lines ih =>
    have hend : renderFrom ['\n'] (line.node :: .verbatim '\n' ::
        lines.flatMap fun line => [line.node, .verbatim '\n']) =
          '\n' :: (renderAtom line.node ++ renderFrom ['\n']
            (lines.flatMap fun line => [line.node, .verbatim '\n'])) := by
      rw [Line.node, renderFrom, renderFrom]
      rfl
    rw [List.flatMap_cons, List.flatMap_cons, List.cons_append, List.singleton_append, hend,
      renderAtom_paragraph, ih, List.append_assoc, List.singleton_append]

end

/-! ## 4. The whole text -/

section

variable {lines : List Line} {s : List Char}

theorem joinLists_lineEnds {α : Type} (f : α → List Char) {items : List α} (h : items ≠ []) :
    items.flatMap (fun a => f a ++ ['\n']) = joinLists ['\n'] (items.map f) ++ ['\n'] := by
  induction items with
  | nil => exact absurd rfl h
  | cons a items ih =>
    rw [List.flatMap_cons, List.map_cons]
    cases items with
    | nil => simp [joinLists]
    | cons b items =>
      rw [ih (List.cons_ne_nil b items), joinLists_cons (by simp)]
      simp only [List.append_assoc]

theorem IsSpaced.ne_nil (h : IsSpaced lines s) : lines ≠ [] := by
  cases h <;> exact List.cons_ne_nil _ _

/-- Spaced lines start with the first line and end with the last one. -/
theorem IsSpaced.ends (h : IsSpaced lines s) :
    (∃ line : Line, line.source <+: s) ∧ ∃ line : Line, line.source <:+ s := by
  induction h with
  | one line => exact ⟨⟨line, List.prefix_rfl⟩, line, List.suffix_rfl⟩
  | cons line spaces hne h ih =>
    obtain ⟨-, last, hlast⟩ := ih
    refine ⟨⟨line, List.prefix_append _ _⟩, last, hlast.trans ?_⟩
    exact (((List.suffix_append _ _).trans (List.suffix_cons _ _))).trans (List.suffix_append _ _)

theorem IsSpaced.trim (h : IsSpaced lines s) : Text.trim s = s := by
  obtain ⟨⟨first, hfirst⟩, last, hlast⟩ := h.ends
  refine trim_eq_self_iff.mpr ⟨fun c hc => ?_, fun c hc => ?_⟩
  · obtain ⟨t, rfl⟩ := hfirst
    rw [List.head?_append_of_ne_nil _ first.start.ne_nil] at hc
    exact first.isBlank_of_head? hc
  · obtain ⟨t, rfl⟩ := hlast
    rw [List.getLast?_append_of_ne_nil _ last.start.ne_nil] at hc
    exact last.isBlank_of_getLast? hc

/-- The paragraphs start with a start tag and end with an end tag. -/
theorem exists_inside (h : lines ≠ []) :
    ∃ inside, joinLists ['\n'] (lines.map Line.paragraph) =
      "<p>".toList ++ (inside ++ "</p>".toList) := by
  induction lines with
  | nil => exact absurd rfl h
  | cons line lines ih =>
    cases lines with
    | nil => exact ⟨line.html, rfl⟩
    | cons next lines =>
      obtain ⟨inside, hinside⟩ := ih (List.cons_ne_nil next lines)
      refine ⟨line.html ++ ("</p>".toList ++ ('\n' :: ("<p>".toList ++ inside))), ?_⟩
      rw [List.map_cons, joinLists_cons (by simp), hinside, Line.paragraph]
      simp only [List.append_assoc, List.cons_append, List.nil_append]

/-- The line ends around the paragraphs are trimmed. -/
theorem trim_paragraphs (h : lines ≠ []) :
    Text.trim ('\n' :: (joinLists ['\n'] (lines.map Line.paragraph) ++ ['\n'])) =
      joinLists ['\n'] (lines.map Line.paragraph) := by
  obtain ⟨inside, hinside⟩ := exists_inside h
  have hlast : ("<p>".toList ++ (inside ++ "</p>".toList)).getLast? = some '>' := by
    rw [List.getLast?_append_of_ne_nil _ (by simp), List.getLast?_append_of_ne_nil _ (by decide)]
    rfl
  have hfront : Text.dropBlank ('\n' :: ("<p>".toList ++ (inside ++ "</p>".toList) ++ ['\n'])) =
      "<p>".toList ++ (inside ++ "</p>".toList) ++ ['\n'] := rfl
  rw [hinside, Text.trim, hfront, Text.dropEndBlank, dropEndWhile_append ⟨'>', hlast, by decide⟩]
  exact List.append_nil _

/-- Prose renders as what is meant by its lines, paragraph by paragraph. -/
theorem IsSpaced.toHtml (h : IsSpaced lines s) :
    toHtml (String.ofList s) = String.ofList (joinLists ['\n'] (lines.map Line.paragraph)) := by
  have hne : s.isEmpty = false := by
    obtain ⟨⟨line, t, rfl⟩, -⟩ := h.ends
    rw [List.isEmpty_eq_false_iff]
    exact List.append_ne_nil_of_left_ne_nil line.start.ne_nil t
  have hread : read s = lines.map Line.node := by
    rw [read, h.outlineOf, documentOf_paragraphs]
  have hrender : render (lay (lines.map Line.node)) =
      '\n' :: lines.flatMap fun line => line.paragraph ++ ['\n'] := by
    rw [lay_lines h.ne_nil, render, renderFrom, renderFrom_lines]
  unfold Markdown.toHtml
  dsimp only
  rw [String.toList_ofList, h.trim, hne, if_neg Bool.false_ne_true, hread, hrender,
    joinLists_lineEnds _ h.ne_nil, trim_paragraphs h.ne_nil]

end

/-! ## 5. In a line -/

/-- No `<p` stands here. -/
def NoParagraphTag (c d : Char) : Prop :=
  c ≠ '<' ∨ d ≠ 'p'

section

variable {s t : List Char} {runs : List Run} {lines : List Line}

theorem isChain_text (hs : '<' ∉ s) (ht : t.IsChain NoParagraphTag) :
    (s ++ t).IsChain NoParagraphTag := by
  induction s with
  | nil => exact ht
  | cons c s ih =>
    rw [List.mem_cons, not_or] at hs
    exact (ih hs.2).cons fun d _ => .inl (Ne.symm hs.1)

theorem isChain_tag {c : Char} (hc : c ≠ 'p') (hs : '<' ∉ c :: s)
    (ht : t.IsChain NoParagraphTag) : ('<' :: (c :: s ++ t)).IsChain NoParagraphTag :=
  (isChain_text hs ht).cons fun d hd => .inr (by
    cases hd
    exact hc)

theorem html_code (s : List Char) :
    (Run.code s).html = "<code>".toList ++ (s ++ "</code>".toList) :=
  rfl

theorem html_emphasis (s : List Char) :
    (Run.emphasis s).html = "<em>".toList ++ (s ++ "</em>".toList) :=
  rfl

theorem html_link (label target : List Char) :
    (Run.link label target).html =
      "<a href=\"".toList ++ (target ++ ('"' :: '>' :: (label ++ "</a>".toList))) :=
  rfl

/-- An element that does not start with a `p` has no paragraph in it. -/
theorem isChain_element (c : Char) (inside stop : List Char) (hc : c ≠ 'p')
    (hinside : '<' ∉ c :: inside) (hstop : '<' ∉ '/' :: stop) (ht : t.IsChain NoParagraphTag) :
    ('<' :: (c :: inside ++ ('<' :: ('/' :: stop ++ t)))).IsChain NoParagraphTag :=
  isChain_tag hc hinside (isChain_tag (by decide) hstop ht)

theorem AreRuns.isChain_html (h : AreRuns runs) :
    (runs.flatMap Run.html).IsChain NoParagraphTag := by
  induction runs with
  | nil => exact .nil
  | cons r runs ih =>
    have hnext := ih h.tail
    rw [List.flatMap_cons]
    cases r with
    | plain s => exact isChain_text (h.head.not_mem (by decide) (by decide)) hnext
    | code s =>
      have hs := h.head.not_mem (d := '<') (by decide) (by decide)
      have helement := isChain_element 'c' ("ode>".toList ++ s) "code>".toList (by decide)
        (by simp [hs]) (by decide) hnext
      simpa [html_code] using helement
    | emphasis s =>
      have hs := h.head.not_mem (d := '<') (by decide) (by decide)
      have helement := isChain_element 'e' ("m>".toList ++ s) "em>".toList (by decide)
        (by simp [hs]) (by decide) hnext
      simpa [html_emphasis] using helement
    | link label target =>
      have hlabel := h.head.1.not_mem (d := '<') (by decide) (by decide)
      have htarget := h.head.2.not_mem (d := '<') (by decide) (by decide)
      have helement := isChain_element 'a' (" href=\"".toList ++ (target ++ ('"' :: '>' :: label)))
        "a>".toList (by decide) (by simp [hlabel, htarget]) (by decide) hnext
      simpa [html_link] using helement

/-- No paragraph starts in what is meant by a line. -/
theorem Line.tag_not_infix (line : Line) : ¬ Markup.openingTag "p" [] <:+: line.html := by
  intro hinfix
  have hchain := line.areRuns.isChain_html.infix hinfix
  rcases (List.isChain_cons_cons.mp hchain).1 with hangle | hname
  · exact hangle rfl
  · exact hname rfl

theorem IsSpaced.toInlineHtml_one {line : Line} (h : IsSpaced [line] s) :
    toInlineHtml (String.ofList s) = String.ofList line.html := by
  refine toInlineHtml_of_tags ⟨?_, line.tag_not_infix⟩
  rw [h.toHtml, String.toList_ofList]
  rfl

/-- A second paragraph starts after the first one. -/
theorem IsSpaced.toInlineHtml_more {line next : Line} {lines : List Line}
    (h : IsSpaced (line :: next :: lines) s) :
    toInlineHtml (String.ofList s) = Markdown.toHtml (String.ofList s) := by
  refine toInlineHtml_of_no_tags ?_
  rintro ⟨inside, hinside, hlone⟩
  rw [h.toHtml, String.toList_ofList] at hinside
  obtain ⟨after, hafter⟩ := exists_inside (List.cons_ne_nil next lines)
  rw [List.map_cons, joinLists_cons (by simp), hafter] at hinside
  have hboth : "<p>".toList ++ (line.html ++ ("</p>".toList ++ ('\n' :: ("<p>".toList ++ after))) ++
      "</p>".toList) = "<p>".toList ++ (inside ++ "</p>".toList) := by
    refine Eq.trans ?_ hinside
    rw [Line.paragraph]
    simp only [List.append_assoc, List.cons_append, List.nil_append]
  have hsame := List.append_cancel_right (List.append_cancel_left hboth)
  refine hlone ⟨line.html ++ ("</p>".toList ++ ['\n']), after, ?_⟩
  rw [← hsame]
  simp only [List.append_assoc, List.cons_append, List.nil_append]
  rfl

/-- Prose renders as it is meant: each line becomes a paragraph, in order, and for use in a line a
single one comes without its tags. -/
theorem toHtml_of_isSpaced (h : IsSpaced lines s) :
    toHtml (String.ofList s) = String.ofList (joinLists ['\n'] (lines.map Line.paragraph)) ∧
      (∀ line, lines = [line] → toInlineHtml (String.ofList s) = String.ofList line.html) ∧
        (1 < lines.length →
          toInlineHtml (String.ofList s) = toHtml (String.ofList s)) := by
  refine ⟨h.toHtml, ?_, fun hmore => ?_⟩
  · rintro line rfl
    exact h.toInlineHtml_one
  · match lines, h, hmore with
    | line :: next :: later, h, _ => exact h.toInlineHtml_more

end

/-- A line with runs of each kind. -/
def newKeysLine : Line where
  runs := [.emphasis "New keys".toList, .plain ": ".toList, .code "-#".toList,
    .plain ", see ".toList, .link "the docs".toList "https://a.b/c#d".toList]
  areRuns := by
    refine ⟨?_, by decide⟩
    simp only [List.forall_mem_cons, List.not_mem_nil, false_implies, implies_true, and_true]
    exact ⟨isPhrase_of_all (by decide) (by decide) (by decide) (by decide),
      isWordOver_of_all (by decide) (by decide), isWordOver_of_all (by decide) (by decide),
      isWordOver_of_all (by decide) (by decide),
      isPhrase_of_all (by decide) (by decide) (by decide) (by decide),
      isWordOver_of_all (by decide) (by decide)⟩
  ne_nil := by decide
  head := by decide
  last := by decide

/-- A line that starts with a number. -/
def countLine : Line where
  runs := [.plain "12 more".toList]
  areRuns := by
    refine ⟨?_, by decide⟩
    rw [List.forall_mem_singleton]
    exact isWordOver_of_all (by decide) (by decide)
  ne_nil := by decide
  head := by decide
  last := by decide

/-- Two lines with a line of one space and an empty one between them. -/
theorem toHtml_of_isSpaced_twoLines :
    IsSpaced [newKeysLine, countLine]
        "*New keys*: `-#`, see [the docs](https://a.b/c#d)\n \n\n12 more".toList ∧
      toInlineHtml "*New keys*: `-#`, see [the docs](https://a.b/c#d)\n \n\n12 more" =
        "<p><em>New keys</em>: <code>-#</code>, see <a href=\"https://a.b/c#d\">the docs</a></p>\n" ++
          "<p>12 more</p>" := by
  have hspaced : IsSpaced [newKeysLine, countLine]
      "*New keys*: `-#`, see [the docs](https://a.b/c#d)\n \n\n12 more".toList :=
    .cons newKeysLine [1, 0] (by decide) (.one countLine)
  obtain ⟨hhtml, -, hinline⟩ := toHtml_of_isSpaced hspaced
  rw [String.ofList_toList] at hhtml hinline
  refine ⟨hspaced, (hinline (by decide)).trans (hhtml.trans ?_)⟩
  decide

end StaticSite.Markdown
