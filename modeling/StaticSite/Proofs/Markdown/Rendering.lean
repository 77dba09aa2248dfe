/-
StaticSite.Proofs.Markdown.Rendering — safe atoms are written as fragments.

Escaping leaves no angle bracket in a text and no quote in a value. So all
angle brackets in what is written for safe atoms are those of the tags of
elements, and the end tag of an element comes after all of its content: the
atoms of a content are rendered to a fragment if each of them is
(`isFragment_renderFrom`). Line ends between elements do not matter
(`AllSafe.lay`).
-/
import StaticSite.Proofs.Markdown.Safety

namespace StaticSite.Markdown

open StaticSite.Markup (IsFragment IsAttributes IsHarmless)

/-! ## 1. Escaping -/

theorem angle_not_mem_escapeText (inValue : Bool) (s : List Char) :
    '<' ∉ escapeText inValue s := by
  induction s with
  | nil => exact List.not_mem_nil
  | cons c s ih =>
    simp only [escapeText]
    split_ifs with hamp href hlt hgt hquote
    · simp_all
    · simp [ih]
    · simp [ih]
    · simp [ih]
    · simp [ih]
    · have hne : '<' ≠ c := by
        rintro rfl
        exact hlt rfl
      simp [ih, hne]

theorem quote_not_mem_escapeText (s : List Char) : '"' ∉ escapeText true s := by
  induction s with
  | nil => exact List.not_mem_nil
  | cons c s ih =>
    simp only [escapeText]
    split_ifs with hamp href hlt hgt hquote
    · simp_all
    · simp [ih]
    · simp [ih]
    · simp [ih]
    · simp [ih]
    · have hne : '"' ≠ c := by
        rintro rfl
        exact hquote rfl
      simp [ih, hne]

theorem isHarmless_append {s t : List Char} : IsHarmless (s ++ t) ↔ IsHarmless s ∧ IsHarmless t :=
  List.forall_mem_append

theorem isHarmless_escapeText (s : List Char) : IsHarmless (escapeText true s) := by
  intro c hc
  refine ⟨?_, ?_⟩
  · rintro rfl
    exact angle_not_mem_escapeText true s hc
  · rintro rfl
    exact quote_not_mem_escapeText s hc

/-! ## 2. Attributes -/

theorem isHarmless_renderValue {value : Atoms} (h : AllSafe value) (collected : List Char) :
    IsHarmless (renderValue collected value) := by
  have htext : ∀ (collected s : List Char), IsHarmless s →
      IsHarmless (afterText true collected s) :=
    fun collected s hs => isHarmless_append.mpr ⟨isHarmless_escapeText _, hs⟩
  induction value generalizing collected with
  | nil => exact htext collected [] (fun c hc => absurd hc List.not_mem_nil)
  | cons a rest ih =>
    obtain ⟨ha, hrest⟩ := allSafe_cons.mp h
    cases ha with
    | char _ | verbatim _ | escaped _ => exact ih hrest _
    | markup hs => exact htext collected _ (isHarmless_append.mpr ⟨hs, ih hrest []⟩)
    | node hnames hvalues hbare hcontent => exact ih hrest _

theorem isAttributes_renderAttributes {attributes : List (String × Atoms)}
    (hnames : ∀ entry ∈ attributes, Markup.isName entry.1 = true)
    (hvalues : ∀ entry ∈ attributes, AllSafe entry.2) :
    IsAttributes (renderAttributes attributes) := by
  induction attributes with
  | nil => exact .nil
  | cons entry rest ih =>
    rw [List.forall_mem_cons] at hnames hvalues
    exact .cons hnames.1 (isHarmless_renderValue hvalues.1 []) (ih hnames.2 hvalues.2)

/-! ## 3. Elements -/

/-- The name of a heading, which the other properties of a tag do not depend on. -/
theorem name_heading_mem (level : Nat) :
    (Tag.heading level).name ∈ ["h1", "h2", "h3", "h4", "h5", "h6"] := by
  unfold Tag.name
  split <;> simp_all

theorem isName_name (tag : Tag) : Markup.isName tag.name = true := by
  cases tag with
  | heading level =>
    have hall : ∀ name ∈ ["h1", "h2", "h3", "h4", "h5", "h6"], Markup.isName name = true := by
      decide
    exact hall _ (name_heading_mem level)
  | _ => decide

theorem mem_voidNames_iff (tag : Tag) : tag.name ∈ Markup.voidNames ↔ tag.isVoid = true := by
  cases tag with
  | heading level =>
    have hall : ∀ name ∈ ["h1", "h2", "h3", "h4", "h5", "h6"], name ∉ Markup.voidNames := by
      decide
    simp [hall _ (name_heading_mem level), Tag.isVoid]
  | _ => decide

theorem eq_paragraph_of_name {tag : Tag} (h : tag.name = "p") : tag = .paragraph := by
  cases tag with
  | heading level =>
    have hall : ∀ name ∈ ["h1", "h2", "h3", "h4", "h5", "h6"], name ≠ "p" := by decide
    exact absurd h (hall _ (name_heading_mem level))
  | paragraph => rfl
  | _ => exact absurd h (by decide)

/-- The tags of an element around its content. -/
theorem isFragment_element {tag : Tag} {attributes : List (String × Atoms)} {content : List Char}
    (hattributes : IsAttributes (renderAttributes attributes))
    (hbare : tag = .paragraph → attributes = []) (hcontent : IsFragment content) :
    IsFragment (startTagText tag attributes ++ content ++ endTagText tag) := by
  by_cases hvoid : tag.isVoid = true
  · rw [endTagText, if_pos hvoid, List.append_nil]
    exact .void ((mem_voidNames_iff tag).mpr hvoid) hattributes hcontent
  · have hpaired : tag.name ∉ Markup.voidNames := mt (mem_voidNames_iff tag).mp hvoid
    have hp : tag.name = "p" → renderAttributes attributes = [] := by
      intro hname
      rw [hbare (eq_paragraph_of_name hname), renderAttributes]
    have helement := IsFragment.element (isName_name tag) hpaired hattributes hp hcontent .nil
    rw [endTagText, if_neg hvoid, List.append_assoc]
    simpa [startTagText, Markup.openingTag, Markup.closingTag] using helement

theorem isFragment_afterText (collected : List Char) {s : List Char} (hs : IsFragment s) :
    IsFragment (afterText false collected s) := by
  refine IsFragment.append (.of_text fun c hc => ?_) hs
  rintro rfl
  exact angle_not_mem_escapeText false _ hc

/-- A content is rendered to a fragment if its elements are. -/
theorem isFragment_renderFrom {s : Atoms} (h : AllSafe s)
    (hatoms : ∀ a ∈ s, IsFragment (renderAtom a)) (collected : List Char) :
    IsFragment (renderFrom collected s) := by
  induction s generalizing collected with
  | nil =>
    rw [renderFrom]
    exact isFragment_afterText collected .nil
  | cons a rest ih =>
    obtain ⟨ha, hrest⟩ := allSafe_cons.mp h
    obtain ⟨hfirst, hothers⟩ := List.forall_mem_cons.mp hatoms
    cases ha with
    | char _ | verbatim _ | escaped _ =>
      rw [renderFrom]
      exact ih hrest hothers _
    | markup hs =>
      rw [renderFrom]
      exact isFragment_afterText collected
        (.append (.of_text fun c hc => (hs c hc).1) (ih hrest hothers []))
    | node hnames hvalues hbare hcontent =>
      rw [renderFrom]
      exact isFragment_afterText collected (hfirst.append (ih hrest hothers []))

theorem isFragment_renderAtom {a : Atom} (h : a.IsSafe) : IsFragment (renderAtom a) := by
  have hchar (c : Char) : IsFragment (escapeText false [c]) := by
    refine .of_text fun d hd => ?_
    rintro rfl
    exact angle_not_mem_escapeText false _ hd
  induction h with
  | char _ | verbatim _ | escaped _ =>
    rw [renderAtom]
    exact hchar _
  | markup hs =>
    rw [renderAtom]
    exact .of_text fun c hc => (hs c hc).1
  | node hnames hvalues hbare hcontent ihvalues ihcontent =>
    have hinside := isFragment_renderFrom hcontent ihcontent []
    rw [renderAtom]
    split_ifs
    · exact hinside
    · exact isFragment_element (isAttributes_renderAttributes hnames hvalues) hbare hinside

theorem AllSafe.isFragment_render {s : Atoms} (h : AllSafe s) : IsFragment (render s) :=
  isFragment_renderFrom h (fun a ha => isFragment_renderAtom (h a ha)) []

/-! ## 4. Line ends between elements -/

theorem allSafe_lineEnd : AllSafe lineEnd :=
  allSafe_verbatimText ['\n']

theorem AllSafe.orLineEnd {s : Atoms} (h : AllSafe s) : AllSafe (orLineEnd s) := by
  rw [Markdown.orLineEnd]
  split_ifs
  · exact allSafe_lineEnd
  · exact h

theorem AllSafe.leadingText {s : Atoms} (h : AllSafe s) : AllSafe (leadingText s) :=
  h.takeWhile

theorem AllSafe.fromElement {s : Atoms} (h : AllSafe s) : AllSafe (fromElement s) :=
  h.dropWhile

theorem AllSafe.laidStart {s : Atoms} (h : AllSafe s) (inBlock : Bool) :
    AllSafe (laidStart inBlock s) := by
  rw [Markdown.laidStart]
  split
  · split_ifs
    · exact h.leadingText.orLineEnd
    · exact h.leadingText
  · exact h.leadingText

theorem AllSafe.laidTail {s : Atoms} (h : AllSafe s) (inBlock : Bool) (tag : Tag) :
    AllSafe (laidTail inBlock tag s) := by
  rw [Markdown.laidTail]
  split_ifs
  · exact allSafe_lineEnd
  · exact allSafe_cons.mpr ⟨.verbatim _, h⟩
  · exact h.orLineEnd
  · exact h

/-- The elements of a content stay safe if each of them does. -/
theorem AllSafe.layElements {s : Atoms} (h : AllSafe s) (hatoms : ∀ a ∈ s, (layAtom a).IsSafe)
    (inBlock : Bool) : AllSafe (layElements inBlock s) := by
  induction s with
  | nil => simp [Markdown.layElements]
  | cons a rest ih =>
    obtain ⟨ha, hrest⟩ := allSafe_cons.mp h
    obtain ⟨hfirst, hothers⟩ := List.forall_mem_cons.mp hatoms
    cases ha with
    | node hnames hvalues hbare hcontent =>
      rw [Markdown.layElements, allSafe_cons, allSafe_append]
      exact ⟨hfirst, hrest.leadingText.laidTail inBlock _, ih hrest hothers⟩
    | _ =>
      rw [Markdown.layElements]
      · exact ih hrest hothers
      · intro _ _ _ hnode
        cases hnode

theorem isSafe_layAtom {a : Atom} (h : a.IsSafe) : (layAtom a).IsSafe := by
  induction h with
  | @node tag attributes content hnames hvalues hbare hcontent ihvalues ihcontent =>
    have hnode := Atom.IsSafe.node hnames hvalues hbare hcontent
    unfold layAtom
    split
    · next attributes' inner code heq =>
      -- the end of code in a block of its own
      cases heq
      have hcode := hcontent _ List.mem_cons_self
      have hend : AllSafe (endCode code) :=
        allSafe_append.mpr ⟨hcode.content.dropEndBlank, allSafe_lineEnd⟩
      exact hnode.withContent (allSafe_cons.mpr ⟨hcode.withContent hend, allSafe_nil⟩)
    · next tag' attributes' content' _ heq =>
      cases heq
      exact hnode.withContent (allSafe_append.mpr
        ⟨AllSafe.laidStart hcontent _, AllSafe.layElements hcontent ihcontent _⟩)
    · next hother => exact absurd rfl (hother _ _ _)
  | char hc => exact .char hc
  | verbatim c => exact .verbatim c
  | escaped c => exact .escaped c
  | markup hs => exact .markup hs

theorem AllSafe.lay {s : Atoms} (h : AllSafe s) : AllSafe (lay s) :=
  allSafe_append.mpr ⟨h.laidStart true, h.layElements (fun a ha => isSafe_layAtom (h a ha)) true⟩

end StaticSite.Markdown
