/-
StaticSite.Proofs.Markdown.WellFormedHtml — Markdown cannot break the page around it.

A text without angle brackets is safe when it has been prepared, and every
stage of reading keeps it safe: the blocks, the steps of reading their
texts, the elements inside elements, and the line ends between them. So it
is written as a fragment, whose tags match and nest, and it stays one when
blanks are taken off its ends and a lone paragraph is taken off
(`isFragment_html`).
-/
import StaticSite.Proofs.Markdown.PlainSource
import StaticSite.Proofs.Markdown.Rendering
import StaticSite.Proofs.Markdown.SafeEmphasis
import StaticSite.Proofs.Markdown.SafePatterns

namespace StaticSite.Markdown

open StaticSite.Text StaticSite.Markup

/-! ## 1. The steps of reading -/

theorem keepsTextSafe_readWith {passes : List Pass} (h : ∀ pass ∈ passes, pass.IsSafe)
    (bound : Nat) : KeepsTextSafe (readWith bound passes) := by
  induction bound generalizing passes with
  | zero => exact fun s hs => hs
  | succ bound ih =>
    intro s hs
    cases passes with
    | nil => exact hs
    | cons pass later =>
      obtain ⟨hpass, hlater⟩ := List.forall_mem_cons.mp h
      have hinner := ih hlater
      rw [readWith]
      exact hinner _ (hpass _ hinner s hs)

theorem AllReferencesSafe.keepsTextSafe_readText {references : References}
    (h : AllReferencesSafe references) : KeepsTextSafe (readText references) := by
  have hpasses : ∀ pass ∈ passes references, Pass.IsSafe pass := by
    intro pass hpass
    rcases List.mem_append.mp hpass with hpass | hpass
    · obtain ⟨pattern, hpattern, rfl⟩ := List.mem_map.mp hpass
      exact (h.isSafe_patterns pattern hpattern).pass
    · rw [List.mem_singleton.mp hpass]
      exact fun inner _ s hs => allSafe_emphasize hs
  exact fun s hs => keepsTextSafe_readWith hpasses _ s hs

/-! ## 2. Elements inside elements -/

theorem KeepsTextSafe.readElements {read : Atoms → Atoms} (h : KeepsTextSafe read) (bound : Nat) :
    KeepsTextSafe (readElements read bound) := by
  induction bound with
  | zero => exact fun s hs => hs
  | succ bound ih =>
    intro s hs
    cases s with
    | nil => exact allSafe_nil
    | cons a rest =>
      obtain ⟨ha, hrest⟩ := allSafe_cons.mp hs
      cases a with
      | node tag attributes content =>
        have hinside := h _ ha.content.leadingText
        have hmore := ih _ (allSafe_append.mpr ⟨h _ hrest.leadingText, hrest.fromElement⟩)
        rw [Markdown.readElements]
        refine allSafe_cons.mpr ⟨ha.withContent ?_, hmore⟩
        split
        · intro a ha
          obtain ⟨original, horiginal, rfl⟩ := List.mem_map.mp ha
          have hsafe := hinside original horiginal
          split
          · exact hsafe.withContent (ih _ hsafe.content)
          · exact hsafe
        · exact ih _ (allSafe_append.mpr ⟨hinside, ha.content.fromElement⟩)
      | _ =>
        rw [Markdown.readElements]
        · exact allSafe_cons.mpr ⟨ha, ih _ hrest⟩
        · intro _ _ _ hnode
          cases hnode

theorem Outline.IsSafe.documentOf {o : Outline} (h : o.IsSafe) : AllSafe (documentOf o) := by
  have hatom := h.block.toAtom
  unfold Markdown.documentOf
  split
  · next tag attributes content heq =>
    rw [heq] at hatom
    exact h.references.keepsTextSafe_readText.readElements _ _ hatom.content
  · exact allSafe_nil

theorem allSafe_read {s : List Char} (h : '<' ∉ s) : AllSafe (read s) :=
  (allSafe_extractRaw (angle_not_mem_normalized h)).outlineOf.documentOf

/-! ## 3. Markup -/

theorem isFragment_toHtml {text : String} (h : '<' ∉ text.toList) :
    IsFragment (toHtml text).toList := by
  have htrim : '<' ∉ Text.trim text.toList := fun hmem => h ((trim_sublist _).subset hmem)
  rw [toHtml]
  split
  · exact .nil
  · rw [String.toList_ofList]
    exact (allSafe_read htrim).lay.isFragment_render.trim

theorem holds_iff (part s : List Char) : holds part s = true ↔ part <:+: s := by
  induction s with
  | nil => simp [holds]
  | cons c s ih => rw [holds, Bool.or_eq_true, List.isPrefixOf_iff_prefix, ih, List.infix_cons_iff]

/-- What stands in a lone paragraph. -/
theorem loneParagraph_eq {s inside : List Char} (h : loneParagraph? s = some inside) :
    s = openingTag "p" [] ++ (inside ++ closingTag "p") ∧ ¬ openingTag "p" [] <:+: inside := by
  have hstart : "<p>".toList = openingTag "p" [] := rfl
  have hstop : "</p>".toList = closingTag "p" := rfl
  unfold loneParagraph? at h
  rw [hstart, hstop] at h
  dsimp only at h
  split at h
  · next hguard =>
    simp only [Bool.and_eq_true, decide_eq_true_eq, List.isPrefixOf_iff_prefix,
      List.isSuffixOf_iff_suffix] at hguard
    obtain ⟨⟨⟨after, rfl⟩, ⟨before, hbefore⟩⟩, hlength⟩ := hguard
    have hlengths := congrArg List.length hbefore
    simp only [List.length_append] at hlengths hlength
    obtain ⟨middle, rfl⟩ : openingTag "p" [] <+: before :=
      List.prefix_of_prefix_length_le (List.prefix_append _ after) ⟨_, hbefore⟩ (by omega)
    rw [List.append_assoc] at hbefore
    obtain rfl : middle ++ closingTag "p" = after := List.append_cancel_left hbefore
    have hinside : ((openingTag "p" [] ++ (middle ++ closingTag "p")).drop
        (openingTag "p" []).length).take ((openingTag "p" [] ++ (middle ++ closingTag "p")).length -
          (openingTag "p" []).length - (closingTag "p").length) = middle := by
      rw [List.drop_left, List.length_append, Nat.add_sub_cancel_left, List.length_append,
        Nat.add_sub_cancel, List.take_left]
    rw [hinside] at h
    split at h
    · cases h
    · next hlone =>
      cases h
      exact ⟨rfl, fun hin => hlone ((holds_iff _ _).mpr hin)⟩
  · cases h

theorem isFragment_html {text : String} (h : '<' ∉ text.toList) :
    IsFragment (toHtml text).toList ∧ IsFragment (toInlineHtml text).toList := by
  have hhtml := isFragment_toHtml h
  refine ⟨hhtml, ?_⟩
  unfold toInlineHtml
  dsimp only
  split
  · next inside hinside =>
    obtain ⟨heq, hlone⟩ := loneParagraph_eq hinside
    rw [heq] at hhtml
    rw [String.toList_ofList]
    exact hhtml.inside_paragraph hlone
  · exact hhtml

theorem isFragment_html_quotedTitle :
    '<' ∉ "*a* [b](c \"d\\\"\") & > e".toList ∧
      IsFragment (toHtml "*a* [b](c \"d\\\"\") & > e").toList ∧
        IsFragment (toInlineHtml "*a* [b](c \"d\\\"\") & > e").toList :=
  ⟨by decide, isFragment_html (by decide)⟩

/-- The paragraph is taken off, and signs of markup in a text are escaped. -/
example : toInlineHtml "*a* & > b" = "<em>a</em> &amp; &gt; b" := by
  decide +kernel

end StaticSite.Markdown
