/-
StaticSite.Proofs.Markdown.LoneParagraph — when a lone paragraph is one.

For use in a line, the tags of a paragraph are taken off if the markup starts
and ends with them and no other `<p>` stands in between
(`loneParagraph?_eq_some_iff`). That is what the characters say; the markup is
one paragraph only if these two tags belong together. Raw markup can make it
otherwise: a first paragraph, and after it one with attributes, or with a name
in upper case. If the markup is well formed, what is left is well formed just if
the markup is not divided like that (`isWellFormed_toInlineHtml_iff`).
-/
import StaticSite.Proofs.Markdown.WellFormedHtml
import StaticSite.Proofs.Markup.Nesting

namespace StaticSite.Markdown

open StaticSite.Text StaticSite.Markup

/-! ## 1. What is taken off -/

/-- The markup starts and ends with tags of paragraphs, and no other `<p>` stands in between. -/
def HasParagraphTags (s inside : List Char) : Prop :=
  s = openingTag "p" [] ++ (inside ++ closingTag "p") ∧ ¬ openingTag "p" [] <:+: inside

section

variable {s inside : List Char} {text : String}

theorem loneParagraph?_eq_some_iff :
    loneParagraph? s = some inside ↔ HasParagraphTags s inside := by
  refine ⟨loneParagraph_eq, ?_⟩
  rintro ⟨rfl, hlone⟩
  have hstart : "<p>".toList = openingTag "p" [] := rfl
  have hstop : "</p>".toList = closingTag "p" := rfl
  unfold loneParagraph?
  rw [hstart, hstop]
  dsimp only
  have hsuffix : closingTag "p" <:+ openingTag "p" [] ++ (inside ++ closingTag "p") :=
    ⟨openingTag "p" [] ++ inside, List.append_assoc _ _ _⟩
  have hinside : ((openingTag "p" [] ++ (inside ++ closingTag "p")).drop
      (openingTag "p" []).length).take ((openingTag "p" [] ++ (inside ++ closingTag "p")).length -
        (openingTag "p" []).length - (closingTag "p").length) = inside := by
    rw [List.drop_left, List.length_append, Nat.add_sub_cancel_left, List.length_append,
      Nat.add_sub_cancel, List.take_left]
  rw [if_pos, hinside, if_neg]
  · rwa [holds_iff]
  · simp [List.isPrefixOf_iff_prefix, List.isSuffixOf_iff_suffix, hsuffix]

theorem toInlineHtml_of_tags (h : HasParagraphTags (toHtml text).toList inside) :
    toInlineHtml text = String.ofList inside := by
  unfold toInlineHtml
  dsimp only
  rw [loneParagraph?_eq_some_iff.mpr h]

theorem toInlineHtml_of_no_tags (h : ¬ ∃ inside, HasParagraphTags (toHtml text).toList inside) :
    toInlineHtml text = toHtml text := by
  have hnone : loneParagraph? (toHtml text).toList = none := by
    rw [Option.eq_none_iff_forall_not_mem]
    exact fun inside hinside => h ⟨inside, loneParagraph?_eq_some_iff.mp hinside⟩
  unfold toInlineHtml
  dsimp only
  rw [hnone]

end

/-! ## 2. What is left -/

/-- What is used in a line is well formed, and if it is not all of the markup then that is a
paragraph with this content. -/
def UnwrapsParagraph (text : String) : Prop :=
  IsWellFormed (toInlineHtml text).toList ∧
    (toInlineHtml text ≠ toHtml text →
      IsParagraph (toHtml text).toList (toInlineHtml text).toList)

/-- A lone paragraph is taken off rightly just if the markup that starts and ends with the tags of
a paragraph is not divided, as it is where the first paragraph ends before the end of it. -/
theorem isWellFormed_toInlineHtml_iff {text : String} (h : IsWellFormed (toHtml text).toList) :
    UnwrapsParagraph text ↔
      ¬ ((∃ inside, HasParagraphTags (toHtml text).toList inside) ∧
        IsDivided (toHtml text).toList) := by
  by_cases htags : ∃ inside, HasParagraphTags (toHtml text).toList inside
  · obtain ⟨inside, hinside⟩ := htags
    rw [and_iff_right ⟨inside, hinside⟩, UnwrapsParagraph, toInlineHtml_of_tags hinside,
      String.toList_ofList]
    rw [hinside.1] at h ⊢
    rw [← isWellFormed_inside_iff h]
    exact ⟨And.left, fun hcontent => ⟨hcontent, fun _ => ⟨rfl, hcontent⟩⟩⟩
  · rw [UnwrapsParagraph, toInlineHtml_of_no_tags htags]
    exact iff_of_true ⟨h, fun hne => absurd rfl hne⟩ fun hboth => htags hboth.1

/-- The second paragraph is written with its name in upper case, and the markup is divided before
it. -/
theorem isWellFormed_toInlineHtml_iff_upperCase :
    IsWellFormed (toHtml "one\n\n<P>two</p>").toList ∧
      ¬ UnwrapsParagraph "one\n\n<P>two</p>" := by
  have hhtml : (toHtml "one\n\n<P>two</p>").toList = "<p>one</p>\n<P>two</p>".toList := by
    decide +kernel
  have hwell : IsWellFormed (toHtml "one\n\n<P>two</p>").toList := by
    rw [hhtml]
    exact ⟨.text, Or.inl rfl, by decide +kernel⟩
  refine ⟨hwell, fun hunwraps => (isWellFormed_toInlineHtml_iff hwell).mp hunwraps ?_⟩
  rw [hhtml]
  refine ⟨⟨"one</p>\n<P>two".toList, by decide +kernel, ?_⟩, "<p>one</p>".toList,
    "\n<P>two</p>".toList, by decide +kernel, by decide +kernel, by decide +kernel,
    ⟨.text, Or.inl rfl, by decide +kernel⟩, .text, Or.inl rfl, by decide +kernel⟩
  rw [← holds_iff]
  decide +kernel

/-- Two paragraphs, the second one with an attribute. The first is left with its end tag only, and
the second with its start tag. -/
theorem not_unwrapsParagraph_twoParagraphs :
    IsWellFormed (toHtml "one\n\n<p class=\"x\">two</p>").toList ∧
      toInlineHtml "one\n\n<p class=\"x\">two</p>" = "one</p>\n<p class=\"x\">two" ∧
        ¬ IsWellFormed (toInlineHtml "one\n\n<p class=\"x\">two</p>").toList := by
  have hinline : toInlineHtml "one\n\n<p class=\"x\">two</p>" =
      "one</p>\n<p class=\"x\">two" := by
    decide +kernel
  have hfails : Scan.run ⟨[], .text⟩ "one</p>\n<p class=\"x\">two".toList = none := by
    decide +kernel
  refine ⟨⟨.text, Or.inl rfl, by decide +kernel⟩, hinline, ?_⟩
  rintro ⟨spot, -, hrun⟩
  rw [hinline, hfails] at hrun
  cases hrun

end StaticSite.Markdown
