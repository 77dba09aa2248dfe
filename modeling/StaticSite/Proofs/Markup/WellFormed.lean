/-
StaticSite.Proofs.Markup.WellFormed — markup whose tags match and nest.

`IsFragment` is a grammar of markup as characters, without the trees it may
have been written from: text, elements without content, and elements with an
end tag of their own around a fragment. Every angle bracket belongs to a
tag, and the values of attributes are in double quotes that nothing in them
can end.

Fragments can be put one after the other, and the blanks at their ends can
be taken off. So can the paragraph that a fragment starts and ends with, if
no other one starts in between (`IsFragment.inside_paragraph`): a paragraph
that ends at the end of a fragment starts in it
(`IsFragment.paragraph_starts`).
-/
import StaticSite.Proofs.Markup.ReadTag
import StaticSite.Proofs.Text.Delimiter
import StaticSite.Proofs.Text.Strip

namespace StaticSite.Markup

open StaticSite.Text

/-! ## 1. The grammar -/

/-- The elements without content and without an end tag. -/
def voidNames : List String :=
  ["br", "hr", "img"]

/-- A start tag, with its attributes as they are written. -/
def openingTag (tag : String) (attributes : List Char) : List Char :=
  '<' :: (tag.toList ++ attributes ++ ['>'])

/-- An end tag. -/
def closingTag (tag : String) : List Char :=
  '<' :: '/' :: (tag.toList ++ ['>'])

/-- Characters that can stand between double quotes in a tag, and in a text. -/
def IsHarmless (s : List Char) : Prop :=
  ∀ c ∈ s, c ≠ '<' ∧ c ≠ '"'

/-- Attributes in a row, with their values in double quotes. -/
inductive IsAttributes : List Char → Prop where
  | nil : IsAttributes []
  | cons {name : String} {value s : List Char} (hname : isName name = true)
      (hvalue : IsHarmless value) (hs : IsAttributes s) :
      IsAttributes (' ' :: name.toList ++ ['=', '"'] ++ value ++ ['"'] ++ s)

/-- Markup whose tags match and nest. A paragraph has no attributes. -/
inductive IsFragment : List Char → Prop where
  | nil : IsFragment []
  | text {c : Char} {s : List Char} (hc : c ≠ '<') (hs : IsFragment s) : IsFragment (c :: s)
  | void {tag : String} {attributes s : List Char} (htag : tag ∈ voidNames)
      (hattributes : IsAttributes attributes) (hs : IsFragment s) :
      IsFragment (openingTag tag attributes ++ s)
  | element {tag : String} {attributes content s : List Char} (htag : isName tag = true)
      (hpaired : tag ∉ voidNames) (hattributes : IsAttributes attributes)
      (hbare : tag = "p" → attributes = []) (hcontent : IsFragment content) (hs : IsFragment s) :
      IsFragment (openingTag tag attributes ++ (content ++ (closingTag tag ++ s)))

/-! ## 2. Characters in tags -/

theorem not_mem_of_isName {name : String} (h : isName name = true) {c : Char}
    (hc : isNameChar c = false) : c ∉ name.toList := by
  intro hmem
  simp only [isName, Bool.and_eq_true, List.all_eq_true] at h
  rw [h.2 c hmem] at hc
  cases hc

theorem isName_of_voidNames {tag : String} (h : tag ∈ voidNames) : isName tag = true := by
  simp only [voidNames, List.mem_cons, List.not_mem_nil, or_false] at h
  rcases h with rfl | rfl | rfl <;> decide

theorem IsAttributes.not_mem {s : List Char} (h : IsAttributes s) : '<' ∉ s := by
  induction h with
  | nil => exact List.not_mem_nil
  | @cons name value s hname hvalue hs ih =>
    have hfirst : '<' ∉ name.toList := not_mem_of_isName hname (by decide)
    have hsecond : '<' ∉ value := fun hmem => (hvalue _ hmem).1 rfl
    simp [hfirst, hsecond, ih]

/-- A start tag has no angle bracket but its first character. -/
theorem not_mem_openingTag {tag : String} {attributes : List Char} (htag : isName tag = true)
    (hattributes : IsAttributes attributes) : '<' ∉ (openingTag tag attributes).tail := by
  have hname : '<' ∉ tag.toList := not_mem_of_isName htag (by decide)
  simp [openingTag, hname, hattributes.not_mem]

theorem not_mem_closingTag {tag : String} (htag : isName tag = true) :
    '<' ∉ (closingTag tag).tail := by
  have hname : '<' ∉ tag.toList := not_mem_of_isName htag (by decide)
  simp [closingTag, hname]

/-- Where a tag starts in a text that starts with one: at its start, or after that one. -/
theorem tag_starts {first s before last : List Char} (hfirst : '<' ∉ first.tail)
    (hlast : last.head? = some '<') (h : first ++ s = before ++ last) (hne : before ≠ []) :
    ∃ rest, before = first ++ rest ∧ s = rest ++ last := by
  rcases List.append_eq_append_iff.mp h with ⟨rest, hbefore, hs⟩ | ⟨rest, htag, hrest⟩
  · exact ⟨rest, hbefore, hs⟩
  · cases rest with
    | nil => exact ⟨[], by simpa using htag.symm, hrest.symm⟩
    | cons c rest =>
      obtain ⟨a, before, rfl⟩ := List.exists_cons_of_ne_nil hne
      have hc : c = '<' := by simpa [hrest] using hlast
      exact absurd (by simp [htag, hc]) hfirst

/-! ## 3. Putting fragments together -/

namespace IsFragment

variable {s t : List Char}

theorem append (hs : IsFragment s) (ht : IsFragment t) : IsFragment (s ++ t) := by
  induction hs with
  | nil => exact ht
  | text hc hs ih => exact .text hc ih
  | void htag hattributes hs ih =>
    rw [List.append_assoc]
    exact .void htag hattributes ih
  | element htag hpaired hattributes hbare hcontent hs ihcontent ih =>
    simp only [List.append_assoc]
    exact .element htag hpaired hattributes hbare hcontent ih

theorem of_text (h : ∀ c ∈ s, c ≠ '<') : IsFragment s := by
  induction s with
  | nil => exact .nil
  | cons c s ih =>
    rw [List.forall_mem_cons] at h
    exact .text h.1 (ih h.2)

/-! ## 4. Blanks at the ends -/

theorem dropBlank (hs : IsFragment s) : IsFragment (dropBlank s) := by
  have hstart : isBlank '<' = false := by decide
  induction hs with
  | nil => exact .nil
  | text hc hs ih =>
    rw [Text.dropBlank, List.dropWhile_cons]
    split
    · exact ih
    · exact .text hc hs
  | void htag hattributes hs ih =>
    rw [Text.dropBlank, openingTag, List.cons_append, List.dropWhile_cons_of_neg (by simp [hstart])]
    exact .void htag hattributes hs
  | element htag hpaired hattributes hbare hcontent hs ihcontent ih =>
    rw [Text.dropBlank, openingTag, List.cons_append, List.dropWhile_cons_of_neg (by simp [hstart])]
    exact .element htag hpaired hattributes hbare hcontent hs

theorem getLast?_openingTag (tag : String) (attributes : List Char) :
    (openingTag tag attributes).getLast? = some '>' := by
  rw [openingTag, ← List.cons_append, List.getLast?_concat]

theorem getLast?_closingTag (tag : String) : (closingTag tag).getLast? = some '>' := by
  rw [closingTag, ← List.cons_append, ← List.cons_append, List.getLast?_concat]

theorem dropEndBlank (hs : IsFragment s) : IsFragment (dropEndBlank s) := by
  have hend : isBlank '>' = false := by decide
  induction hs with
  | nil => exact .nil
  | @text c s hc hs ih =>
    rw [Text.dropEndBlank]
    rcases dropEndWhile_cons isBlank c s with h | h
    · rw [h]
      exact .nil
    · rw [h]
      exact .text hc ih
  | void htag hattributes hs ih =>
    rw [Text.dropEndBlank, dropEndWhile_append ⟨'>', getLast?_openingTag _ _, hend⟩]
    exact .void htag hattributes ih
  | @element tag attributes content s htag hpaired hattributes hbare hcontent hs ihcontent ih =>
    have hlast : (openingTag tag attributes ++ (content ++ closingTag tag)).getLast? =
        some '>' := by
      simp [getLast?_closingTag]
    have hkept := dropEndWhile_append ⟨'>', hlast, hend⟩ s
    simp only [List.append_assoc] at hkept
    rw [Text.dropEndBlank, hkept]
    exact .element htag hpaired hattributes hbare hcontent ih

theorem trim (hs : IsFragment s) : IsFragment (trim s) :=
  hs.dropBlank.dropEndBlank

/-! ## 5. Paragraphs -/

theorem openingTag_append_ne {tag : String} (htag : isName tag = true) (attributes : List Char)
    (other : String) : openingTag tag attributes ++ s ≠ closingTag other := by
  obtain ⟨c, rest, hname, hc, -⟩ := isName_cons htag
  intro h
  simp only [openingTag, closingTag, hname, List.cons_append, List.cons.injEq, true_and] at h
  rw [h.1] at hc
  exact absurd hc (by decide)

/-- Two tags with the same characters up to the end of the first one. -/
theorem eq_of_name_append {tag other : String} (htag : isName tag = true)
    (hother : isName other = true) {t : List Char}
    (h : tag.toList ++ '>' :: s = other.toList ++ '>' :: t) : tag = other ∧ s = t := by
  obtain ⟨hname, hrest⟩ := append_list_inj_of_stop (not_mem_of_isName htag (by decide))
    (not_mem_of_isName hother (by decide)) h
  exact ⟨String.toList_inj.mp hname, hrest⟩

theorem length_closingTag (tag : String) : (closingTag tag).length = tag.toList.length + 3 := by
  simp [closingTag]

/-- The end tag of a paragraph at the end of a text with an element in it: it is the one of the
element, or comes after it. -/
theorem paragraph_ends {tag : String} (htag : isName tag = true) {content before : List Char}
    (h : content ++ (closingTag tag ++ s) = before ++ closingTag "p") :
    (tag = "p" ∧ before = content ∧ s = []) ∨
      ∃ rest, before = content ++ (closingTag tag ++ rest) ∧ s = rest ++ closingTag "p" := by
  have hp : isName "p" = true := by decide
  -- no end tag is shorter than the one of a paragraph
  have hcontent : content.length ≤ before.length := by
    obtain ⟨c, others, hname, -, -⟩ := isName_cons htag
    have hlength := congrArg List.length h
    simp only [List.length_append, length_closingTag, hname, List.length_cons] at hlength
    have hone : "p".toList.length = 1 := rfl
    omega
  obtain ⟨after, rfl, hafter⟩ : ∃ after, before = content ++ after ∧
      closingTag tag ++ s = after ++ closingTag "p" := by
    have hprefix := List.prefix_of_prefix_length_le ⟨_, h⟩ (List.prefix_append _ _) hcontent
    obtain ⟨after, rfl⟩ := hprefix
    rw [List.append_assoc] at h
    exact ⟨after, rfl, List.append_cancel_left h⟩
  by_cases hnil : after = []
  · subst hnil
    simp only [closingTag, List.nil_append, List.cons_append, List.cons.injEq, true_and,
      List.append_assoc] at hafter
    obtain ⟨rfl, rfl⟩ := eq_of_name_append htag hp hafter
    exact .inl ⟨rfl, List.append_nil content, rfl⟩
  · obtain ⟨rest, rfl, hs⟩ := tag_starts (not_mem_closingTag htag) rfl hafter hnil
    exact .inr ⟨rest, rfl, hs⟩

/-- The paragraph that ends at the end of a fragment starts in it. -/
theorem paragraph_starts (hs : IsFragment s) {before : List Char}
    (h : s = before ++ closingTag "p") : openingTag "p" [] <:+: before := by
  have hend : (closingTag "p").head? = some '<' := rfl
  induction hs generalizing before with
  | nil => simp [closingTag] at h
  | @text c s hc hs ih =>
    cases before with
    | nil =>
      rw [List.nil_append, closingTag, List.cons.injEq] at h
      exact absurd h.1 hc
    | cons d before =>
      rw [List.cons_append, List.cons.injEq] at h
      exact List.infix_cons (ih h.2)
  | @void tag attributes s htag hattributes hs ih =>
    have hname := isName_of_voidNames htag
    have hne : before ≠ [] := by
      rintro rfl
      exact openingTag_append_ne hname attributes "p" h
    obtain ⟨rest, rfl, hrest⟩ := tag_starts (not_mem_openingTag hname hattributes) hend h hne
    exact (ih hrest).trans (List.suffix_append _ _).isInfix
  | @element tag attributes content s htag hpaired hattributes hbare hcontent hs ihcontent ih =>
    have hne : before ≠ [] := by
      rintro rfl
      exact openingTag_append_ne htag attributes "p" h
    obtain ⟨rest, rfl, hrest⟩ := tag_starts (not_mem_openingTag htag hattributes) hend h hne
    rcases paragraph_ends htag hrest with ⟨rfl, -, -⟩ | ⟨rest, rfl, hs⟩
    · rw [hbare rfl]
      exact (List.prefix_append _ _).isInfix
    · exact (ih hs).trans ⟨openingTag tag attributes ++ (content ++ closingTag tag), [], by simp⟩

/-- A start tag with the characters of one of a paragraph. -/
theorem eq_paragraph {tag : String} (htag : isName tag = true) {attributes t : List Char}
    (h : openingTag "p" [] ++ s = openingTag tag attributes ++ t) : tag = "p" := by
  obtain ⟨c, rest, hname, -, hrest⟩ := isName_cons htag
  have hp : "p".toList = ['p'] := rfl
  rw [openingTag, openingTag, hp, hname] at h
  cases rest with
  | nil =>
    obtain ⟨rfl, -⟩ := List.cons.inj (List.cons.inj h).2
    rw [← String.toList_inj, hname, hp]
  | cons d rest =>
    -- the second character would be the end of the tag
    obtain ⟨-, htail⟩ := List.cons.inj (List.cons.inj h).2
    obtain ⟨rfl, -⟩ := List.cons.inj htail
    exact absurd (hrest '>' List.mem_cons_self) (by decide)

/-- What a fragment holds is a fragment if it starts and ends with a paragraph and no other one
starts in between. -/
theorem inside_paragraph {inside : List Char}
    (h : IsFragment (openingTag "p" [] ++ (inside ++ closingTag "p")))
    (hlone : ¬ openingTag "p" [] <:+: inside) : IsFragment inside := by
  generalize hs : openingTag "p" [] ++ (inside ++ closingTag "p") = s at h
  cases h with
  | nil => simp [openingTag] at hs
  | text hc => exact absurd (List.cons.inj hs).1.symm hc
  | @void tag attributes s htag hattributes h =>
    have hp := eq_paragraph (isName_of_voidNames htag) hs
    subst hp
    exact absurd htag (by decide)
  | @element tag attributes content s htag hpaired hattributes hbare hcontent h =>
    have hp := eq_paragraph htag hs
    subst hp
    rw [hbare rfl] at hs
    rcases paragraph_ends htag (List.append_cancel_left hs).symm with ⟨-, rfl, -⟩ | ⟨rest, rfl, hend⟩
    · exact hcontent
    · exact absurd ((h.paragraph_starts hend).trans
        ⟨content ++ closingTag "p", [], by simp⟩) hlone

end IsFragment

end StaticSite.Markup
