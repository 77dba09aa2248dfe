/-
StaticSite.Proofs.Files.ShortText — paths as they are shown to a reader in a directory.

A path is shown by what is left of its parts after those of the directory, if
these come first; a relative one is shown as it is. Either way the text names
the same path when it is read in the directory. A path that does not lie
under the directory keeps its whole text (`shortText_isShortFor`).
Parts are compared and not characters, so a directory next to this one does
not count as lying under it, and neither does one at the other root.
-/
import StaticSite.Proofs.Files.PathText

namespace StaticSite

namespace Path

open StaticSite.Text

/-! ## 1. Below a directory -/

/-- The path has a directory's root, and the directory's parts come first in it. Two dots are parts
as any others. -/
def LiesUnder (p directory : Path) : Prop :=
  p.root = directory.root ∧ directory.parts <+: p.parts

instance (p directory : Path) : Decidable (p.LiesUnder directory) :=
  inferInstanceAs (Decidable (_ ∧ _))

theorem liesUnder_iff {p directory : Path} :
    p.LiesUnder directory ↔ ∃ rest, p = ⟨directory.root, directory.parts ++ rest⟩ := by
  obtain ⟨root, parts⟩ := p
  constructor
  · rintro ⟨hroot, rest, hparts⟩
    exact ⟨rest, by rw [hparts, ← hroot]⟩
  · rintro ⟨rest, hp⟩
    rw [Path.mk.injEq] at hp
    exact ⟨hp.1, rest, hp.2.symm⟩

theorem relativeTo?_of_under (directory : Path) (rest : List String) :
    relativeTo? ⟨directory.root, directory.parts ++ rest⟩ directory = some ⟨.relative, rest⟩ := by
  have hdrop : dropParts? directory.parts (directory.parts ++ rest) = some rest :=
    dropParts?_eq_some_iff.mpr rfl
  simp [relativeTo?, hdrop]

theorem relativeTo?_of_not_liesUnder {p directory : Path} (h : ¬ p.LiesUnder directory) :
    p.relativeTo? directory = none := by
  rw [relativeTo?]
  split
  · next hroot =>
    rw [Option.map_eq_none_iff, Option.eq_none_iff_forall_ne_some]
    intro rest hrest
    exact h ⟨beq_iff_eq.mp hroot, rest, (dropParts?_eq_some_iff.mp hrest).symm⟩
  · rfl

/-! ## 2. Texts and roots -/

theorem text_relative (rest : List String) :
    text ⟨.relative, rest⟩ = if rest = [] then "." else joinWith "/" rest := by
  cases rest with
  | nil => rfl
  | cons part rest =>
    have htext : text ⟨.relative, part :: rest⟩ = "" ++ joinWith "/" (part :: rest) := rfl
    rw [htext, String.empty_append, if_neg (List.cons_ne_nil part rest)]

/-- A text starts with a slash just if its path starts at a root. -/
theorem head?_text_iff {p : Path} (h : ∀ part ∈ p.parts, IsPart part) :
    p.text.toList.head? = some '/' ↔ p.isAbsolute = true := by
  obtain ⟨root, parts⟩ := p
  cases root with
  | relative =>
    refine iff_of_false ?_ Bool.false_ne_true
    rw [text_relative]
    split
    · decide
    · exact head?_joinWith h
  | absolute | doubled => exact iff_of_true (by simp [text, rootText]) rfl

/-! ## 3. Short texts -/

/-- A text shows a path to a reader who works in a directory. -/
structure ShowsFrom (here p : Path) (shown : String) : Prop where
  /-- Read in the directory, the text names what the path names. -/
  names : here.join (ofText shown) = here.join p
  /-- The text is a relative one, unless it has to be absolute. -/
  absolute_iff : shown.toList.head? = some '/' ↔ p.isAbsolute = true ∧ ¬ p.LiesUnder here
  /-- Under the directory the parts that follow it are shown, whatever they are, or a single dot for
  the directory itself. -/
  under : ∀ rest, p = ⟨here.root, here.parts ++ rest⟩ →
    shown = if rest = [] then "." else joinWith "/" rest
  /-- Anywhere else the text is that of the path. -/
  unchanged : p.isAbsolute = false ∨ ¬ p.LiesUnder here → shown = p.text

theorem shortText_of_under {here : Path} (habsolute : here.isAbsolute = true)
    (rest : List String) :
    shortText ⟨here.root, here.parts ++ rest⟩ here = text ⟨.relative, rest⟩ := by
  have hroot : isAbsolute ⟨here.root, here.parts ++ rest⟩ = true := habsolute
  rw [shortText, hroot, if_pos rfl, relativeTo?_of_under]

theorem shortText_of_unchanged {here p : Path}
    (h : p.isAbsolute = false ∨ ¬ p.LiesUnder here) : p.shortText here = p.text := by
  rw [shortText]
  split
  · next habsolute =>
    have hnot : ¬ p.LiesUnder here :=
      h.resolve_left fun hrelative => Bool.noConfusion (habsolute.symm.trans hrelative)
    rw [relativeTo?_of_not_liesUnder hnot]
  · rfl

/-- What follows a directory leads to the same place from there as the whole path does. -/
theorem join_under (here : Path) (habsolute : here.isAbsolute = true) (rest : List String) :
    here.join ⟨.relative, rest⟩ = here.join ⟨here.root, here.parts ++ rest⟩ := by
  have hroot : isAbsolute ⟨here.root, here.parts ++ rest⟩ = true := habsolute
  rw [join, join, hroot, if_pos rfl]
  rfl

/-- For any directory and any path, the short text of the path names the same when it is read in
the directory. It is relative for a relative path and for all that lies under the directory, and the
whole text of the path otherwise, also at the root with two slashes. -/
theorem shortText_showsFrom (directory s : String)
    (habsolute : (ofText directory).isAbsolute = true) :
    ShowsFrom (ofText directory) (ofText s) ((ofText s).shortText (ofText directory)) := by
  have hparts : ∀ part ∈ (ofText s).parts, IsPart part := fun _ => isPart_of_mem_ofText
  generalize ofText directory = here at habsolute ⊢
  generalize ofText s = p at hparts ⊢
  by_cases hunder : p.LiesUnder here
  · -- the path is absolute, as the directory is
    obtain ⟨rest, rfl⟩ := liesUnder_iff.mp hunder
    have hrest : ∀ part ∈ rest, IsPart part := fun part hpart =>
      hparts part (List.mem_append_right _ hpart)
    have hshort := shortText_of_under habsolute rest
    have hroot : isAbsolute ⟨here.root, here.parts ++ rest⟩ = true := habsolute
    refine ⟨?_, ?_, fun way hway => ?_, fun hor => ?_⟩
    · rw [hshort, ofText_text hrest, join_under here habsolute]
    · rw [hshort, head?_text_iff hrest]
      exact iff_of_false Bool.false_ne_true fun h => h.2 hunder
    · rw [Path.mk.injEq] at hway
      rw [hshort, text_relative, List.append_cancel_left hway.2]
    · rcases hor with hrelative | hnot
      · exact Bool.noConfusion (hroot.symm.trans hrelative)
      · exact absurd hunder hnot
  · have hshort := shortText_of_unchanged (Or.inr hunder)
    refine ⟨?_, ?_, fun rest hrest => ?_, fun _ => hshort⟩
    · rw [hshort, ofText_text hparts]
    · rw [hshort, head?_text_iff hparts]
      exact (and_iff_left hunder).symm
    · exact absurd (liesUnder_iff.mpr ⟨rest, hrest⟩) hunder

theorem mem_text {p : Path} {part : String} (hpart : part ∈ p.parts) {c : Char}
    (hc : c ∈ part.toList) : c ∈ p.text.toList := by
  obtain ⟨root, parts⟩ := p
  have hjoined : c ∈ (joinWith "/" parts).toList := by
    rw [toList_joinWith]
    exact mem_joinLists_of_mem _ (List.mem_map_of_mem hpart) hc
  cases root with
  | relative =>
    rw [text_relative, if_neg (List.ne_nil_of_mem hpart)]
    exact hjoined
  | absolute | doubled =>
    simp only [text, String.toList_append]
    exact List.mem_append_right _ hjoined

/-- A short text has no characters that the path has not, but for slashes and dots. -/
theorem mem_text_of_mem_shortText {p here : Path} {c : Char} (hslash : c ≠ '/') (hdot : c ≠ '.')
    (hc : c ∈ (p.shortText here).toList) : c ∈ p.text.toList := by
  rw [shortText] at hc
  split at hc
  · split at hc
    · rename_i rest hrest
      rw [relativeTo?] at hrest
      split at hrest
      · rw [Option.map_eq_some_iff] at hrest
        obtain ⟨parts, hparts, rfl⟩ := hrest
        rw [dropParts?_eq_some_iff] at hparts
        rw [text_relative] at hc
        split at hc
        · exact absurd (by simpa using hc) hdot
        · rw [toList_joinWith] at hc
          rcases mem_joinLists hc with hsep | ⟨s, hs, hcs⟩
          · exact absurd (by simpa using hsep) hslash
          · obtain ⟨part, hpart, rfl⟩ := List.mem_map.mp hs
            exact mem_text (by rw [hparts]; exact List.mem_append_right _ hpart) hcs
      · cases hrest
    · exact hc
  · exact hc

theorem shortText_showsFrom_twoDots :
    (ofText "/a/b/").isAbsolute = true ∧
      (ofText "/a//b/../c").shortText (ofText "/a/b/") = "../c" ∧
      ShowsFrom (ofText "/a/b/") (ofText "/a//b/../c")
        ((ofText "/a//b/../c").shortText (ofText "/a/b/")) :=
  ⟨by decide, by decide, shortText_showsFrom "/a/b/" "/a//b/../c" (by decide)⟩

example : (ofText "/a/b").shortText (ofText "/a/b/") = "." := by decide

example : (ofText "//a/b/c").shortText (ofText "/a/b/") = "//a/b/c" := by decide

example : (ofText "/a/bc").shortText (ofText "/a/b/") = "/a/bc" := by decide

end Path

end StaticSite
