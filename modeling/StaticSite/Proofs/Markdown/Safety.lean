/-
StaticSite.Proofs.Markdown.Safety — atoms that cannot break a page.

An atom is safe (`Atom.IsSafe`) if what is written for it starts no tag but
its own: a character that may still mean something is no angle bracket,
markup that is kept as it is has neither angle brackets nor quotes, and all
that an element holds is safe. Characters that stand for themselves are
always safe, since they are escaped.

Whatever is made of a text by taking parts of it is safe if the text is
(`AllSafe.of_subset`). So a step of reading can go wrong only where it makes
new atoms.
-/
import Mathlib.Data.List.Basic
import Mathlib.Tactic.SplitIfs
import StaticSite.Markdown.ToHtml
import StaticSite.Proofs.Markup.WellFormed
import StaticSite.Proofs.Text.Splitting

namespace StaticSite.Markdown

open StaticSite.Text

/-! ## 1. Safe atoms -/

/-- What is written for the atom starts no tag but its own, and ends none. -/
inductive Atom.IsSafe : Atom → Prop where
  | char {c : Char} (hc : c ≠ '<') : IsSafe (.char c)
  | verbatim (c : Char) : IsSafe (.verbatim c)
  | escaped (c : Char) : IsSafe (.escaped c)
  | markup {s : List Char} (hs : Markup.IsHarmless s) : IsSafe (.markup s)
  | node {tag : Tag} {attributes : List (String × List Atom)} {content : List Atom}
      (hnames : ∀ entry ∈ attributes, Markup.isName entry.1 = true)
      (hvalues : ∀ entry ∈ attributes, ∀ a ∈ entry.2, IsSafe a)
      (hbare : tag = .paragraph → attributes = [])
      (hcontent : ∀ a ∈ content, IsSafe a) :
      IsSafe (.node tag attributes content)

/-- A text of safe atoms. -/
def AllSafe (s : Atoms) : Prop :=
  ∀ a ∈ s, a.IsSafe

theorem Atom.IsSafe.content {tag : Tag} {attributes : List (String × Atoms)} {content : Atoms}
    (h : (Atom.node tag attributes content).IsSafe) : AllSafe content := by
  cases h with
  | node hnames hvalues hbare hcontent => exact hcontent

/-- An element with another content. -/
theorem Atom.IsSafe.withContent {tag : Tag} {attributes : List (String × Atoms)}
    {content other : Atoms} (h : (Atom.node tag attributes content).IsSafe)
    (hother : AllSafe other) : (Atom.node tag attributes other).IsSafe := by
  cases h with
  | node hnames hvalues hbare hcontent => exact .node hnames hvalues hbare hother

/-- An element without attributes. -/
theorem Atom.IsSafe.bare {tag : Tag} {content : Atoms} (h : AllSafe content) :
    (Atom.node tag [] content).IsSafe :=
  .node (by simp) (by simp) (fun _ => rfl) h

theorem Atom.IsSafe.ne {c : Char} (h : (Atom.char c).IsSafe) : c ≠ '<' := by
  cases h with
  | char hc => exact hc

/-! ## 2. Texts -/

@[simp]
theorem allSafe_nil : AllSafe [] :=
  fun _ ha => absurd ha List.not_mem_nil

@[simp]
theorem allSafe_cons {a : Atom} {s : Atoms} : AllSafe (a :: s) ↔ a.IsSafe ∧ AllSafe s :=
  List.forall_mem_cons

@[simp]
theorem allSafe_append {s t : Atoms} : AllSafe (s ++ t) ↔ AllSafe s ∧ AllSafe t :=
  List.forall_mem_append

@[simp]
theorem allSafe_reverse {s : Atoms} : AllSafe s.reverse ↔ AllSafe s := by
  simp [AllSafe]

theorem allSafe_replicate {a : Atom} (ha : a.IsSafe) (n : Nat) : AllSafe (List.replicate n a) := by
  intro b hb
  rw [(List.mem_replicate.mp hb).2]
  exact ha

theorem allSafe_verbatimText (s : List Char) : AllSafe (verbatimText s) := by
  intro a ha
  obtain ⟨c, -, rfl⟩ := List.mem_map.mp ha
  exact .verbatim c

theorem allSafe_ofChars {s : List Char} : AllSafe (ofChars s) ↔ '<' ∉ s := by
  constructor
  · intro h hmem
    exact (h _ (List.mem_map_of_mem hmem)).ne rfl
  · intro h a ha
    obtain ⟨c, hc, rfl⟩ := List.mem_map.mp ha
    exact .char fun hc' => h (hc' ▸ hc)

theorem allSafe_ofLines {lines : List Atoms} (h : ∀ line ∈ lines, AllSafe line) :
    AllSafe (ofLines lines) := by
  intro a ha
  rcases mem_joinLists ha with ha | ⟨line, hline, ha⟩
  · rw [List.mem_singleton] at ha
    subst ha
    exact .char (by decide)
  · exact h line hline a ha

namespace AllSafe

variable {s t : Atoms} {p : Atom → Bool}

theorem of_subset (h : AllSafe s) (hsub : t ⊆ s) : AllSafe t :=
  fun a ha => h a (hsub ha)

theorem take (h : AllSafe s) (n : Nat) : AllSafe (s.take n) :=
  h.of_subset (List.take_subset n s)

theorem drop (h : AllSafe s) (n : Nat) : AllSafe (s.drop n) :=
  h.of_subset (List.drop_subset n s)

theorem takeWhile (h : AllSafe s) : AllSafe (s.takeWhile p) :=
  h.of_subset (List.takeWhile_subset p)

theorem dropWhile (h : AllSafe s) : AllSafe (s.dropWhile p) :=
  h.of_subset (List.dropWhile_subset p)

theorem dropLast (h : AllSafe s) : AllSafe s.dropLast :=
  h.of_subset (List.dropLast_subset s)

theorem dropBlank (h : AllSafe s) : AllSafe (dropBlank s) :=
  h.dropWhile

theorem dropEndWhile (h : AllSafe s) : AllSafe (s.reverse.dropWhile p).reverse :=
  allSafe_reverse.mpr (allSafe_reverse.mpr h).dropWhile

theorem dropEndBlank (h : AllSafe s) : AllSafe (dropEndBlank s) :=
  h.dropEndWhile

theorem trim (h : AllSafe s) : AllSafe (trim s) :=
  h.dropBlank.dropEndBlank

/-! ## 3. Lines -/

theorem of_mem_linesOf (h : AllSafe s) {line : Atoms} (hline : line ∈ linesOf s) :
    AllSafe line :=
  h.of_subset (subset_of_mem_splitOn line hline)

/-! ## 4. Texts without elements -/

theorem flatten (h : AllSafe s) : AllSafe (flatten s) := by
  fun_induction Markdown.flatten s with
  | case1 => exact h
  | case2 tag attributes content rest ihcontent ihrest =>
    rw [allSafe_cons] at h
    rw [allSafe_append]
    exact ⟨ihcontent h.1.content, ihrest h.2⟩
  | case3 a rest ih | case4 a rest ih | case5 a rest ih | case6 a rest ih =>
    rw [allSafe_cons] at h ⊢
    exact ⟨h.1, ih h.2⟩

end AllSafe

/-! ## 5. Titles -/

/-- A title, if there is one, is safe. -/
def IsSafeTitle (title : Option Atoms) : Prop :=
  ∀ t, title = some t → AllSafe t

@[simp]
theorem isSafeTitle_none : IsSafeTitle none :=
  fun t h => absurd h (Option.some_ne_none t).symm

@[simp]
theorem isSafeTitle_some {t : Atoms} : IsSafeTitle (some t) ↔ AllSafe t :=
  ⟨fun h => h t rfl, fun h _ heq => Option.some.inj heq ▸ h⟩

end StaticSite.Markdown
