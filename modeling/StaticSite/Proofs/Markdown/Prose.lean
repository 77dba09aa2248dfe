/-
StaticSite.Proofs.Markdown.Prose — prose as it stands in release notes.

A line of prose is a row of runs: plain text, code, emphasis and links, with some
plain text between any two of the other three (`Line`). It has a source, which is
what is written, and markup, which is what is meant. In between, the steps of
reading find the code first, then the links, and at last the emphasis
(`Run.withCode`, `Run.withLinks`, `Run.atoms`).

Of the signs that mean something to Markdown only backticks, asterisks, brackets
and parentheses come in prose, and those only around code, emphasis and links
(`isProseChar`).
-/
import Mathlib.Data.List.Chain
import StaticSite.Markdown.ToHtml
import StaticSite.Proofs.Text.Strip

namespace StaticSite.Markdown

open StaticSite.Text

/-! ## 1. Runs -/

/-- A letter or a digit of any script. -/
def isLetterOrNumber (c : Char) : Bool :=
  isWordChar c && c != '_'

/-- A part of a line. -/
inductive Run where
  | plain (s : List Char)
  | code (s : List Char)
  | emphasis (s : List Char)
  | link (label target : List Char)

/-- Words with spaces between them. -/
structure IsPhrase (s : List Char) : Prop where
  ne_nil : s ≠ []
  chars : ∀ c ∈ s, isLetterOrNumber c = true ∨ c = ' '
  head : s.head? ≠ some ' '
  last : s.getLast? ≠ some ' '

/-- Letters, digits and some signs. -/
structure IsWordOver (signs : List Char) (s : List Char) : Prop where
  ne_nil : s ≠ []
  chars : ∀ c ∈ s, isLetterOrNumber c = true ∨ c ∈ signs

namespace Run

/-- The characters that a run may have. -/
def IsSound : Run → Prop
  | plain s => IsWordOver [' ', ',', ':'] s
  | code s => IsWordOver ['-', '#', '*', '?', '/', '.'] s
  | emphasis s => IsPhrase s
  | link label target => IsPhrase label ∧ IsWordOver [':', '/', '.', '-', '#'] target

/-- Is the run plain text? -/
def isPlain : Run → Bool
  | plain _ => true
  | _ => false

/-- What is written. -/
def source : Run → List Char
  | plain s => s
  | code s => '\x60' :: (s ++ ['\x60'])
  | emphasis s => '*' :: (s ++ ['*'])
  | link label target => '[' :: (label ++ ']' :: '(' :: (target ++ [')']))

/-- What is meant, as markup. -/
def html : Run → List Char
  | plain s => s
  | code s => "<code>".toList ++ (s ++ "</code>".toList)
  | emphasis s => "<em>".toList ++ (s ++ "</em>".toList)
  | link label target =>
    "<a href=\"".toList ++ (target ++ ('"' :: '>' :: (label ++ "</a>".toList)))

/-- The run when code has been found. -/
def withCode : Run → Atoms
  | code s => [.node .code [] (verbatimText s)]
  | r => ofChars r.source

/-- The run when links have been found as well. -/
def withLinks : Run → Atoms
  | link label target => [.node .link [("href", ofChars target)] (ofChars label)]
  | r => r.withCode

/-- The run when all has been found. -/
def atoms : Run → Atoms
  | emphasis s => [.node .emphasis [] (ofChars s)]
  | r => r.withLinks

end Run

/-! ## 2. Lines -/

/-- The runs stand one after the other, and one of two neighbours is plain text. -/
structure AreRuns (runs : List Run) : Prop where
  sound : ∀ r ∈ runs, r.IsSound
  spaced : runs.IsChain fun r next => r.isPlain = true ∨ next.isPlain = true

/-- A line of prose, without spaces at its ends. -/
structure Line where
  runs : List Run
  areRuns : AreRuns runs
  ne_nil : runs ≠ []
  head : (runs.flatMap Run.source).head? ≠ some ' '
  last : (runs.flatMap Run.source).getLast? ≠ some ' '

/-- What is written in the line. -/
def Line.source (line : Line) : List Char :=
  line.runs.flatMap Run.source

/-- What is meant by the line, as markup. -/
def Line.html (line : Line) : List Char :=
  line.runs.flatMap Run.html

/-- The line as a paragraph. -/
def Line.paragraph (line : Line) : List Char :=
  "<p>".toList ++ (line.html ++ "</p>".toList)

/-- Lines with blank lines between them: one or more between two of them, of any numbers of
spaces. -/
inductive IsSpaced : List Line → List Char → Prop where
  | one (line : Line) : IsSpaced [line] line.source
  | cons {lines : List Line} {s : List Char} (line : Line) (spaces : List Nat)
      (hne : spaces ≠ []) (h : IsSpaced lines s) :
      IsSpaced (line :: lines) (line.source ++
        '\n' :: (spaces.flatMap (fun n => List.replicate n ' ' ++ ['\n']) ++ s))

/-! ## 3. Characters -/

/-- The characters of prose that are neither letters nor digits. -/
def proseSigns : List Char :=
  [' ', ',', ':', '-', '#', '*', '?', '/', '.', '\x60', '[', ']', '(', ')']

/-- A character that comes in prose. -/
def isProseChar (c : Char) : Bool :=
  isLetterOrNumber c || proseSigns.contains c

theorem ne_of_not {p : Char → Bool} {c d : Char} (hc : p c = true) (hd : p d = false) : c ≠ d := by
  rintro rfl
  rw [hc] at hd
  cases hd

/-- The code points of blank characters. -/
def blankCodes : List Nat :=
  [9, 10, 11, 12, 13, 28, 29, 30, 31, 32, 0x85, 0xA0, 0x1680, 0x2000, 0x2001, 0x2002, 0x2003,
    0x2004, 0x2005, 0x2006, 0x2007, 0x2008, 0x2009, 0x200A, 0x2028, 0x2029, 0x202F, 0x205F, 0x3000]

theorem mem_blankCodes {c : Char} (h : isBlank c = true) : c.toNat ∈ blankCodes := by
  simp only [isBlank, Bool.or_eq_true, Bool.and_eq_true, decide_eq_true_eq, beq_iff_eq] at h
  simp only [blankCodes, List.mem_cons, List.not_mem_nil, or_false]
  omega

/-- Words have no blank characters. -/
theorem isBlank_of_isWordChar {c : Char} (h : isWordChar c = true) : isBlank c = false := by
  have hcodes : ∀ n ∈ blankCodes, isWordChar (Char.ofNat n) = false := by decide +kernel
  rw [← Bool.not_eq_true]
  intro hblank
  have hnot := hcodes _ (mem_blankCodes hblank)
  rw [Char.ofNat_toNat, h] at hnot
  cases hnot

section

variable {s signs : List Char} {d : Char}

theorem isWordOver_of_all (hne : s ≠ [])
    (h : s.all (fun c => isLetterOrNumber c || signs.contains c) = true) : IsWordOver signs s := by
  refine ⟨hne, fun c hc => ?_⟩
  have hchar := List.all_eq_true.mp h c hc
  rwa [Bool.or_eq_true, List.contains_iff_mem] at hchar

theorem isPhrase_of_all (hne : s ≠ [])
    (h : s.all (fun c => isLetterOrNumber c || c == ' ') = true) (hhead : s.head? ≠ some ' ')
    (hlast : s.getLast? ≠ some ' ') : IsPhrase s := by
  refine ⟨hne, fun c hc => ?_, hhead, hlast⟩
  have hchar := List.all_eq_true.mp h c hc
  rwa [Bool.or_eq_true, beq_iff_eq] at hchar

theorem isBlank_of_isLetterOrNumber {c : Char} (h : isLetterOrNumber c = true) :
    isBlank c = false :=
  isBlank_of_isWordChar (Bool.and_eq_true_iff.mp h).1

theorem IsWordOver.not_mem (h : IsWordOver signs s) (hd : isLetterOrNumber d = false)
    (hsigns : d ∉ signs) : d ∉ s := by
  intro hmem
  rcases h.chars d hmem with hchar | hsign
  · exact absurd hd (by simp [hchar])
  · exact hsigns hsign

theorem IsWordOver.isBlank (h : IsWordOver signs s) (hsigns : signs.any isBlank = false) :
    ∀ c ∈ s, isBlank c = false := by
  intro c hc
  rcases h.chars c hc with hchar | hsign
  · exact isBlank_of_isLetterOrNumber hchar
  · exact Bool.eq_false_iff.mpr (List.any_eq_false.mp hsigns c hsign)

theorem IsPhrase.not_mem (h : IsPhrase s) (hd : isLetterOrNumber d = false) (hne : d ≠ ' ') :
    d ∉ s := by
  intro hmem
  rcases h.chars d hmem with hchar | hspace
  · exact absurd hd (by simp [hchar])
  · exact hne hspace

/-- A phrase starts with a letter or a digit. -/
theorem IsPhrase.exists_head (h : IsPhrase s) :
    ∃ c rest, s = c :: rest ∧ isLetterOrNumber c = true := by
  obtain ⟨c, rest, rfl⟩ := List.exists_cons_of_ne_nil h.ne_nil
  refine ⟨c, rest, rfl, (h.chars c List.mem_cons_self).resolve_right ?_⟩
  rintro rfl
  exact h.head rfl

/-- A phrase ends with a letter or a digit. -/
theorem IsPhrase.exists_last (h : IsPhrase s) :
    ∃ c, s.getLast? = some c ∧ isLetterOrNumber c = true := by
  have hlast := List.getLast?_eq_some_getLast h.ne_nil
  refine ⟨_, hlast, (h.chars _ (List.getLast_mem h.ne_nil)).resolve_right fun hspace => ?_⟩
  rw [hspace] at hlast
  exact h.last hlast

end

theorem is_char {c d : Char} : (Atom.char c).is d = decide (c = d) := by
  simp [Atom.is, Atom.char?, beq_eq_decide]

theorem ofChars_cons (c : Char) (s : List Char) : ofChars (c :: s) = .char c :: ofChars s :=
  rfl

theorem ofChars_append (s t : List Char) : ofChars (s ++ t) = ofChars s ++ ofChars t :=
  List.map_append

/-! ## 4. Neighbours -/

section

variable {r : Run} {runs : List Run}

theorem areRuns_nil : AreRuns [] :=
  ⟨by simp, .nil⟩

theorem AreRuns.head (h : AreRuns (r :: runs)) : r.IsSound :=
  h.sound r List.mem_cons_self

theorem AreRuns.tail (h : AreRuns (r :: runs)) : AreRuns runs :=
  ⟨fun next hnext => h.sound next (List.mem_cons_of_mem r hnext), h.spaced.tail⟩

/-- After code, emphasis or a link comes plain text, or nothing. -/
theorem AreRuns.next (h : AreRuns (r :: runs)) (hr : r.isPlain = false) :
    runs = [] ∨
      ∃ c s rest, runs = .plain (c :: s) :: rest ∧ IsWordOver [' ', ',', ':'] (c :: s) := by
  cases runs with
  | nil => exact Or.inl rfl
  | cons next rest =>
    have hnext := (List.isChain_cons_cons.mp h.spaced).1.resolve_left (by simp [hr])
    cases next with
    | plain s =>
      have hs := h.tail.head
      obtain ⟨c, s, rfl⟩ := List.exists_cons_of_ne_nil hs.ne_nil
      exact Or.inr ⟨c, s, rest, rfl, hs⟩
    | code _ | emphasis _ | link _ _ => cases hnext

theorem isProseChar_of_isLetterOrNumber {c : Char} (h : isLetterOrNumber c = true) :
    isProseChar c = true := by
  rw [isProseChar, h, Bool.true_or]

theorem IsWordOver.isProseChar {signs s : List Char} (h : IsWordOver signs s)
    (hsigns : signs.all isProseChar = true) : ∀ c ∈ s, isProseChar c = true := by
  intro c hc
  rcases h.chars c hc with hchar | hsign
  · exact isProseChar_of_isLetterOrNumber hchar
  · exact List.all_eq_true.mp hsigns c hsign

theorem IsPhrase.isProseChar {s : List Char} (h : IsPhrase s) :
    ∀ c ∈ s, isProseChar c = true := by
  intro c hc
  rcases h.chars c hc with hchar | rfl
  · exact isProseChar_of_isLetterOrNumber hchar
  · decide

theorem Run.IsSound.isProseChar (h : r.IsSound) : ∀ c ∈ r.source, isProseChar c = true := by
  have htick : Markdown.isProseChar '\x60' = true := by decide
  cases r with
  | plain s => exact IsWordOver.isProseChar h (by decide)
  | code s =>
    have hs := IsWordOver.isProseChar h (by decide)
    simpa [Run.source, or_imp, forall_and, htick] using hs
  | emphasis s =>
    have hs := IsPhrase.isProseChar h
    have hstar : Markdown.isProseChar '*' = true := by decide
    simpa [Run.source, or_imp, forall_and, hstar] using hs
  | link label target =>
    have hlabel := IsPhrase.isProseChar h.1
    have htarget := IsWordOver.isProseChar h.2 (by decide)
    have hopen : Markdown.isProseChar '[' = true := by decide
    have hclose : Markdown.isProseChar ']' = true := by decide
    have hleft : Markdown.isProseChar '(' = true := by decide
    have hright : Markdown.isProseChar ')' = true := by decide
    simp only [Run.source, List.mem_cons, List.mem_append, List.not_mem_nil, or_false]
    rintro c (rfl | hc | rfl | rfl | hc | rfl)
    · exact hopen
    · exact hlabel c hc
    · exact hclose
    · exact hleft
    · exact htarget c hc
    · exact hright

theorem AreRuns.isProseChar (h : AreRuns runs) :
    ∀ c ∈ runs.flatMap Run.source, isProseChar c = true := by
  intro c hc
  obtain ⟨r, hr, hc⟩ := List.mem_flatMap.mp hc
  exact (h.sound r hr).isProseChar c hc

end

end StaticSite.Markdown
