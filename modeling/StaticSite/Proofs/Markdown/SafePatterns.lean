/-
StaticSite.Proofs.Markdown.SafePatterns — what the patterns put into a safe text is safe.

A pattern is safe if all that it finds in a safe text is (`Pattern.IsSafe`),
provided that the text inside an element is read safely; then so is the step
of reading that it makes (`Pattern.IsSafe.pass`). The patterns for markup in
angle brackets fit nowhere in a safe text. The only markup that is kept as
it is comes from references to characters, which consist of letters, digits
and three signs (`isSafe_characterReference`).
-/
import StaticSite.Proofs.Markdown.SafeLinks
import StaticSite.Proofs.Markdown.SafeOutline

namespace StaticSite.Markdown

/-! ## 1. Safe patterns -/

/-- Texts are safe after the function if they are before. -/
def KeepsTextSafe (f : Atoms → Atoms) : Prop :=
  ∀ s, AllSafe s → AllSafe (f s)

/-- What has been found is safe. -/
def Finding.IsSafe : Finding → Prop
  | .found atoms _ => AllSafe atoms
  | _ => True

/-- What the pattern finds in a safe text is safe. -/
def Pattern.IsSafe (pattern : Pattern) : Prop :=
  ∀ inner before s, KeepsTextSafe inner → AllSafe s → (pattern inner before s).IsSafe

/-- A step of reading keeps texts safe if that is so inside elements. -/
def Pass.IsSafe (pass : Pass) : Prop :=
  ∀ inner, KeepsTextSafe inner → KeepsTextSafe (pass inner)

theorem allSafe_replaceFrom {fits : Atoms → Atoms → Finding}
    (hfits : ∀ before s, AllSafe s → (fits before s).IsSafe) {s before : Atoms}
    (hs : AllSafe s) (hbefore : AllSafe before) (replaced passed : Nat) :
    AllSafe (replaceFrom fits replaced passed before s) := by
  induction s generalizing before replaced passed with
  | nil =>
    rw [replaceFrom]
    exact allSafe_reverse.mpr hbefore
  | cons a s ih =>
    obtain ⟨ha, hrest⟩ := allSafe_cons.mp hs
    have hkept := allSafe_cons.mpr ⟨ha, hbefore⟩
    match replaced, passed with
    | n + 1, _ =>
      rw [replaceFrom]
      exact ih hrest hbefore _ _
    | 0, n + 1 =>
      rw [replaceFrom]
      exact ih hrest hkept _ _
    | 0, 0 =>
      have hfound := hfits before (a :: s) hs
      rw [replaceFrom]
      cases hcase : fits before (a :: s) with
      | nothing => exact ih hrest hkept _ _
      | skip count => exact ih hrest hkept _ _
      | found atoms count =>
        rw [hcase] at hfound
        exact ih hrest (allSafe_append.mpr ⟨allSafe_reverse.mpr hfound, hbefore⟩) _ _

theorem Pattern.IsSafe.pass {pattern : Pattern} (h : pattern.IsSafe) : Pass.IsSafe pattern.pass :=
  fun inner hinner _ hs =>
    allSafe_replaceFrom (fun before s hs => h inner before s hinner hs) hs allSafe_nil 0 0

/-! ## 2. Code, backslashes and line breaks -/

theorem isSafe_codeAfter {before rest : Atoms} (count : Nat) (hrest : AllSafe rest) :
    (codeAfter before count rest).IsSafe := by
  have htick : (Atom.char '\x60').IsSafe := .char (by decide)
  have hticks (n : Nat) : AllSafe (List.replicate n (.char '\x60')) := allSafe_replicate htick n
  rw [codeAfter]
  dsimp only
  split
  · trivial
  · next index _ =>
    have hinside (n : Nat) := allSafe_append.mpr ⟨hticks n, hrest.take index⟩
    exact allSafe_append.mpr
      ⟨hticks _, allSafe_cons.mpr ⟨.bare (hinside _).trim.codeText, allSafe_nil⟩⟩

theorem isSafe_codeSpan : Pattern.IsSafe codeSpan := by
  intro inner before s _ hs
  unfold codeSpan
  dsimp only
  split
  · trivial
  · split
    · split
      · exact allSafe_replicate (.escaped '\\') _
      · trivial
    · split
      · trivial
      · exact isSafe_codeAfter _ (hs.drop _)

theorem isSafe_backslash : Pattern.IsSafe backslash := by
  intro inner before s _ hs
  unfold backslash
  split
  · split
    · exact allSafe_cons.mpr ⟨.escaped _, allSafe_nil⟩
    · trivial
  · trivial
  · trivial

theorem isSafe_lineBreak : Pattern.IsSafe lineBreak := by
  intro inner before s _ hs
  unfold lineBreak
  split
  · exact allSafe_cons.mpr ⟨.bare allSafe_nil, allSafe_nil⟩
  · trivial

/-! ## 3. Links and images -/

theorem isSafe_inlineLink (image : Bool) : Pattern.IsSafe (inlineLink image) := by
  intro inner before s hinner hs
  unfold inlineLink
  split
  · trivial
  · next text rest hopening =>
    obtain ⟨htext, hrest⟩ := hs.opening hopening
    split
    · trivial
    · next target after htarget =>
      obtain ⟨htarget, -⟩ := hrest.targetAt htarget
      exact allSafe_cons.mpr ⟨htarget.linkTo image htext (hinner text htext), allSafe_nil⟩

theorem AllReferencesSafe.isSafe_referenceLink {references : References}
    (h : AllReferencesSafe references) (image long : Bool) :
    Pattern.IsSafe (referenceLink references image long) := by
  intro inner before s hinner hs
  unfold referenceLink
  split
  · trivial
  · next text rest hopening =>
    obtain ⟨htext, -⟩ := hs.opening hopening
    split
    · trivial
    · dsimp only
      split
      · trivial
      · next target htarget =>
        have htarget := h.referenceTarget htarget
        exact allSafe_cons.mpr ⟨htarget.linkTo image htext (hinner text htext), allSafe_nil⟩

/-! ## 4. Angle brackets -/

theorem inAngles?_eq_none {s : Atoms} (h : AllSafe s) : inAngles? s = none := by
  unfold inAngles?
  split
  · exact absurd rfl (h.ne_angle _)
  · rfl

theorem isSafe_autolink : Pattern.IsSafe autolink := by
  intro inner before s _ hs
  rw [autolink, inAngles?_eq_none hs]
  trivial

theorem isSafe_automail : Pattern.IsSafe automail := by
  intro inner before s _ hs
  rw [automail, inAngles?_eq_none hs]
  trivial

theorem isSafe_inlineMarkup : Pattern.IsSafe inlineMarkup := by
  intro inner before s _ hs
  have hnone : afterMarkup? s = none := by
    unfold afterMarkup?
    split
    · exact absurd rfl (hs.ne_angle _)
    · exact absurd rfl (hs.ne_angle _)
    · exact absurd rfl (hs.ne_angle _)
    · exact absurd rfl (hs.ne_angle _)
    · rfl
  rw [inlineMarkup, hnone]
  trivial

/-! ## 5. References to characters -/

/-- The characters that references consist of. -/
def isReferenceChar (c : Char) : Bool :=
  isLetterOrDigit c || c == '&' || c == '#' || c == ';'

theorem ne_of_isReferenceChar {c : Char} (h : isReferenceChar c = true) : c ≠ '<' ∧ c ≠ '"' := by
  constructor
  · rintro rfl
    exact absurd h (by decide)
  · rintro rfl
    exact absurd h (by decide)

theorem isReferenceChar_of_isLetterOrDigit {c : Char} (h : isLetterOrDigit c = true) :
    isReferenceChar c = true := by
  simp [isReferenceChar, h]

theorem isLetterOrDigit_of_isDigitChar {c : Char} (h : isDigitChar c = true) :
    isLetterOrDigit c = true := by
  rw [isLetterOrDigit, ← isDigitChar, h, Bool.or_true]

theorem isLetterOrDigit_of_isHexChar {c : Char} (h : isHexChar c = true) :
    isLetterOrDigit c = true := by
  simp only [isHexChar, Bool.or_eq_true, Bool.and_eq_true, decide_eq_true_eq] at h
  have hf : 'f' ≤ 'z' ∧ 'F' ≤ 'Z' := by decide
  rcases h with (h | h) | h
  · exact isLetterOrDigit_of_isDigitChar h
  · simp [isLetterOrDigit, isLetter, h.1, Char.le_trans h.2 hf.1]
  · simp [isLetterOrDigit, isLetter, h.1, Char.le_trans h.2 hf.2]

theorem isSafe_writtenText {s : Atoms} (h : s.all (Atom.isIn isReferenceChar) = true) :
    (writtenText s).IsSafe := by
  refine .markup fun c hc => ?_
  obtain ⟨a, ha, hc⟩ := List.mem_flatMap.mp hc
  have hin := List.all_eq_true.mp h a ha
  cases a with
  | char d =>
    obtain rfl : c = d := List.mem_singleton.mp hc
    exact ne_of_isReferenceChar hin
  | _ => cases hin

theorem exists_of_startsWith {c : Char} {s : Atoms} (h : startsWith c s = true) :
    ∃ rest, s = .char c :: rest := by
  cases s with
  | nil => cases h
  | cons a rest =>
    cases a with
    | char d =>
      obtain rfl : d = c := by simpa [startsWith, Atom.is, Atom.char?] using h
      exact ⟨rest, rfl⟩
    | _ => cases h

/-- The text of a reference: its start, the characters of a class, and the semicolon. -/
theorem all_take_reference {rest : Atoms} {front : Nat} {p : Char → Bool}
    (hfront : (rest.take front).all (Atom.isIn isReferenceChar) = true)
    (hp : ∀ c, p c = true → isLetterOrDigit c = true) {body : Atoms}
    (hbody : (rest.drop front).takeWhile (Atom.isIn p) = body)
    (hend : startsWith ';' (rest.drop (front + body.length)) = true) :
    ((.char '&' :: rest).take (front + body.length + 2)).all (Atom.isIn isReferenceChar) = true := by
  have hprefix : (rest.drop front).take body.length = body := by
    rw [← hbody]
    exact (List.prefix_iff_eq_take.mp (List.takeWhile_prefix _)).symm
  have hclass : body.all (Atom.isIn isReferenceChar) = true := by
    rw [List.all_eq_true]
    intro a ha
    rw [← hbody] at ha
    have hin := List.all_eq_true.mp List.all_takeWhile a ha
    cases a with
    | char c => exact isReferenceChar_of_isLetterOrDigit (hp c hin)
    | _ => cases hin
  have hlast : ((rest.drop (front + body.length)).take 1).all (Atom.isIn isReferenceChar) = true := by
    obtain ⟨after, hafter⟩ := exists_of_startsWith hend
    rw [hafter]
    rfl
  rw [List.take_succ_cons, List.all_cons, Nat.add_assoc, List.take_add, List.take_add, List.drop_drop,
    hprefix]
  simp only [List.all_append, hfront, hclass, hlast, Bool.and_true]
  decide

theorem isSafe_characterReference : Pattern.IsSafe characterReference := by
  intro inner before s _ hs
  unfold characterReference
  split
  · next rest =>
    have hclosed (front : Nat) (p : Char → Bool)
        (hfront : (rest.take front).all (Atom.isIn isReferenceChar) = true)
        (hp : ∀ c, p c = true → isLetterOrDigit c = true) :
        Finding.IsSafe (
          let body := (rest.drop front).takeWhile (Atom.isIn p)
          if !body.isEmpty && startsWith ';' (rest.drop (front + body.length)) then
            let length := front + body.length + 2
            .found [writtenText ((Atom.char '&' :: rest).take length)] length
          else .nothing) := by
      dsimp only
      split
      · next hguard =>
        rw [Bool.and_eq_true] at hguard
        have hall := all_take_reference hfront hp rfl hguard.2
        exact allSafe_cons.mpr ⟨isSafe_writtenText hall, allSafe_nil⟩
      · trivial
    dsimp only
    split
    · exact hclosed 2 isHexChar rfl fun c => isLetterOrDigit_of_isHexChar
    · exact hclosed 1 isDigitChar rfl fun c => isLetterOrDigit_of_isDigitChar
    · exact hclosed 0 isLetterOrDigit rfl fun c h => h
  · trivial

/-! ## 6. All of them -/

theorem AllReferencesSafe.isSafe_patterns {references : References}
    (h : AllReferencesSafe references) : ∀ pattern ∈ patterns references, pattern.IsSafe := by
  simp only [patterns, List.forall_mem_cons]
  exact ⟨isSafe_codeSpan, isSafe_backslash, h.isSafe_referenceLink _ _, isSafe_inlineLink _,
    isSafe_inlineLink _, h.isSafe_referenceLink _ _, h.isSafe_referenceLink _ _,
    h.isSafe_referenceLink _ _, isSafe_autolink, isSafe_automail, isSafe_lineBreak,
    isSafe_inlineMarkup, isSafe_characterReference, fun _ hnone => absurd hnone List.not_mem_nil⟩

end StaticSite.Markdown
