/-
StaticSite.Proofs.Markdown.ProseEmphasis — emphasis in prose.

In prose each asterisk outside of code stands alone: before a phrase, which it
opens, or after one, which it closes. So the text is read from left to right, a
phrase or a text without signs at a time, with nothing left open in between
(`emphasizeFrom_text`, `emphasizeFrom_phrase`).
-/
import StaticSite.Proofs.Markdown.ProsePatterns

namespace StaticSite.Markdown

open StaticSite.Text

/-! ## 1. A text after what has been read -/

/-- The rest of a text, where nothing is open. The atom before it and what has been made of the
text before it are given. -/
def emphasizeFrom (before : Option Atom) (done s : Atoms) : Atoms :=
  (OpenText.addParts before false (s.splitBy sameKind) ⟨done, []⟩).finish

theorem emphasize_eq (s : Atoms) : emphasize s = emphasizeFrom none [] s :=
  rfl

section

variable {before : Option Atom} {done s t : Atoms}

theorem emphasizeFrom_nil (before : Option Atom) (done : Atoms) :
    emphasizeFrom before done [] = done := by
  simp [emphasizeFrom, OpenText.addParts, OpenText.finish]

/-- The text has no asterisks and no low lines. -/
def HasNoSigns (s : Atoms) : Prop :=
  ∀ a ∈ s, isSign a = false

theorem sameKind_of_no_signs {a b : Atom} (ha : isSign a = false) (hb : isSign b = false) :
    sameKind a b = true := by
  simp [sameKind, ha, hb]

theorem sameKind_of_sign {a b : Atom} (ha : isSign a = true) (hb : isSign b = false) :
    sameKind a b = false ∧ sameKind b a = false := by
  simp only [isSign, Bool.or_eq_true, Bool.or_eq_false_iff] at ha hb
  rcases ha with ha | ha <;> simp [sameKind, isSign, ha, hb]

theorem splitBy_of_no_signs (ht : HasNoSigns t) (hne : t ≠ []) : t.splitBy sameKind = [t] :=
  List.splitBy_of_isChain hne (List.Pairwise.isChain (List.pairwise_of_forall_mem_list
    fun a ha b hb => sameKind_of_no_signs (ht a ha) (ht b hb)))

theorem eq_char_of_is {a : Atom} {c : Char} (h : a.is c = true) : a = .char c := by
  cases a with
  | char d =>
    rw [is_char, decide_eq_true_eq] at h
    rw [h]
  | _ => cases h

theorem signRun?_of_no_signs (ht : HasNoSigns t) (before after : Option Atom) :
    signRun? before t after = none := by
  have hstart {c : Char} (hc : isSign (.char c) = true) : startsWith c t = false := by
    cases t with
    | nil => rfl
    | cons a t =>
      rw [startsWith, ← Bool.not_eq_true]
      intro ha
      have hsign := ht a List.mem_cons_self
      rw [eq_char_of_is ha, hc] at hsign
      cases hsign
  unfold signRun?
  simp only [hstart (c := '*') (by decide), hstart (c := '_') (by decide), Bool.false_eq_true,
    if_false]

/-- A text without signs in front of one, or at the end. -/
theorem emphasizeFrom_text (ht : HasNoSigns t) (hne : t ≠ [])
    (hs : ∀ a, s.head? = some a → isSign a = true) :
    emphasizeFrom before done (t ++ s) = emphasizeFrom t.getLast? (done ++ t) s := by
  have hparts : (t ++ s).splitBy sameKind = t :: s.splitBy sameKind := by
    rw [List.splitBy_append, splitBy_of_no_signs ht hne, List.singleton_append]
    intro a ha b hb
    exact (sameKind_of_sign (hs b hb) (ht a (List.mem_of_getLast? ha))).2
  rw [emphasizeFrom, hparts, OpenText.addParts]
  simp only [Bool.false_eq_true, if_false, signRun?_of_no_signs ht]
  rfl

/-- A text without signs, which may be empty, in front of one or at the end. -/
theorem exists_emphasizeFrom_text (ht : HasNoSigns t) (before : Option Atom) (done : Atoms)
    (hs : ∀ a, s.head? = some a → isSign a = true) :
    ∃ after, emphasizeFrom before done (t ++ s) = emphasizeFrom after (done ++ t) s := by
  by_cases hne : t = []
  · exact ⟨before, by simp [hne]⟩
  · exact ⟨_, emphasizeFrom_text ht hne hs⟩

/-- The run that an asterisk is. -/
def asterisk (opens closes : Bool) : SignRun :=
  ⟨'*', 1, 1, opens, closes, opens⟩

theorem signRun?_asterisk (before after : Option Atom) :
    signRun? before [.char '*'] after = some (asterisk (touchesText after) (touchesText before)) :=
  rfl

/-- An asterisk before a phrase waits for its end. -/
theorem addRun_opening (done : Atoms) (closes : Bool) :
    OpenText.addRun ⟨done, []⟩ (asterisk true closes) =
      (⟨done, [⟨asterisk true closes, [], false, .untouched, false, 0⟩]⟩, false) := by
  cases closes <;> rfl

/-- An asterisk after a phrase closes it. -/
theorem addRun_closing (done content : Atoms) (opens closes : Bool) :
    OpenText.addRun ⟨done, [⟨asterisk true closes, content, false, .untouched, false, 0⟩]⟩
        (asterisk opens true) =
      (⟨done ++ [.node .emphasis [] content], []⟩, false) := by
  have hrun : OpenText.addRun
      ⟨done, [⟨asterisk true closes, content, false, .untouched, false, 0⟩]⟩ (asterisk opens true) =
        (⟨done ++ [.node .emphasis [] (content ++ [])], []⟩, false) := by
    cases opens <;> cases closes <;> rfl
  rwa [List.append_nil] at hrun

theorem IsPhrase.hasNoSigns {e : List Char} (he : IsPhrase e) : HasNoSigns (ofChars e) := by
  intro a ha
  obtain ⟨c, hc, rfl⟩ := List.mem_map.mp ha
  have hstar : c ≠ '*' := fun heq => he.not_mem (d := '*') (by decide) (by decide) (heq ▸ hc)
  have hline : c ≠ '_' := fun heq => he.not_mem (d := '_') (by decide) (by decide) (heq ▸ hc)
  simp [isSign, is_char, hstar, hline]

theorem touchesText_of_isLetterOrNumber {c : Char} (h : isLetterOrNumber c = true) :
    touchesText (some (.char c)) = true := by
  simp [touchesText, Atom.isBlank, isBlank_of_isLetterOrNumber h]

/-- A phrase between asterisks, which no other sign follows. -/
theorem emphasizeFrom_phrase {e : List Char} (he : IsPhrase e)
    (hs : ∀ a, s.head? = some a → isSign a = false) :
    emphasizeFrom before done (ofChars (Run.emphasis e).source ++ s) =
      emphasizeFrom (some (.char '*')) (done ++ (Run.emphasis e).atoms) s := by
  have hne : ofChars e ≠ [] := by simpa [ofChars] using he.ne_nil
  have hstar : isSign (.char '*') = true := by decide
  have hsource : ofChars (Run.emphasis e).source ++ s =
      [.char '*'] ++ (ofChars e ++ ([.char '*'] ++ s)) := by
    simp [Run.source, ofChars]
  have hparts : (ofChars (Run.emphasis e).source ++ s).splitBy sameKind =
      [.char '*'] :: ofChars e :: [.char '*'] :: s.splitBy sameKind := by
    rw [hsource, List.splitBy_append, List.splitBy_append, List.splitBy_append,
      splitBy_of_no_signs he.hasNoSigns hne]
    · rfl
    · rintro a ⟨⟩ b hb
      exact (sameKind_of_sign hstar (hs b hb)).1
    · rintro a ha b ⟨⟩
      exact (sameKind_of_sign hstar (he.hasNoSigns a (List.mem_of_getLast? ha))).2
    · rintro a ⟨⟩ b hb
      rw [List.head?_append_of_ne_nil _ hne] at hb
      exact (sameKind_of_sign hstar (he.hasNoSigns b (List.mem_of_mem_head? hb))).1
  obtain ⟨first, rest, hfirst, hstart⟩ := he.exists_head
  obtain ⟨last, hlast, hend⟩ := he.exists_last
  have hhead : (ofChars e).head? = some (.char first) := by rw [hfirst]; rfl
  have hgetLast : (ofChars e).getLast? = some (.char last) := by simp [ofChars, hlast]
  rw [emphasizeFrom, hparts, OpenText.addParts]
  simp only [Bool.false_eq_true, if_false, signRun?_asterisk, List.head?_cons, Option.bind_some,
    hhead, touchesText_of_isLetterOrNumber hstart, addRun_opening]
  rw [OpenText.addParts]
  simp only [Bool.false_eq_true, if_false, signRun?_of_no_signs he.hasNoSigns]
  rw [OpenText.addParts]
  simp only [Bool.false_eq_true, if_false, signRun?_asterisk, hgetLast,
    touchesText_of_isLetterOrNumber hend, OpenText.addText, List.nil_append, addRun_closing]
  rfl

end

/-! ## 2. Lines -/

section

variable {runs : List Run}

theorem Run.IsSound.hasNoSigns {r : Run} (h : r.IsSound) (hr : ∀ s, r ≠ .emphasis s) :
    HasNoSigns r.withLinks := by
  cases r with
  | emphasis s => exact absurd rfl (hr s)
  | plain s =>
    intro a ha
    obtain ⟨c, hc, rfl⟩ := List.mem_map.mp ha
    have hstar : c ≠ '*' :=
      fun heq => IsWordOver.not_mem h (d := '*') (by decide) (by decide) (heq ▸ hc)
    have hline : c ≠ '_' :=
      fun heq => IsWordOver.not_mem h (d := '_') (by decide) (by decide) (heq ▸ hc)
    simp [isSign, is_char, hstar, hline]
  | code s | link label target =>
    intro a ha
    rw [List.mem_singleton.mp ha]
    rfl

theorem atoms_of_not_emphasis {r : Run} (hr : ∀ s, r ≠ .emphasis s) : r.atoms = r.withLinks := by
  cases r with
  | emphasis s => exact absurd rfl (hr s)
  | _ => rfl

theorem head?_withLinks {r : Run} (h : AreRuns (r :: runs)) (hr : r.isPlain = false) :
    ∀ a, (runs.flatMap Run.withLinks).head? = some a → isSign a = false := by
  rcases h.next hr with rfl | ⟨c, s, rest, rfl, hs⟩
  · exact nofun
  · intro a ha
    have hplain : HasNoSigns (Run.plain (c :: s)).withLinks :=
      Run.IsSound.hasNoSigns (r := .plain (c :: s)) hs nofun
    cases ha
    exact hplain _ List.mem_cons_self

/-- The runs of a line after what has been read. Some text may wait to be read, up to the next
sign. -/
theorem AreRuns.emphasizeFrom_eq (h : AreRuns runs) (before : Option Atom) (done : Atoms)
    {waiting : Atoms} (hwaiting : HasNoSigns waiting) :
    emphasizeFrom before done (waiting ++ runs.flatMap Run.withLinks) =
      done ++ (waiting ++ runs.flatMap Run.atoms) := by
  induction runs generalizing before done waiting with
  | nil =>
    obtain ⟨after, hafter⟩ := exists_emphasizeFrom_text (s := []) hwaiting before done nofun
    rw [List.flatMap_nil, hafter, emphasizeFrom_nil, List.flatMap_nil, List.append_nil]
  | cons r runs ih =>
    by_cases hemphasis : ∃ s, r = .emphasis s
    · obtain ⟨s, rfl⟩ := hemphasis
      have hsource : (Run.emphasis s).withLinks = ofChars (Run.emphasis s).source := rfl
      rw [List.flatMap_cons, hsource]
      obtain ⟨after, hafter⟩ := exists_emphasizeFrom_text
        (s := ofChars (Run.emphasis s).source ++ runs.flatMap Run.withLinks) hwaiting before done
        (by rintro a ⟨⟩; decide)
      have hnone : HasNoSigns [] := by simp [HasNoSigns]
      have hrest := ih h.tail (some (.char '*')) (done ++ waiting ++ (Run.emphasis s).atoms) hnone
      rw [List.nil_append, List.nil_append] at hrest
      rw [hafter, emphasizeFrom_phrase h.head (head?_withLinks h rfl), hrest, List.flatMap_cons]
      simp only [List.append_assoc]
    · have hnot : ∀ s, r ≠ .emphasis s := fun s heq => hemphasis ⟨s, heq⟩
      have hmore : HasNoSigns (waiting ++ r.withLinks) := by
        intro a ha
        rcases List.mem_append.mp ha with ha | ha
        · exact hwaiting a ha
        · exact h.head.hasNoSigns hnot a ha
      have hrest := ih h.tail before done hmore
      rw [List.append_assoc, List.append_assoc, ← List.flatMap_cons] at hrest
      rw [hrest, List.flatMap_cons, atoms_of_not_emphasis hnot]

/-- The last step finds the emphasis in a line. -/
theorem AreRuns.emphasize_eq (h : AreRuns runs) :
    emphasize (runs.flatMap Run.withLinks) = runs.flatMap Run.atoms :=
  have hnone : HasNoSigns [] := by simp [HasNoSigns]
  h.emphasizeFrom_eq none [] hnone

/-- A text without signs has no emphasis. -/
theorem emphasize_of_no_signs {s : Atoms} (hs : HasNoSigns s) : emphasize s = s := by
  obtain ⟨after, hafter⟩ := exists_emphasizeFrom_text (s := []) hs none [] nofun
  rw [List.append_nil, List.nil_append, emphasizeFrom_nil] at hafter
  exact hafter

end

/-! ## 3. All steps -/

theorem readWith_cons (bound : Nat) (pass : Pass) (later : List Pass) (s : Atoms) :
    readWith (bound + 1) (pass :: later) s =
      readWith bound later (pass (readWith bound later) s) :=
  rfl

/-- Steps that leave a text as it is. -/
theorem readWith_of_forall {passes : List Pass} {s : Atoms}
    (h : ∀ pass ∈ passes, ∀ inner, pass inner s = s) (bound : Nat) :
    readWith bound passes s = s := by
  induction passes generalizing bound with
  | nil => cases bound <;> rfl
  | cons pass later ih =>
    rw [List.forall_mem_cons] at h
    cases bound with
    | zero => rfl
    | succ bound => rw [readWith_cons, h.1, ih h.2]

theorem readWith_append {passes later : List Pass} {s : Atoms}
    (h : ∀ pass ∈ passes, ∀ inner, pass inner s = s) (bound : Nat) :
    readWith (bound + passes.length) (passes ++ later) s = readWith bound later s := by
  induction passes with
  | nil => rfl
  | cons pass rest ih =>
    rw [List.forall_mem_cons] at h
    rw [List.length_cons, ← Nat.add_assoc, List.cons_append, readWith_cons, h.1, ih h.2]

section

variable {references : References} {s : Atoms}

/-- The patterns after the one of links. -/
def laterPatterns (references : References) : List Pattern :=
  [inlineLink true, referenceLink references true true, referenceLink references false false,
    referenceLink references true false, autolink, automail, lineBreak, inlineMarkup,
    characterReference]

theorem passes_eq (references : References) :
    passes references = codeSpan.pass :: backslash.pass ::
      (referenceLink references false true).pass :: (inlineLink false).pass ::
        ((laterPatterns references).map Pattern.pass ++ [fun _ => emphasize]) :=
  rfl

/-- Where all links have been found the later patterns find nothing. -/
theorem pass_of_later (hs : ∀ a ∈ s, a.IsProse) (hbracket : ∀ a ∈ s, a ≠ .char '[') :
    ∀ pass ∈ (laterPatterns references).map Pattern.pass, ∀ inner, pass inner s = s := by
  intro pass hpass inner
  obtain ⟨pattern, hpattern, rfl⟩ := List.mem_map.mp hpass
  have hidle (h : pattern ∈ idlePatterns references) : pattern.pass inner s = s := pass_of_idle h hs
  simp only [laterPatterns, List.mem_cons, List.not_mem_nil, or_false] at hpattern
  rcases hpattern with rfl | rfl | rfl | rfl | rfl | rfl | rfl | rfl | rfl
  · exact hidle (by simp [idlePatterns])
  · exact hidle (by simp [idlePatterns])
  · exact pass_referenceLink_of_no_bracket hbracket false
  · exact hidle (by simp [idlePatterns])
  · exact hidle (by simp [idlePatterns])
  · exact hidle (by simp [idlePatterns])
  · exact hidle (by simp [idlePatterns])
  · exact hidle (by simp [idlePatterns])
  · exact hidle (by simp [idlePatterns])

/-- The steps after that of links leave the text of a link as it is. -/
theorem IsPhrase.readWith_later {label : List Char} (h : IsPhrase label) (bound : Nat) :
    readWith bound ((laterPatterns references).map Pattern.pass ++ [fun _ => emphasize])
      (ofChars label) = ofChars label := by
  refine readWith_of_forall (fun pass hpass inner => ?_) bound
  rcases List.mem_append.mp hpass with hpass | hpass
  · refine pass_of_later ?_ ?_ pass hpass inner
    · intro a ha
      obtain ⟨c, hc, rfl⟩ := List.mem_map.mp ha
      exact .char (h.isProseChar c hc)
    · rintro a ha rfl
      obtain ⟨c, hc, heq⟩ := List.mem_map.mp ha
      exact h.brackets.1 (Atom.char.inj heq ▸ hc)
  · rw [List.mem_singleton.mp hpass]
    exact emphasize_of_no_signs h.hasNoSigns

/-- All steps together find what is meant by a line. -/
theorem AreRuns.readText_eq {runs : List Run} (h : AreRuns runs) (references : References) :
    readText references (ofChars (runs.flatMap Run.source)) = runs.flatMap Run.atoms := by
  have hidle : backslash ∈ idlePatterns references := by simp [idlePatterns]
  have hslash {inner : Atoms → Atoms} :
      backslash.pass inner (runs.flatMap Run.withCode) = runs.flatMap Run.withCode :=
    pass_of_idle hidle h.isProse_withCode
  have hlater : ∀ pass ∈ (laterPatterns references).map Pattern.pass, ∀ inner,
      pass inner (runs.flatMap Run.withLinks) = runs.flatMap Run.withLinks :=
    pass_of_later h.isProse_withLinks h.no_bracket_withLinks
  unfold readText
  dsimp only
  generalize (ofChars (runs.flatMap Run.source)).length = bound
  have hbound : bound + (passes references).length =
      bound + 1 + ((laterPatterns references).map Pattern.pass).length + 1 + 1 + 1 + 1 := rfl
  rw [hbound, passes_eq, readWith_cons, h.pass_codeSpan, readWith_cons, hslash, readWith_cons,
    h.pass_referenceLink, readWith_cons, h.pass_inlineLink fun label hlabel =>
      hlabel.readWith_later _, readWith_append hlater, readWith_cons, h.emphasize_eq]
  cases bound <;> rfl

theorem readText_nil (references : References) : readText references [] = [] :=
  areRuns_nil.readText_eq references

end

end StaticSite.Markdown
