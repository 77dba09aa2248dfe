/-
StaticSite.Proofs.Markup.Closed — texts whose tags are all in themselves.

The lexer and the tree go along with the scanner of tags
(`AreInStep.step`). So a text that the scanner finds well formed is read as
some parts, and as the same parts in every element
(`IsWellFormed.isReadBeforeTag`). A text that is followed by something else
than a tag must not end in the sign that may start one: then it is closed
(`isClosed_iff`) and can stand anywhere (`IsClosed.isReadAs`).
-/
import StaticSite.Proofs.Markup.HtmlTree

namespace StaticSite.Markup

/-! ## 1. The end of a text -/

/-- All tags match and nest, and the text ends between them: nothing that comes after it can become
a part of a tag. -/
def IsClosed (s : List Char) : Prop :=
  Scan.run ⟨[], .text⟩ s = some ⟨[], .text⟩

instance (s : List Char) : Decidable (IsClosed s) :=
  inferInstanceAs (Decidable (_ = _))

theorem isWellFormed_iff {s : List Char} :
    IsWellFormed s ↔ Scan.run ⟨[], .text⟩ s = some ⟨[], .text⟩ ∨
      Scan.run ⟨[], .text⟩ s = some ⟨[], .sign⟩ := by
  constructor
  · rintro ⟨spot, rfl | rfl, hrun⟩
    · exact .inl hrun
    · exact .inr hrun
  · rintro (hrun | hrun)
    · exact ⟨.text, .inl rfl, hrun⟩
    · exact ⟨.sign, .inr rfl, hrun⟩

instance (s : List Char) : Decidable (IsWellFormed s) :=
  decidable_of_iff _ isWellFormed_iff.symm

/-- Nothing but the sign that may start a tag leads after that sign. -/
theorem Spot.next_eq_sign {spot : Spot} {c : Char} (h : spot.next c = .goTo .sign) : c = '<' := by
  by_contra hc
  cases spot <;> simp only [Spot.next, endTag] at h <;> grind

theorem Spot.next_sign_ne_text {spot : Spot} {opened : List (List Char)} {after : Scan}
    (h : Scan.apply opened (spot.next '<') = some after) : after.spot ≠ .text := by
  cases spot with
  | quotedValue closing name double =>
    cases double <;> cases h <;> exact Spot.noConfusion
  | tagName _ _ | inTag _ _ | equals _ _ | bareValue _ _ => cases h
  | _ =>
    cases h
    exact Spot.noConfusion

theorem Scan.run_concat_eq_some_iff {scan after : Scan} {s : List Char} {c : Char} :
    run scan (s ++ [c]) = some after ↔ ∃ middle, run scan s = some middle ∧
      apply middle.opened (middle.spot.next c) = some after := by
  have hlast (middle : Scan) : run middle [c] = apply middle.opened (middle.spot.next c) := by
    rw [run]
    cases apply middle.opened (middle.spot.next c) <;> rfl
  simp only [run_append_eq_some_iff, hlast]

/-- Tags end in texts. -/
theorem Scan.move_eq_of_sign {opened : List (List Char)} {move : Move} {after : Scan}
    (h : apply opened move = some after) (hspot : after.spot = .sign) : move = .goTo .sign := by
  cases move with
  | goTo spot =>
    cases h
    exact congrArg Move.goTo hspot
  | opens name =>
    cases h
    cases hspot
  | closes name =>
    cases opened with
    | nil => cases h
    | cons innermost outer =>
      simp only [apply, Option.ite_none_right_eq_some] at h
      obtain ⟨-, ⟨⟩⟩ := h
      cases hspot
  | fails => cases h

/-- A closed text is a well-formed one that does not end in the sign that may start a tag. -/
theorem isClosed_iff {s : List Char} : IsClosed s ↔ IsWellFormed s ∧ s.getLast? ≠ some '<' := by
  constructor
  · intro h
    refine ⟨⟨.text, .inl rfl, h⟩, fun hlast => ?_⟩
    obtain ⟨init, rfl⟩ := List.getLast?_eq_some_iff.mp hlast
    obtain ⟨middle, -, hend⟩ := Scan.run_concat_eq_some_iff.mp h
    exact Spot.next_sign_ne_text hend rfl
  · rintro ⟨⟨spot, rfl | rfl, hrun⟩, hlast⟩
    · exact hrun
    · rcases List.eq_nil_or_concat' s with rfl | ⟨init, c, rfl⟩
      · cases hrun
      · obtain ⟨middle, -, hend⟩ := Scan.run_concat_eq_some_iff.mp hrun
        have hsign := Scan.move_eq_of_sign hend rfl
        rw [List.getLast?_concat, Spot.next_eq_sign hsign] at hlast
        exact absurd rfl hlast

/-- Two well-formed texts that make a tag together. -/
example : IsWellFormed "<".toList ∧ IsWellFormed "br>".toList ∧
    lexemes? ("<".toList ++ "br>".toList) = some [.lone "br" []] := by
  decide +kernel

/-! ## 2. The tree of a text -/

/-- The scanner, the lexer and the tree are at one place. -/
structure AreInStep (scan : Scan) (r : Lexer) (n : Nest) : Prop where
  spot : r.spot = scan.spot
  opened : n.opened.map (fun e => e.tag.toList) = scan.opened
  eq_inText : scan.spot = .text → r = .inText
  eq_atSign : scan.spot = .sign → r = .atSign

theorem AreInStep.inText {n : Nest} {opened : List (List Char)}
    (h : n.opened.map (fun e => e.tag.toList) = opened) :
    AreInStep ⟨opened, .text⟩ .inText n :=
  ⟨rfl, h, fun _ => rfl, Spot.noConfusion⟩

theorem AreInStep.atSign {n : Nest} {opened : List (List Char)}
    (h : n.opened.map (fun e => e.tag.toList) = opened) :
    AreInStep ⟨opened, .sign⟩ .atSign n :=
  ⟨rfl, h, Spot.noConfusion, fun _ => rfl⟩

/-- What ends with a character opens no element. -/
theorem Nest.run_ended (n : Nest) (r : Lexer) (c : Char) (f : List Char → List Char) :
    ∃ next : Nest, n.run ((r.ended c).map (Lexeme.mapValues f)) = some next ∧
      next.opened = n.opened := by
  unfold Lexer.ended
  split
  · exact ⟨_, rfl, rfl⟩
  · exact ⟨_, rfl, rfl⟩
  · split
    · exact ⟨_, rfl, rfl⟩
    · exact ⟨_, rfl, rfl⟩

/-- One character. Other values of attributes open and close the same elements. -/
theorem AreInStep.step {scan next : Scan} {r : Lexer} {n : Nest} {c : Char}
    (h : AreInStep scan r n) (hnext : Scan.apply scan.opened (scan.spot.next c) = some next)
    (f : List Char → List Char) :
    ∃ r' ls n', r.step c = some (r', ls) ∧ n.run (ls.map (Lexeme.mapValues f)) = some n' ∧
      AreInStep next r' n' := by
  obtain ⟨hspot, hopened, -, -⟩ := h
  rw [← hspot] at hnext
  unfold Lexer.step
  cases hmove : r.spot.next c with
  | goTo spot =>
    rw [hmove] at hnext
    cases hnext
    cases spot with
    | text =>
      obtain ⟨n', hrun, hsame⟩ := n.run_ended r c f
      exact ⟨_, _, n', rfl, hrun, .inText (hsame ▸ hopened)⟩
    | sign =>
      by_cases hsign : r.spot = .sign
      · rw [if_pos hsign]
        exact ⟨_, _, _, rfl, rfl, .atSign hopened⟩
      · rw [if_neg hsign]
        exact ⟨_, _, _, rfl, rfl, .atSign hopened⟩
    | _ => exact ⟨_, _, _, rfl, rfl, ⟨rfl, hopened, Spot.noConfusion, Spot.noConfusion⟩⟩
  | opens name =>
    rw [hmove] at hnext
    cases hnext
    refine ⟨_, _, _, rfl, rfl, .inText ?_⟩
    simp [hopened]
  | closes name =>
    rw [hmove] at hnext
    obtain ⟨opened, done⟩ := n
    cases opened with
    | nil =>
      rw [← hopened] at hnext
      cases hnext
    | cons innermost outer =>
      -- The scanner compares the names as characters, the tree as texts.
      rw [← hopened, List.map_cons, Scan.apply, Option.ite_none_right_eq_some] at hnext
      obtain ⟨hname, hnext⟩ := hnext
      cases hnext
      have htag : innermost.tag = String.ofList name := by rw [← hname, String.ofList_toList]
      refine ⟨_, _, ⟨outer, .element (String.ofList name) innermost.attributes done.reverse ::
        innermost.before⟩, rfl, ?_, .inText rfl⟩
      simp [Nest.run, Nest.step, Lexeme.mapValues, htag]
  | fails =>
    rw [hmove] at hnext
    cases hnext

theorem AreInStep.run {scan last : Scan} {r : Lexer} {n : Nest} {s : List Char}
    (h : AreInStep scan r n) (hlast : scan.run s = some last) (f : List Char → List Char) :
    ∃ r' ls n', r.run s = some (r', ls) ∧ n.run (ls.map (Lexeme.mapValues f)) = some n' ∧
      AreInStep last r' n' := by
  induction s generalizing scan r n with
  | nil =>
    cases hlast
    exact ⟨r, [], n, rfl, rfl, h⟩
  | cons c s ih =>
    rw [Scan.run] at hlast
    cases hnext : Scan.apply scan.opened (scan.spot.next c) with
    | none => simp [hnext] at hlast
    | some next =>
      rw [hnext] at hlast
      obtain ⟨middle, first, n', hstep, hfirst, hmiddle⟩ := h.step hnext f
      obtain ⟨r', rest, n'', hrun, hrest, hend⟩ := ih hmiddle hlast
      refine ⟨r', first ++ rest, n'', Lexer.run_cons hstep hrun, ?_, hend⟩
      rw [List.map_append]
      exact Nest.run_trans hfirst hrest

/-- What the scanner finds balanced is read as some parts. -/
theorem exists_run_of_scan {s : List Char} {spot : Spot}
    (h : Scan.run ⟨[], .text⟩ s = some ⟨[], spot⟩) (f : List Char → List Char) :
    ∃ r ls parts, Lexer.inText.run s = some (r, ls) ∧
      ls.map (Lexeme.mapValues f) = lexemesOf parts ∧ (spot = .text → r = .inText) ∧
        (spot = .sign → r = .atSign) := by
  have hstart : AreInStep ⟨[], .text⟩ .inText ⟨[], []⟩ := .inText rfl
  obtain ⟨r, ls, ⟨opened, done⟩, hrun, hnest, -, hopened, htext, hsign⟩ := hstart.run h f
  have hnone : opened = [] := List.map_eq_nil_iff.mp hopened
  refine ⟨r, ls, done.reverse, hrun, nest?_eq_some_iff.mp ?_, htext, hsign⟩
  rw [nest?, hnest, hnone]

/-- What a text is read as when it stands alone. A well-formed text can be read. -/
def partsOf (d : Decoder) (html : String) : List Part :=
  (readHtml d html).getD []

variable {html : String}

/-- A well-formed text is read as the same parts in every element. -/
theorem IsWellFormed.isReadBeforeTag (h : IsWellFormed html.toList) (d : Decoder) :
    IsReadBeforeTag d html (partsOf d html) := by
  obtain ⟨spot, hspot, hscan⟩ := h
  have hnext : Scan.run ⟨[], .text⟩ (html.toList ++ ['<']) = some ⟨[], .sign⟩ := by
    refine Scan.run_concat_eq_some_iff.mpr ⟨_, hscan, ?_⟩
    rcases hspot with rfl | rfl <;> rfl
  obtain ⟨r, ls, parts, hrun, hdecoded, -, hsign⟩ := exists_run_of_scan hnext d.decode
  rw [hsign rfl] at hrun
  have hread : IsReadBeforeTag d html parts := ⟨ls, hrun, hdecoded⟩
  rw [partsOf, hread.readHtml, Option.getD_some]
  exact hread

/-- A closed text is read as the same parts wherever it stands. -/
theorem IsClosed.isReadAs (h : IsClosed html.toList) (d : Decoder) :
    IsReadAs d html (partsOf d html) := by
  obtain ⟨r, ls, parts, hrun, hdecoded, htext, -⟩ := exists_run_of_scan h d.decode
  rw [htext rfl] at hrun
  have hread : IsReadAs d html parts := ⟨ls, hrun, hdecoded⟩
  rw [partsOf, hread.beforeTag.readHtml, Option.getD_some]
  exact hread

end StaticSite.Markup
