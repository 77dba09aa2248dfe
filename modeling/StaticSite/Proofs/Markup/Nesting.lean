/-
StaticSite.Proofs.Markup.Nesting — markup of any kind whose tags match and nest.

A scanner goes over markup character by character and keeps the names of the
elements that are open. It takes markup as writers of HTML may have written it:
names in any case, attributes with or without quotes, elements that have no end
tag, comments and declarations, and the sign `<` in a text if no tag starts
there. The elements around a text are of no concern to the tags in it
(`Scan.run_outside`), unless one of them is closed in it (`Scan.run_inside`).

So a text between the tags of a paragraph is well formed just if these tags
belong together, which means that the whole is not two well-formed texts one
after the other (`isWellFormed_inside_iff`).
-/
import StaticSite.Proofs.Markup.WellFormed

namespace StaticSite.Markup

open StaticSite.Text

/-! ## 1. The scanner -/

/-- The elements of HTML without content and without an end tag. -/
def unpairedNames : List (List Char) :=
  ["area", "base", "br", "col", "embed", "hr", "img", "input", "link", "meta", "source", "track",
    "wbr"].map String.toList

/-- Where the scanner is. A tag closes an element or does not, and has a name. -/
inductive Spot where
  | text
  /-- After the sign that may start a tag. -/
  | sign
  /-- After that sign and a slash. -/
  | slash
  /-- After that sign and an exclamation mark. -/
  | bang
  /-- After these and a dash. -/
  | bangDash
  /-- In a comment, after a number of dashes. -/
  | comment (dashes : Nat)
  | declaration
  /-- In the name of a tag. What has been read of it is in lower case and reversed. -/
  | tagName (closing : Bool) (read : List Char)
  | inTag (closing : Bool) (name : List Char)
  /-- After the sign between the name and the value of an attribute. -/
  | equals (closing : Bool) (name : List Char)
  | bareValue (closing : Bool) (name : List Char)
  /-- In a value between double quotes or apostrophes. -/
  | quotedValue (closing : Bool) (name : List Char) (double : Bool)
  deriving DecidableEq

/-- What a character does. -/
inductive Move where
  | goTo (spot : Spot)
  | opens (name : List Char)
  | closes (name : List Char)
  | fails

/-- The end of a tag. -/
def endTag (closing : Bool) (name : List Char) : Move :=
  if closing then .closes name
  else if unpairedNames.contains name then .goTo .text
  else .opens name

/-- What the next character does. No tag starts in a tag, but for what stands between quotes. -/
def Spot.next (c : Char) : Spot → Move
  | .text => .goTo (if c == '<' then .sign else .text)
  | .sign =>
    if c.isAlpha then .goTo (.tagName false [c.toLower])
    else if c == '/' then .goTo .slash
    else if c == '!' then .goTo .bang
    else if c == '?' then .goTo .declaration
    else .goTo (if c == '<' then .sign else .text)
  | .slash =>
    if c.isAlpha then .goTo (.tagName true [c.toLower])
    else .goTo (if c == '>' then .text else .declaration)
  | .bang => .goTo (if c == '-' then .bangDash else if c == '>' then .text else .declaration)
  | .bangDash => .goTo (if c == '-' then .comment 2 else if c == '>' then .text else .declaration)
  | .comment dashes =>
    if c == '-' then .goTo (.comment (dashes + 1))
    else .goTo (if c == '>' && 2 ≤ dashes then .text else .comment 0)
  | .declaration => .goTo (if c == '>' then .text else .declaration)
  | .tagName closing read =>
    if c == '>' then endTag closing read.reverse
    else if c == '<' then .fails
    else if isBlank c || c == '/' then .goTo (.inTag closing read.reverse)
    else .goTo (.tagName closing (c.toLower :: read))
  | .inTag closing name =>
    if c == '>' then endTag closing name
    else if c == '<' then .fails
    else .goTo (if c == '=' then .equals closing name else .inTag closing name)
  | .equals closing name =>
    if c == '>' then endTag closing name
    else if c == '<' then .fails
    else if c == '"' || c == '\'' then .goTo (.quotedValue closing name (c == '"'))
    else .goTo (if isBlank c then .equals closing name else .bareValue closing name)
  | .bareValue closing name =>
    if c == '>' then endTag closing name
    else if c == '<' then .fails
    else .goTo (if isBlank c then .inTag closing name else .bareValue closing name)
  | .quotedValue closing name double =>
    if c == (if double then '"' else '\'') then .goTo (.inTag closing name)
    else .goTo (.quotedValue closing name double)

/-- The elements that are open, the innermost first, and the place of the scanner. -/
structure Scan where
  opened : List (List Char)
  spot : Spot
  deriving DecidableEq

namespace Scan

/-- A move. Only the innermost element can be closed. -/
def apply (opened : List (List Char)) : Move → Option Scan
  | .goTo spot => some ⟨opened, spot⟩
  | .opens name => some ⟨name :: opened, .text⟩
  | .closes name =>
    match opened with
    | [] => none
    | innermost :: outer => if innermost = name then some ⟨outer, .text⟩ else none
  | .fails => none

/-- What is open after a text. -/
def run (scan : Scan) : List Char → Option Scan
  | [] => some scan
  | c :: s =>
    match apply scan.opened (scan.spot.next c) with
    | some after => run after s
    | none => none

end Scan

/-- Is the scanner between tags? The sign that it may be after has started none. -/
def Spot.IsBetween (spot : Spot) : Prop :=
  spot = .text ∨ spot = .sign

/-- All tags match and nest, and none is left open. -/
def IsWellFormed (s : List Char) : Prop :=
  ∃ spot : Spot, spot.IsBetween ∧ Scan.run ⟨[], .text⟩ s = some ⟨[], spot⟩

/-- The text is two well-formed texts, one after the other. -/
def IsDivided (s : List Char) : Prop :=
  ∃ first more, s = first ++ more ∧ first ≠ [] ∧ more ≠ [] ∧ IsWellFormed first ∧
    IsWellFormed more

/-! ## 2. The elements around a text -/

namespace Scan

variable {scan after : Scan} {opened outer : List (List Char)} {spot : Spot} {s t : List Char}
  {name : List Char}

theorem run_append : run scan (s ++ t) = (run scan s).bind fun after => run after t := by
  induction s generalizing scan with
  | nil => rfl
  | cons c s ih =>
    rw [List.cons_append, run, run]
    cases apply scan.opened (scan.spot.next c) with
    | none => rfl
    | some next => exact ih

theorem run_append_eq_some_iff :
    run scan (s ++ t) = some after ↔ ∃ middle, run scan s = some middle ∧
      run middle t = some after := by
  rw [run_append, Option.bind_eq_some_iff]

theorem apply_outside {move : Move} (h : apply opened move = some after)
    (outer : List (List Char)) :
    apply (opened ++ outer) move = some ⟨after.opened ++ outer, after.spot⟩ := by
  cases move with
  | goTo spot =>
    cases h
    rfl
  | opens name =>
    cases h
    rfl
  | closes name =>
    cases opened with
    | nil => cases h
    | cons innermost opened =>
      simp only [apply, Option.ite_none_right_eq_some] at h
      obtain ⟨hname, ⟨⟩⟩ := h
      simp [apply, hname]
  | fails => cases h

/-- Other elements can be open around a text. -/
theorem run_outside (h : run scan s = some after) (outer : List (List Char)) :
    run ⟨scan.opened ++ outer, scan.spot⟩ s = some ⟨after.opened ++ outer, after.spot⟩ := by
  induction s generalizing scan with
  | nil =>
    cases h
    rfl
  | cons c s ih =>
    rw [run] at h
    cases hnext : apply scan.opened (scan.spot.next c) with
    | none => simp [hnext] at h
    | some next =>
      rw [hnext] at h
      simp only [run, apply_outside hnext outer]
      exact ih h

/-- A move in the only open element either closes it or does not touch it. -/
theorem apply_inside {move : Move} (h : apply (opened ++ [name]) move = some after) :
    (∃ inner : Scan, apply opened move = some inner ∧
        after = ⟨inner.opened ++ [name], inner.spot⟩) ∨
      after = ⟨[], .text⟩ := by
  cases move with
  | goTo spot =>
    cases h
    exact Or.inl ⟨_, rfl, rfl⟩
  | opens other =>
    cases h
    exact Or.inl ⟨_, rfl, rfl⟩
  | closes other =>
    cases opened with
    | nil =>
      simp only [apply, List.nil_append, Option.ite_none_right_eq_some] at h
      obtain ⟨-, ⟨⟩⟩ := h
      exact Or.inr rfl
    | cons innermost opened =>
      simp only [apply, List.cons_append, Option.ite_none_right_eq_some] at h
      obtain ⟨hname, ⟨⟩⟩ := h
      exact Or.inl ⟨⟨opened, .text⟩, by simp [apply, hname], rfl⟩
  | fails => cases h

/-- An element that is open before a text is closed in it, or stays open around all of it. -/
theorem run_inside (h : run ⟨opened ++ [name], spot⟩ s = some after) :
    (∃ inner : Scan, run ⟨opened, spot⟩ s = some inner ∧
        after = ⟨inner.opened ++ [name], inner.spot⟩) ∨
      ∃ before rest, s = before ++ rest ∧
        run ⟨opened ++ [name], spot⟩ before = some ⟨[], .text⟩ ∧
          run ⟨[], .text⟩ rest = some after := by
  induction s generalizing opened spot with
  | nil =>
    cases h
    exact Or.inl ⟨_, rfl, rfl⟩
  | cons c s ih =>
    rw [run] at h
    dsimp only at h
    cases hnext : apply (opened ++ [name]) (spot.next c) with
    | none => simp [hnext] at h
    | some next =>
      rw [hnext] at h
      rcases apply_inside hnext with ⟨inner, hinner, rfl⟩ | rfl
      · rcases ih h with ⟨last, hlast, rfl⟩ | ⟨before, rest, rfl, hbefore, hrest⟩
        · exact Or.inl ⟨last, by simp only [run, hinner, hlast], rfl⟩
        · refine Or.inr ⟨c :: before, rest, rfl, ?_, hrest⟩
          simp only [run, hnext, hbefore]
      · refine Or.inr ⟨[c], s, rfl, ?_, h⟩
        simp only [run, hnext]

/-- Only the end of a tag opens or closes an element. -/
theorem apply_next_opened {c : Char} (hc : c ≠ '>')
    (h : apply opened (spot.next c) = some after) : after.opened = opened := by
  have hgoTo : (∃ next, spot.next c = .goTo next) ∨ spot.next c = .fails := by
    cases spot <;> simp only [Spot.next, beq_iff_eq, hc, if_false] <;> grind
  rcases hgoTo with ⟨next, hnext⟩ | hnext
  · rw [hnext] at h
    cases h
    rfl
  · rw [hnext] at h
    cases h

theorem run_opened (hs : '>' ∉ s) (h : run scan s = some after) : after.opened = scan.opened := by
  induction s generalizing scan with
  | nil =>
    cases h
    rfl
  | cons c s ih =>
    rw [List.mem_cons, not_or] at hs
    obtain ⟨hc, hs⟩ := hs
    rw [run] at h
    cases hnext : apply scan.opened (scan.spot.next c) with
    | none => simp [hnext] at h
    | some next =>
      rw [hnext] at h
      exact (ih hs h).trans (apply_next_opened (Ne.symm hc) hnext)

end Scan

/-! ## 3. Paragraphs -/

/-- The text is what stands between the tags of a paragraph, and is well formed itself. -/
def IsParagraph (s content : List Char) : Prop :=
  s = openingTag "p" [] ++ (content ++ closingTag "p") ∧ IsWellFormed content

theorem run_openingTag_p :
    Scan.run ⟨[], .text⟩ (openingTag "p" []) = some ⟨[['p']], .text⟩ := by
  decide

section

variable {opened : List (List Char)} {spot final : Spot} {content : List Char}

/-- Between tags, the end tag of a paragraph closes the innermost element. -/
theorem run_closingTag_p (hspot : spot.IsBetween) :
    Scan.run ⟨opened, spot⟩ (closingTag "p") = Scan.apply opened (.closes ['p']) := by
  have hrun : Scan.run ⟨opened, spot⟩ (closingTag "p") =
      match Scan.apply opened (.closes ['p']) with
      | some after => some after
      | none => none := by
    rcases hspot with rfl | rfl <;> rfl
  rw [hrun]
  cases Scan.apply opened (.closes ['p']) <;> rfl

/-- Where the end tag of a paragraph leaves nothing open, it is a tag, or else it ends a
declaration outside of all elements. -/
theorem eq_of_run_closingTag_p (hfinal : final.IsBetween)
    (h : Scan.run ⟨opened, spot⟩ (closingTag "p") = some ⟨[], final⟩) :
    opened = [] ∨ opened = [['p']] ∧ spot.IsBetween := by
  have hclosed (hspot : spot.IsBetween) : opened = [['p']] := by
    rw [run_closingTag_p hspot] at h
    cases opened with
    | nil => cases h
    | cons innermost outer =>
      simp only [Scan.apply, Option.ite_none_right_eq_some] at h
      obtain ⟨rfl, ⟨⟩⟩ := h
      rfl
  cases spot with
  | text => exact Or.inr ⟨hclosed (Or.inl rfl), Or.inl rfl⟩
  | sign => exact Or.inr ⟨hclosed (Or.inr rfl), Or.inr rfl⟩
  | slash | bang | bangDash | declaration =>
    have hrun : some (Scan.mk opened .text) = some ⟨[], final⟩ := h
    cases hrun
    exact Or.inl rfl
  | comment dashes =>
    have hrun : some (Scan.mk opened (.comment 0)) = some ⟨[], final⟩ := h
    cases hrun
    rcases hfinal with hfinal | hfinal <;> cases hfinal
  | tagName closing read | inTag closing name | equals closing name | bareValue closing name =>
    have hrun : none = some (Scan.mk [] final) := h
    cases hrun
  | quotedValue closing name double =>
    have hrun : some (Scan.mk opened (.quotedValue closing name double)) = some ⟨[], final⟩ := by
      rw [← h]
      cases double <;> rfl
    cases hrun
    rcases hfinal with hfinal | hfinal <;> cases hfinal

/-- A text in a paragraph. -/
theorem run_in_p {s : List Char} {after : Scan} (h : Scan.run ⟨[], .text⟩ s = some after) :
    Scan.run ⟨[['p']], .text⟩ s = some ⟨after.opened ++ [['p']], after.spot⟩ :=
  Scan.run_outside h [['p']]

/-- What stands between the tags of a paragraph in a well-formed text is well formed itself, or
else the text is divided after the end of that paragraph. -/
theorem isWellFormed_inside_or_isDivided
    (h : IsWellFormed (openingTag "p" [] ++ (content ++ closingTag "p"))) :
    IsWellFormed content ∨ IsDivided (openingTag "p" [] ++ (content ++ closingTag "p")) := by
  obtain ⟨final, hfinal, h⟩ := h
  obtain ⟨start, hstart, h⟩ := Scan.run_append_eq_some_iff.mp h
  rw [run_openingTag_p] at hstart
  cases hstart
  obtain ⟨⟨opened, spot⟩, hcontent, hend⟩ := Scan.run_append_eq_some_iff.mp h
  have hcontent : Scan.run ⟨[] ++ [['p']], .text⟩ content = some ⟨opened, spot⟩ := hcontent
  rcases Scan.run_inside hcontent with ⟨inner, hinner, hopened⟩ |
    ⟨before, rest, rfl, hbefore, hrest⟩
  · -- The paragraph is open all along, and nothing else is at its end tag.
    left
    simp only [Scan.mk.injEq] at hopened
    rcases eq_of_run_closingTag_p hfinal hend with hnil | ⟨hone, hspot⟩
    · simp [hopened.1] at hnil
    · have hinside : inner.opened = [] := by simpa [hopened.1] using hone
      refine ⟨inner.spot, hopened.2 ▸ hspot, ?_⟩
      rw [hinner, ← hinside]
  · right
    refine ⟨openingTag "p" [] ++ before, rest ++ closingTag "p", by simp, by simp [openingTag],
      by simp [closingTag], ⟨.text, Or.inl rfl, ?_⟩, final, hfinal, ?_⟩
    · exact Scan.run_append_eq_some_iff.mpr ⟨_, run_openingTag_p, hbefore⟩
    · exact Scan.run_append_eq_some_iff.mpr ⟨_, hrest, hend⟩

/-- The paragraph is still open inside its end tag. -/
theorem run_closingTag_p_ne {before rest : List Char} (h : before ++ rest = closingTag "p")
    (hne : rest ≠ []) : Scan.run ⟨[['p']], spot⟩ before ≠ some ⟨[], final⟩ := by
  have hstart : before <+: ['<', '/', 'p'] := by
    have hclosing : before <+: ['<', '/', 'p'] ++ ['>'] := ⟨rest, h⟩
    rcases List.prefix_concat_iff.mp hclosing with rfl | hbefore
    · exact absurd (List.append_cancel_left (h.trans (List.append_nil _).symm)) hne
    · exact hbefore
  intro hrun
  have hopened := Scan.run_opened (fun hmem => absurd (hstart.subset hmem) (by decide)) hrun
  cases hopened

/-- A paragraph with well-formed content is not divided. -/
theorem IsWellFormed.not_isDivided (h : IsWellFormed content) :
    ¬ IsDivided (openingTag "p" [] ++ (content ++ closingTag "p")) := by
  rintro ⟨first, more, heq, hfirst, hmore, ⟨spot, hspot, hrun⟩, ⟨final, hfinal, hrest⟩⟩
  obtain ⟨inner, hinner, hcontent⟩ := h
  rcases List.append_eq_append_iff.mp heq with ⟨inside, rfl, hinside⟩ | ⟨tail, htag, rfl⟩
  · -- The first text goes past the start of the paragraph, which is open from there on.
    obtain ⟨start, hstart, hrun⟩ := Scan.run_append_eq_some_iff.mp hrun
    rw [run_openingTag_p] at hstart
    cases hstart
    rcases List.append_eq_append_iff.mp hinside with ⟨before, rfl, hclosing⟩ | ⟨after, rfl, -⟩
    · obtain ⟨middle, hmiddle, hrun⟩ := Scan.run_append_eq_some_iff.mp hrun
      rw [run_in_p hcontent] at hmiddle
      cases hmiddle
      exact run_closingTag_p_ne hclosing.symm hmore hrun
    · obtain ⟨middle, hmiddle, -⟩ := Scan.run_append_eq_some_iff.mp hcontent
      rw [run_in_p hmiddle] at hrun
      simp at hrun
  · -- The first text is a part of the start tag, of which only the first sign is well formed.
    have htag : ['<', 'p', '>'] = first ++ tail := htag
    match first, htag with
    | [_], htag =>
      cases htag
      have hopen : Scan.run ⟨[], .text⟩ ['p', '>'] = some ⟨[], .text⟩ := by decide
      obtain ⟨start, hstart, hrest⟩ := Scan.run_append_eq_some_iff.mp hrest
      rw [hopen] at hstart
      cases hstart
      obtain ⟨middle, hmiddle, hrest⟩ := Scan.run_append_eq_some_iff.mp hrest
      rw [hcontent] at hmiddle
      cases hmiddle
      rw [run_closingTag_p hinner] at hrest
      cases hrest
    | [_, _], htag =>
      cases htag
      have hname : Scan.run ⟨[], .text⟩ ['<', 'p'] = some ⟨[], .tagName false ['p']⟩ := by decide
      rw [hname] at hrun
      cases hrun
      rcases hspot with hspot | hspot <;> cases hspot
    | [_, _, _], htag =>
      cases htag
      have hopen := run_openingTag_p.symm.trans hrun
      cases hopen
    | _ :: _ :: _ :: _ :: _, htag => cases htag

/-- Between the tags of a paragraph stands a well-formed text just if the whole is well formed
and not divided. -/
theorem isWellFormed_inside_iff
    (h : IsWellFormed (openingTag "p" [] ++ (content ++ closingTag "p"))) :
    IsWellFormed content ↔ ¬ IsDivided (openingTag "p" [] ++ (content ++ closingTag "p")) :=
  ⟨IsWellFormed.not_isDivided, (isWellFormed_inside_or_isDivided h).resolve_right⟩

end

end StaticSite.Markup
