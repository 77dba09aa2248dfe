/-
StaticSite.Proofs.Markup.Lexeme — HTML as tags and characters.

The scanner that checks how tags match says where each of them starts and
ends (`Spot.next`). The lexer goes along with it and lists what is passed:
tags with their attributes, comments, and the characters in between. Names
are in lower case; characters and values are listed as they are written,
with their references.

What the lexer lists for a text does not depend on what it has listed
before, so lexemes of texts in a row are put together (`Lexer.run_trans`).
A text is listed as its characters if no tag or comment starts in it
(`Lexer.run_plain`). If one does, fewer characters come first, and then
something else (`Lexer.run_markup`, `Lexer.run_inside`). Tags as elements
write them are listed as such (`Lexer.run_written`).
-/
import StaticSite.Proofs.Markup.Fragment
import StaticSite.Proofs.Markup.Nesting

namespace StaticSite.Markup

open StaticSite.Text

/-! ## 1. Lexemes -/

/-- What HTML consists of. -/
inductive Lexeme where
  | char (c : Char)
  /-- A comment or a declaration. -/
  | comment (s : String)
  | opening (tag : String) (attributes : List ReadAttribute)
  /-- The tag of an element that has no end tag. -/
  | lone (tag : String) (attributes : List ReadAttribute)
  | closing (tag : String)
  deriving DecidableEq, Repr

/-- All but the characters. -/
def Lexeme.isMarkup : Lexeme → Bool
  | .char _ => false
  | _ => true

/-- The characters of a text. -/
def chars (s : List Char) : List Lexeme :=
  s.map .char

theorem chars_append (s t : List Char) : chars (s ++ t) = chars s ++ chars t :=
  List.map_append

/-- No character comes first. -/
def IsAtMarkup : List Lexeme → Prop
  | .char _ :: _ => False
  | _ => True

theorem isAtMarkup_cons {l : Lexeme} (h : l.isMarkup = true) (ls : List Lexeme) :
    IsAtMarkup (l :: ls) := by
  cases l with
  | char c => cases h
  | _ => trivial

/-- A text ends where something else than a character comes. -/
theorem chars_append_inj {s t : List Char} {first second : List Lexeme} (hfirst : IsAtMarkup first)
    (hsecond : IsAtMarkup second) (h : chars s ++ first = chars t ++ second) :
    s = t ∧ first = second := by
  induction s generalizing t with
  | nil =>
    cases t with
    | nil => exact ⟨rfl, h⟩
    | cons c t =>
      have hchar : first = .char c :: (chars t ++ second) := h
      rw [hchar] at hfirst
      exact hfirst.elim
  | cons c s ih =>
    cases t with
    | nil =>
      have hchar : second = .char c :: (chars s ++ first) := h.symm
      rw [hchar] at hsecond
      exact hsecond.elim
    | cons d t =>
      have hcons : Lexeme.char c :: (chars s ++ first) = .char d :: (chars t ++ second) := h
      rw [List.cons.injEq, Lexeme.char.injEq] at hcons
      obtain ⟨rfl, hrest⟩ := hcons
      obtain ⟨rfl, hends⟩ := ih hrest
      exact ⟨rfl, hends⟩

/-- The name of the tag that the scanner is in. -/
def Spot.name? : Spot → Option (List Char)
  | .tagName _ read => some read.reverse
  | .inTag _ name | .equals _ name | .bareValue _ name | .quotedValue _ name _ => some name
  | _ => none

/-- The attributes of a tag that is being read, with the name and the value of the last one. All is
reversed. -/
structure TagSoFar where
  attributes : List ReadAttribute := []
  name : List Char := []
  value : List Char := []
  deriving DecidableEq

namespace TagSoFar

/-- After the name of an attribute, if there is one. -/
def endName (t : TagSoFar) : TagSoFar :=
  if t.name.isEmpty then t else { attributes := (readText t.name, none) :: t.attributes }

/-- After the value of an attribute. -/
def endValue (t : TagSoFar) : TagSoFar :=
  { attributes := (readText t.name, some (readText t.value)) :: t.attributes }

/-- Blanks can stand between a name and the sign that gives it a value. -/
def reopen (t : TagSoFar) : TagSoFar :=
  match t.name, t.attributes with
  | [], (name, none) :: rest => { attributes := rest, name := name.toList.reverse }
  | _, _ => t

/-- The tag with one more character, by the place of the scanner before it. -/
def next (c : Char) (t : TagSoFar) : Spot → TagSoFar
  | .inTag _ _ =>
    if c == '=' then t.reopen
    else if isBlank c || c == '/' || c == '>' then t.endName
    else { t with name := c.toLower :: t.name }
  | .equals _ _ =>
    if c == '>' then t.endValue
    else if isBlank c || c == '"' || c == '\'' then t
    else { t with value := [c] }
  | .bareValue _ _ =>
    if isBlank c || c == '>' then t.endValue else { t with value := c :: t.value }
  | .quotedValue _ _ double =>
    if c == (if double then '"' else '\'') then t.endValue else { t with value := c :: t.value }
  | _ => t

end TagSoFar

/-! ## 2. The lexer -/

/-- The place of the scanner, with what it has read of a tag or, reversed, of a comment. -/
structure Lexer where
  spot : Spot
  tag : TagSoFar := {}
  comment : List Char := []
  deriving DecidableEq

namespace Lexer

/-- In a text. -/
def inText : Lexer := ⟨.text, {}, []⟩

/-- After the sign that may start a tag. -/
def atSign : Lexer := ⟨.sign, {}, []⟩

/-- What has ended when a character leads back to a text. -/
def ended (r : Lexer) (c : Char) : List Lexeme :=
  match r.spot with
  | .text => [.char c]
  | .sign => [.char '<', .char c]
  | spot =>
    match spot.name? with
    | some name => [.lone (String.ofList name) (r.tag.next c spot).attributes.reverse]
    | none => [.comment (readText r.comment)]

/-- One character, and what it ends. A sign after a sign shows that the first one started no
tag. -/
def step (r : Lexer) (c : Char) : Option (Lexer × List Lexeme) :=
  match r.spot.next c with
  | .goTo .text => some (inText, r.ended c)
  | .goTo .sign => some (atSign, if r.spot = .sign then [.char '<'] else [])
  | .goTo spot =>
    let comment := if spot.name?.isSome then [] else c :: r.comment
    some (⟨spot, r.tag.next c r.spot, comment⟩, [])
  | .opens name =>
    some (inText, [.opening (String.ofList name) (r.tag.next c r.spot).attributes.reverse])
  | .closes name => some (inText, [.closing (String.ofList name)])
  | .fails => none

/-- Some characters, and what they end. -/
def run (r : Lexer) : List Char → Option (Lexer × List Lexeme)
  | [] => some (r, [])
  | c :: s =>
    match r.step c with
    | none => none
    | some (middle, first) =>
      match middle.run s with
      | none => none
      | some (after, rest) => some (after, first ++ rest)

end Lexer

/-- The lexemes of HTML, read as if another tag came after it: it must not end inside a tag. -/
def lexemes? (html : List Char) : Option (List Lexeme) :=
  match Lexer.inText.run (html ++ ['<']) with
  | some (after, lexemes) => if after.spot = .sign then some lexemes else none
  | none => none

/-- Names in any case, values with and without quotes, an end tag with a blank, and signs that start
no tag. -/
example : lexemes? "a < b<BR clear = all>&lt;<P TITLE='>' hidden>c</p >".toList =
    some (chars "a < b".toList ++ .lone "br" [("clear", some "all")] :: chars "&lt;".toList ++
      [.opening "p" [("title", some ">"), ("hidden", none)], .char 'c', .closing "p"]) := by
  decide +kernel

/-! ## 3. Texts in a row -/

namespace Lexer

variable {r middle after : Lexer} {first rest lexemes : List Lexeme} {c : Char} {s t : List Char}

theorem run_cons (hstep : r.step c = some (middle, first))
    (hrun : middle.run s = some (after, rest)) :
    r.run (c :: s) = some (after, first ++ rest) := by
  rw [run, hstep]
  dsimp only
  rw [hrun]

theorem run_cons_eq_some (h : r.run (c :: s) = some (after, lexemes)) :
    ∃ middle first rest, r.step c = some (middle, first) ∧ middle.run s = some (after, rest) ∧
      lexemes = first ++ rest := by
  rw [run] at h
  cases hstep : r.step c with
  | none => simp [hstep] at h
  | some entry =>
    obtain ⟨middle, first⟩ := entry
    rw [hstep] at h
    dsimp only at h
    cases hrun : middle.run s with
    | none => simp [hrun] at h
    | some entry =>
      obtain ⟨last, rest⟩ := entry
      simp only [hrun, Option.some.injEq, Prod.mk.injEq] at h
      obtain ⟨rfl, rfl⟩ := h
      exact ⟨middle, first, rest, rfl, hrun, rfl⟩

theorem run_append (h : r.run s = some (middle, first)) :
    r.run (s ++ t) = (middle.run t).map fun (after, rest) => (after, first ++ rest) := by
  induction s generalizing r first with
  | nil =>
    cases h
    rw [List.nil_append]
    cases middle.run t <;> rfl
  | cons c s ih =>
    obtain ⟨next, now, later, hstep, hrun, rfl⟩ := run_cons_eq_some h
    rw [List.cons_append, run, hstep]
    dsimp only
    rw [ih hrun]
    cases middle.run t with
    | none => rfl
    | some found => simp

theorem run_trans (hs : r.run s = some (middle, first)) (ht : middle.run t = some (after, rest)) :
    r.run (s ++ t) = some (after, first ++ rest) := by
  rw [run_append hs, ht]
  rfl

end Lexer

/-! ## 4. Texts -/

/-- Does a character start a tag or a comment after the sign for it? -/
def startsTag (c : Char) : Bool :=
  c.isAlpha || c == '/' || c == '!' || c == '?'

/-- Does a tag or a comment start in a text, perhaps with the sign before it? -/
def startsMarkup (afterSign : Bool) : List Char → Bool
  | [] => false
  | c :: s => afterSign && startsTag c || startsMarkup (c == '<') s

theorem startsMarkup_of_not_mem {s : List Char} (h : '<' ∉ s) : startsMarkup false s = false := by
  induction s with
  | nil => rfl
  | cons c s ih =>
    rw [List.mem_cons, not_or] at h
    have hc : (c == '<') = false := beq_eq_false_iff_ne.mpr (Ne.symm h.1)
    rw [startsMarkup, hc, ih h.2, Bool.false_and, Bool.or_false]

namespace Lexer

variable {r after : Lexer} {lexemes : List Lexeme} {c : Char} {s : List Char}

theorem step_text (hc : c ≠ '<') : inText.step c = some (inText, [.char c]) := by
  simp [step, inText, Spot.next, ended, hc]

theorem step_sign (hstarts : startsTag c = false) (hc : c ≠ '<') :
    atSign.step c = some (inText, [.char '<', .char c]) := by
  simp only [startsTag, Bool.or_eq_false_iff] at hstarts
  obtain ⟨⟨⟨halpha, hslash⟩, hbang⟩, hquestion⟩ := hstarts
  have hnext : Spot.sign.next c = .goTo .text := by
    simp [Spot.next, halpha, hslash, hbang, hquestion, hc]
  simp only [step, atSign, hnext]
  rfl

/-- Where a tag or a comment starts, the lexer is neither in a text nor after a sign. -/
theorem step_startsTag (h : startsTag c = true) :
    ∃ r : Lexer, atSign.step c = some (r, []) ∧ ¬ r.spot.IsBetween := by
  have hnext : ∃ spot, Spot.sign.next c = .goTo spot ∧ ¬ spot.IsBetween := by
    simp only [startsTag, Bool.or_eq_true, beq_iff_eq] at h
    by_cases halpha : c.isAlpha = true
    · exact ⟨.tagName false [c.toLower], by simp [Spot.next, halpha], by rintro (h | h) <;> cases h⟩
    · rcases h with ((h | rfl) | rfl) | rfl
      · exact absurd h halpha
      · exact ⟨.slash, rfl, by rintro (h | h) <;> cases h⟩
      · exact ⟨.bang, rfl, by rintro (h | h) <;> cases h⟩
      · exact ⟨.declaration, rfl, by rintro (h | h) <;> cases h⟩
  obtain ⟨spot, hnext, hspot⟩ := hnext
  have htext : spot ≠ .text := fun h => hspot (.inl h)
  have hsign : spot ≠ .sign := fun h => hspot (.inr h)
  refine ⟨⟨spot, {}, if spot.name?.isSome then [] else [c]⟩, ?_, hspot⟩
  simp only [step, atSign, hnext]
  rfl

/-- The lexer between tags, perhaps after a sign. -/
def between (afterSign : Bool) : Lexer :=
  if afterSign then atSign else inText

/-- The sign that is still to be listed if no tag starts with it. -/
def pending (afterSign : Bool) : List Char :=
  if afterSign then ['<'] else []

/-- A character that starts no tag or comment is listed, or else the sign before it is if it is
that sign again. -/
theorem step_between {afterSign : Bool} (h : (afterSign && startsTag c) = false) :
    ∃ listed : List Char, (between afterSign).step c = some (between (c == '<'), chars listed) ∧
      listed ++ pending (c == '<') = pending afterSign ++ [c] := by
  by_cases hc : c = '<'
  · subst hc
    cases afterSign with
    | false => exact ⟨[], rfl, rfl⟩
    | true => exact ⟨['<'], rfl, rfl⟩
  · have hsign : (c == '<') = false := beq_eq_false_iff_ne.mpr hc
    rw [hsign]
    cases afterSign with
    | false => exact ⟨[c], step_text hc, rfl⟩
    | true => exact ⟨['<', c], step_sign h hc, rfl⟩

/-- A text in which no tag or comment starts is listed as it stands, up to the sign after it. -/
theorem run_plain {afterSign : Bool} (h : startsMarkup afterSign s = false) :
    (between afterSign).run (s ++ ['<']) = some (atSign, chars (pending afterSign ++ s)) := by
  induction s generalizing afterSign with
  | nil => cases afterSign <;> rfl
  | cons c s ih =>
    rw [startsMarkup, Bool.or_eq_false_iff] at h
    obtain ⟨listed, hstep, hlisted⟩ := step_between h.1
    have hall : pending afterSign ++ c :: s = listed ++ (pending (c == '<') ++ s) := by
      rw [← List.append_assoc, hlisted, List.append_assoc]
      rfl
    rw [hall, chars_append]
    exact run_cons hstep (ih h.2)

/-- Where a tag or a comment starts, fewer characters have been listed than the text has. -/
theorem run_markup {afterSign : Bool} (h : startsMarkup afterSign s = true) :
    ∃ front rest r shown, s = front ++ rest ∧
      (between afterSign).run front = some (r, chars shown) ∧ ¬ r.spot.IsBetween ∧
        shown.length < (pending afterSign ++ s).length := by
  induction s generalizing afterSign with
  | nil => cases h
  | cons c s ih =>
    cases hstarts : afterSign && startsTag c with
    | true =>
      obtain ⟨rfl, hstarts⟩ := Bool.and_eq_true_iff.mp hstarts
      obtain ⟨r, hstep, hspot⟩ := step_startsTag hstarts
      exact ⟨[c], s, r, [], rfl, run_cons hstep rfl, hspot, by simp [pending]⟩
    | false =>
      rw [startsMarkup, hstarts, Bool.false_or] at h
      obtain ⟨front, rest, r, shown, rfl, hrun, hspot, hlength⟩ := ih h
      obtain ⟨listed, hstep, hlisted⟩ := step_between hstarts
      refine ⟨c :: front, rest, r, listed ++ shown, rfl, ?_, hspot, ?_⟩
      · rw [chars_append]
        exact run_cons hstep hrun
      · have hcount := congrArg List.length hlisted
        simp only [List.length_append, List.length_cons, List.length_nil] at hcount hlength ⊢
        omega

/-- A text without the sign for tags. -/
theorem run_text (h : '<' ∉ s) : inText.run s = some (inText, chars s) := by
  induction s with
  | nil => rfl
  | cons c s ih =>
    rw [List.mem_cons, not_or] at h
    exact run_cons (step_text (Ne.symm h.1)) (ih h.2)

/-- Only the end of a tag or a comment leads out of it. -/
theorem next_ne_sign {spot : Spot} (h : ¬ spot.IsBetween) (c : Char) :
    spot.next c ≠ .goTo .sign := by
  cases spot with
  | text => exact absurd (.inl rfl) h
  | sign => exact absurd (.inr rfl) h
  | _ =>
    simp only [Spot.next, endTag]
    grind

/-- Inside a tag or a comment, it is the first to be listed. -/
theorem run_inside (hr : ¬ r.spot.IsBetween) (h : r.run s = some (after, lexemes)) :
    IsAtMarkup lexemes := by
  induction s generalizing r lexemes with
  | nil =>
    cases h
    trivial
  | cons c s ih =>
    obtain ⟨middle, first, rest, hstep, hrun, rfl⟩ := run_cons_eq_some h
    have hsign := next_ne_sign hr c
    unfold step at hstep
    split at hstep
    · -- the end of a comment, or of a tag that stands alone
      cases hstep
      have htext : r.spot ≠ .text := fun h => hr (.inl h)
      have hsign : r.spot ≠ .sign := fun h => hr (.inr h)
      unfold ended
      split
      · contradiction
      · contradiction
      · split <;> trivial
    · next hnext => exact absurd hnext hsign
    · next spot htext hsign hnext =>
      cases hstep
      have hspot : ¬ spot.IsBetween := by
        rintro (rfl | rfl)
        · exact htext rfl
        · exact hsign rfl
      exact ih hspot hrun
    · cases hstep
      trivial
    · cases hstep
      trivial
    · cases hstep

end Lexer

/-! ## 5. Tags as elements write them -/

/-- The characters that stand for themselves in the name of a tag or an attribute. -/
def isNamePart (c : Char) : Bool :=
  c.toLower == c && !isBlank c && !(['<', '>', '/', '='].contains c)

/-- A name with a letter at its start, and no capital. -/
def isPlainName (name : String) : Bool :=
  match name.toList with
  | [] => false
  | c :: rest => c.isAlpha && (c :: rest).all isNamePart

/-- Attributes with other values. -/
def withValues (f : List Char → List Char) (attributes : List ReadAttribute) : List ReadAttribute :=
  attributes.map fun (name, value) => (name, value.map fun s => String.ofList (f s.toList))

/-- Can elements write the attributes? -/
def areWritable (attributes : List ReadAttribute) : Bool :=
  attributes.all fun (name, value) => isPlainName name && value.isSome

/-- Attributes as elements write them. -/
def writtenAttributes : List ReadAttribute → List Char
  | [] => []
  | (name, none) :: rest => ' ' :: (name.toList ++ writtenAttributes rest)
  | (name, some value) :: rest =>
    ' ' :: (name.toList ++ '=' :: '"' :: (value.toList.flatMap escapeChar ++
      '"' :: writtenAttributes rest))

namespace Lexeme

/-- Characters as they stand, and tags as elements write them. -/
def written : Lexeme → List Char
  | .char c => [c]
  | .comment s => "<!--".toList ++ s.toList ++ "-->".toList
  | .opening tag attributes => openingTag tag (writtenAttributes attributes)
  | .lone tag attributes => '<' :: (tag.toList ++ writtenAttributes attributes ++ [' ', '/', '>'])
  | .closing tag => closingTag tag

/-- Are the names plain, with a value for each attribute? Only elements without an end tag stand
alone. -/
def isWritable : Lexeme → Bool
  | .char _ => true
  | .comment _ => false
  | .opening tag attributes =>
    isPlainName tag && !unpairedNames.contains tag.toList && areWritable attributes
  | .lone tag attributes =>
    isPlainName tag && unpairedNames.contains tag.toList && areWritable attributes
  | .closing tag => isPlainName tag

/-- The lexeme with other values of its attributes. -/
def mapValues (f : List Char → List Char) : Lexeme → Lexeme
  | .opening tag attributes => .opening tag (withValues f attributes)
  | .lone tag attributes => .lone tag (withValues f attributes)
  | other => other

/-- The lexeme with its values as they are written. -/
def raw (l : Lexeme) : Lexeme :=
  l.mapValues fun s => s.flatMap escapeChar

end Lexeme

theorem isPlainName_cons {name : String} (h : isPlainName name = true) :
    ∃ c rest, name.toList = c :: rest ∧ c.isAlpha = true ∧
      ∀ d ∈ c :: rest, isNamePart d = true := by
  unfold isPlainName at h
  split at h
  · cases h
  · next c rest hname =>
    rw [Bool.and_eq_true, List.all_eq_true] at h
    exact ⟨c, rest, hname, h.1, h.2⟩

/-- What the characters of names are not. -/
theorem ne_of_isNamePart {c : Char} (h : isNamePart c = true) :
    c.toLower = c ∧ isBlank c = false ∧ c ≠ '<' ∧ c ≠ '>' ∧ c ≠ '/' ∧ c ≠ '=' := by
  simpa only [isNamePart, Bool.and_eq_true, beq_iff_eq, Bool.not_eq_true', List.contains_cons,
    List.contains_nil, Bool.or_false, Bool.or_eq_false_iff, beq_eq_false_iff_ne, and_assoc] using h

namespace Lexer

variable {r : Lexer} {name : List Char} {attributes : List ReadAttribute}

/-- Characters that are only collected. -/
theorem run_collect (place : List Char → Lexer) (collects : Char → Bool)
    (hstep : ∀ read c, collects c = true → (place read).step c = some (place (c :: read), []))
    {s : List Char} (hs : ∀ c ∈ s, collects c = true) (read : List Char) :
    (place read).run s = some (place (s.reverse ++ read), []) := by
  induction s generalizing read with
  | nil => rfl
  | cons c s ih =>
    rw [List.forall_mem_cons] at hs
    rw [List.reverse_cons, List.append_assoc]
    exact run_cons (hstep read c hs.1) (ih hs.2 (c :: read))

/-- The places where a tag may end or go on with an attribute, with the attributes before them,
reversed. -/
inductive MayEnd (name : List Char) : List ReadAttribute → Lexer → Prop where
  | tagName : MayEnd name [] ⟨.tagName false name.reverse, {}, []⟩
  | inTag (attributes : List ReadAttribute) :
    MayEnd name attributes ⟨.inTag false name, ⟨attributes, [], []⟩, []⟩

namespace MayEnd

theorem step_blank (h : MayEnd name attributes r) :
    r.step ' ' = some (⟨.inTag false name, ⟨attributes, [], []⟩, []⟩, []) := by
  have hblank : isBlank ' ' = true := by decide
  cases h with
  | tagName => simp [step, Spot.next, Spot.name?, TagSoFar.next, hblank]
  | inTag => simp [step, Spot.next, Spot.name?, TagSoFar.next, TagSoFar.endName, hblank]

theorem next_end (h : MayEnd name attributes r) :
    r.spot.next '>' = endTag false name ∧ r.spot.name? = some name ∧
      (r.tag.next '>' r.spot).attributes = attributes := by
  cases h with
  | tagName => exact ⟨by simp [Spot.next], by simp [Spot.name?], rfl⟩
  | inTag => exact ⟨rfl, rfl, rfl⟩

theorem step_end_opening (h : MayEnd name attributes r)
    (hname : unpairedNames.contains name = false) :
    r.step '>' = some (inText, [.opening (String.ofList name) attributes.reverse]) := by
  obtain ⟨hnext, -, hattributes⟩ := h.next_end
  rw [endTag, hname] at hnext
  simp only [step, hnext, hattributes, Bool.false_eq_true, if_false]

theorem step_end_lone (h : MayEnd name attributes r) (hname : unpairedNames.contains name = true) :
    r.step '>' = some (inText, [.lone (String.ofList name) attributes.reverse]) := by
  obtain ⟨hnext, hspot, hattributes⟩ := h.next_end
  have htext : r.spot ≠ .text := fun h => by simp [h, Spot.name?] at hspot
  have hsign : r.spot ≠ .sign := fun h => by simp [h, Spot.name?] at hspot
  rw [endTag, hname] at hnext
  simp only [step, hnext, Bool.false_eq_true, if_false, if_true, ended, hspot, hattributes]

/-- An attribute as elements write it. -/
theorem run_valued (h : MayEnd name attributes r) {key : String} (hkey : isPlainName key = true)
    {value : List Char} (hvalue : '"' ∉ value) :
    r.run (' ' :: (key.toList ++ '=' :: '"' :: (value ++ ['"']))) =
      some (⟨.inTag false name, ⟨(key, some (String.ofList value)) :: attributes, [], []⟩, []⟩,
        []) := by
  obtain ⟨first, others, hchars, -, hall⟩ := isPlainName_cons hkey
  have hname := run_collect (fun read => ⟨.inTag false name, ⟨attributes, read, []⟩, []⟩) isNamePart
    (fun read c hc => by
      obtain ⟨hlower, hblank, hless, hgreater, hslash, hequals⟩ := ne_of_isNamePart hc
      simp [step, Spot.next, Spot.name?, TagSoFar.next, hlower, hblank, hless, hgreater, hslash,
        hequals])
    (hchars ▸ hall) []
  have hvalued := run_collect
    (fun read => ⟨.quotedValue false name true, ⟨attributes, key.toList.reverse, read⟩, []⟩)
    (· != '"')
    (fun read c hc => by
      have hne : c ≠ '"' := by simpa using hc
      simp [step, Spot.next, Spot.name?, TagSoFar.next, hne])
    (fun c hc => by
      rw [bne_iff_ne]
      rintro rfl
      exact hvalue hc)
    []
  have hequals : (Lexer.mk (.inTag false name) ⟨attributes, key.toList.reverse, []⟩ []).step '=' =
      some (⟨.equals false name, ⟨attributes, key.toList.reverse, []⟩, []⟩, []) := by
    have hreopen : (TagSoFar.mk attributes key.toList.reverse []).reopen =
        ⟨attributes, key.toList.reverse, []⟩ := by
      unfold TagSoFar.reopen
      split
      · next hkey _ => simp [hchars] at hkey
      · rfl
    exact congrArg (fun tag => some (Lexer.mk (.equals false name) tag [], [])) hreopen
  have hopen : (Lexer.mk (.equals false name) ⟨attributes, key.toList.reverse, []⟩ []).step '"' =
      some (⟨.quotedValue false name true, ⟨attributes, key.toList.reverse, []⟩, []⟩, []) := rfl
  have hclose : (Lexer.mk (.quotedValue false name true)
      ⟨attributes, key.toList.reverse, value.reverse ++ []⟩ []).step '"' =
        some (⟨.inTag false name, ⟨(key, some (String.ofList value)) :: attributes, [], []⟩, []⟩,
          []) := by
    simp [step, Spot.next, Spot.name?, TagSoFar.next, TagSoFar.endValue, readText]
  rw [List.append_nil] at hname
  exact run_cons h.step_blank
    (run_trans hname (run_cons hequals (run_cons hopen (run_trans hvalued (run_cons hclose rfl)))))

/-- Attributes as elements write them lead from one such place to another. -/
theorem run_attributes (h : MayEnd name attributes r) {more : List ReadAttribute}
    (hmore : areWritable more = true) :
    ∃ after, MayEnd name ((withValues (·.flatMap escapeChar) more).reverse ++ attributes) after ∧
      r.run (writtenAttributes more) = some (after, []) := by
  induction more generalizing r attributes with
  | nil => exact ⟨r, h, rfl⟩
  | cons entry more ih =>
    obtain ⟨key, value⟩ := entry
    rw [areWritable, List.all_cons, Bool.and_eq_true, Bool.and_eq_true] at hmore
    obtain ⟨⟨hkey, hvalue⟩, hmore⟩ := hmore
    obtain ⟨value, rfl⟩ := Option.isSome_iff_exists.mp hvalue
    have hquote : '"' ∉ value.toList.flatMap escapeChar := fun hmem =>
      (isEscapeTable_escapeChar.plain_flatMap hmem).2 rfl
    obtain ⟨after, hafter, hrun⟩ := ih (.inTag _) hmore
    refine ⟨after, ?_, ?_⟩
    · simpa [withValues] using hafter
    · have hwritten : writtenAttributes ((key, some value) :: more) =
          ' ' :: (key.toList ++ '=' :: '"' :: (value.toList.flatMap escapeChar ++ ['"'])) ++
            writtenAttributes more := by
        simp [writtenAttributes]
      rw [hwritten]
      exact run_trans (h.run_valued hkey hquote) hrun

end MayEnd

/-- The name of a tag, where it may start. -/
theorem run_name {closing : Bool} {tag : String} (htag : isPlainName tag = true)
    (hstart : ∀ c : Char, c.isAlpha = true →
      r.step c = some (⟨.tagName closing [c.toLower], {}, []⟩, [])) :
    r.run tag.toList = some (⟨.tagName closing tag.toList.reverse, {}, []⟩, []) := by
  obtain ⟨c, rest, hchars, halpha, hall⟩ := isPlainName_cons htag
  rw [List.forall_mem_cons] at hall
  have hfirst := hstart c halpha
  rw [(ne_of_isNamePart hall.1).1] at hfirst
  have hrest := run_collect (fun read => ⟨.tagName closing read, {}, []⟩) isNamePart
    (fun read c hc => by
      obtain ⟨hlower, hblank, hless, hgreater, hslash, -⟩ := ne_of_isNamePart hc
      simp [step, Spot.next, Spot.name?, TagSoFar.next, hlower, hblank, hless, hgreater, hslash])
    hall.2 [c]
  rw [hchars, List.reverse_cons]
  exact run_cons hfirst hrest

/-- A tag up to where it may end. -/
theorem run_upToEnd {tag : String} (htag : isPlainName tag = true)
    (hattributes : areWritable attributes = true) :
    ∃ after, MayEnd tag.toList (withValues (·.flatMap escapeChar) attributes).reverse after ∧
      atSign.run (tag.toList ++ writtenAttributes attributes) = some (after, []) := by
  have hname : atSign.run tag.toList = some (⟨.tagName false tag.toList.reverse, {}, []⟩, []) :=
    run_name htag fun c hc => by simp [step, atSign, Spot.next, Spot.name?, TagSoFar.next, hc]
  obtain ⟨after, hafter, hrun⟩ := MayEnd.run_attributes .tagName hattributes
  rw [List.append_nil] at hafter
  exact ⟨after, hafter, run_trans hname hrun⟩

end Lexer

/-- The tags that elements write start with the sign for tags. -/
theorem Lexeme.written_eq_cons {l : Lexeme} (h : l.isMarkup = true) :
    l.written = '<' :: l.written.tail := by
  cases l with
  | char c => cases h
  | _ => rfl

namespace Lexer

/-- A tag as elements write it, after its first sign. -/
theorem run_written_tail {l : Lexeme} (hmarkup : l.isMarkup = true) (h : l.isWritable = true) :
    atSign.run l.written.tail = some (inText, [l.raw]) := by
  cases l with
  | char c => cases hmarkup
  | comment s => cases h
  | opening tag attributes =>
    simp only [Lexeme.isWritable, Bool.and_eq_true, Bool.not_eq_true'] at h
    obtain ⟨⟨htag, hpaired⟩, hattributes⟩ := h
    obtain ⟨after, hafter, hrun⟩ := run_upToEnd htag hattributes
    have hend := hafter.step_end_opening hpaired
    rw [List.reverse_reverse, String.ofList_toList] at hend
    exact run_trans hrun (run_cons hend rfl)
  | lone tag attributes =>
    simp only [Lexeme.isWritable, Bool.and_eq_true] at h
    obtain ⟨⟨htag, halone⟩, hattributes⟩ := h
    obtain ⟨after, hafter, hrun⟩ := run_upToEnd htag hattributes
    have hslash : (Lexer.mk (.inTag false tag.toList)
        ⟨(withValues (·.flatMap escapeChar) attributes).reverse, [], []⟩ []).step '/' =
          some (⟨.inTag false tag.toList,
            ⟨(withValues (·.flatMap escapeChar) attributes).reverse, [], []⟩, []⟩, []) := rfl
    have hplace : MayEnd tag.toList (withValues (·.flatMap escapeChar) attributes).reverse _ :=
      .inTag _
    have hend := hplace.step_end_lone halone
    rw [List.reverse_reverse, String.ofList_toList] at hend
    exact run_trans hrun (run_cons hafter.step_blank (run_cons hslash (run_cons hend rfl)))
  | closing tag =>
    have hslash : atSign.step '/' = some (⟨.slash, {}, ['/']⟩, []) := rfl
    have hname : (Lexer.mk .slash {} ['/']).run tag.toList =
        some (⟨.tagName true tag.toList.reverse, {}, []⟩, []) :=
      run_name h fun c hc => by simp [step, Spot.next, Spot.name?, TagSoFar.next, hc]
    have hend : (Lexer.mk (.tagName true tag.toList.reverse) {} []).step '>' =
        some (inText, [.closing tag]) := by
      simp [step, Spot.next, endTag]
    exact run_cons hslash (run_trans hname (run_cons hend rfl))

/-- A tag as elements write it. -/
theorem run_written {l : Lexeme} (hmarkup : l.isMarkup = true) (h : l.isWritable = true) :
    inText.run l.written = some (inText, [l.raw]) := by
  have hsign : inText.step '<' = some (atSign, []) := rfl
  rw [Lexeme.written_eq_cons hmarkup]
  exact run_cons hsign (run_written_tail hmarkup h)

end Lexer

end StaticSite.Markup
