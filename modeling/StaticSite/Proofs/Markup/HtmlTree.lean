/-
StaticSite.Proofs.Markup.HtmlTree — HTML as elements and characters.

Lexemes nest if each closing tag belongs to the innermost open element, and
the tree that they make is the one that they are the lexemes of
(`nest?_eq_some_iff`). References are decoded before that, in the values of
attributes and, for a reader who sees the page, in the texts between tags.
How they are decoded is left open, but for what any decoder does
(`Decoder`).

Pages are put together from elements. What an element is read as follows
from what its body is read as, where a tag comes next
(`IsReadBeforeTag.element`), and texts in a row are read one after the other
(`IsReadAs.append`). Other relations go along with elements and rows in the
same way (`IsCompositional`).
-/
import StaticSite.Proofs.Markup.Lexeme

namespace StaticSite.Markup

open StaticSite.Text

/-! ## 1. Trees -/

/-- What stands in an element. -/
inductive Part where
  | char (c : Char)
  | comment (s : String)
  | lone (tag : String) (attributes : List ReadAttribute)
  | element (tag : String) (attributes : List ReadAttribute) (body : List Part)

mutual

/-- The lexemes of a part, from its first to its last. -/
def Part.lexemes : Part → List Lexeme
  | .char c => [.char c]
  | .comment s => [.comment s]
  | .lone tag attributes => [.lone tag attributes]
  | .element tag attributes body => .opening tag attributes :: (lexemesOf body ++ [.closing tag])

/-- The lexemes of some parts. -/
def lexemesOf : List Part → List Lexeme
  | [] => []
  | part :: rest => part.lexemes ++ lexemesOf rest

end

/-- The characters of a text as parts. -/
def textParts (s : String) : List Part :=
  s.toList.map .char

theorem lexemesOf_append (first second : List Part) :
    lexemesOf (first ++ second) = lexemesOf first ++ lexemesOf second := by
  induction first with
  | nil => rfl
  | cons part rest ih => rw [List.cons_append, lexemesOf, ih, lexemesOf, List.append_assoc]

theorem lexemesOf_textParts (s : String) : lexemesOf (textParts s) = chars s.toList := by
  rw [textParts, chars]
  induction s.toList with
  | nil => rfl
  | cons c rest ih =>
    rw [List.map_cons, lexemesOf, ih, Part.lexemes, List.singleton_append, List.map_cons]

/-- An element that is open, with the parts before it, reversed. -/
structure OpenPart where
  tag : String
  attributes : List ReadAttribute
  before : List Part

/-- The open elements, the innermost first, and the parts in the innermost one, reversed. -/
structure Nest where
  opened : List OpenPart
  done : List Part

namespace Nest

/-- One more lexeme. Only the innermost element can be closed. -/
def step (n : Nest) : Lexeme → Option Nest
  | .char c => some ⟨n.opened, .char c :: n.done⟩
  | .comment s => some ⟨n.opened, .comment s :: n.done⟩
  | .lone tag attributes => some ⟨n.opened, .lone tag attributes :: n.done⟩
  | .opening tag attributes => some ⟨⟨tag, attributes, n.done⟩ :: n.opened, []⟩
  | .closing tag =>
    match n.opened with
    | [] => none
    | innermost :: outer =>
      if innermost.tag = tag then
        some ⟨outer, .element tag innermost.attributes n.done.reverse :: innermost.before⟩
      else none

/-- Some lexemes. -/
def run (n : Nest) : List Lexeme → Option Nest
  | [] => some n
  | l :: ls =>
    match n.step l with
    | some next => next.run ls
    | none => none

end Nest

/-- The parts that lexemes make, if all elements are closed. -/
def nest? (ls : List Lexeme) : Option (List Part) :=
  match Nest.run ⟨[], []⟩ ls with
  | some ⟨[], done⟩ => some done.reverse
  | _ => none

namespace Nest

variable {n next : Nest} {l : Lexeme} {ls more : List Lexeme}

theorem run_append (n : Nest) (ls more : List Lexeme) :
    n.run (ls ++ more) = (n.run ls).bind fun next => next.run more := by
  induction ls generalizing n with
  | nil => rfl
  | cons l ls ih =>
    rw [List.cons_append, run, run]
    cases n.step l with
    | none => rfl
    | some next => exact ih next

theorem run_trans {last : Nest} (hls : n.run ls = some next) (hmore : next.run more = some last) :
    n.run (ls ++ more) = some last := by
  rw [run_append, hls]
  exact hmore

mutual

theorem run_lexemes (n : Nest) : (part : Part) →
    n.run part.lexemes = some ⟨n.opened, part :: n.done⟩
  | .char _ => rfl
  | .comment _ => rfl
  | .lone _ _ => rfl
  | .element tag attributes body => by
    have hbody := run_lexemesOf ⟨⟨tag, attributes, n.done⟩ :: n.opened, []⟩ body
    rw [Part.lexemes, run, step]
    refine run_trans hbody ?_
    simp [run, step]

/-- The lexemes of parts put these parts after the others. -/
theorem run_lexemesOf (n : Nest) : (parts : List Part) →
    n.run (lexemesOf parts) = some ⟨n.opened, parts.reverse ++ n.done⟩
  | [] => rfl
  | part :: rest => by
    rw [lexemesOf, List.reverse_cons, List.append_assoc]
    exact run_trans (run_lexemes n part) (run_lexemesOf ⟨n.opened, part :: n.done⟩ rest)

end

/-- The lexemes up to the tag that opens the innermost element. -/
def openLexemes : List OpenPart → List Lexeme
  | [] => []
  | innermost :: outer =>
    openLexemes outer ++ lexemesOf innermost.before.reverse ++
      [.opening innermost.tag innermost.attributes]

/-- All lexemes that have been passed. -/
def passed (n : Nest) : List Lexeme :=
  openLexemes n.opened ++ lexemesOf n.done.reverse

theorem passed_step (h : n.step l = some next) : next.passed = n.passed ++ [l] := by
  have hdone (part : Part) : openLexemes n.opened ++ lexemesOf (part :: n.done).reverse =
      n.passed ++ part.lexemes := by
    rw [List.reverse_cons, lexemesOf_append, lexemesOf, lexemesOf, List.append_nil, passed,
      List.append_assoc]
  cases l with
  | char c =>
    cases h
    exact hdone (.char c)
  | comment s =>
    cases h
    exact hdone (.comment s)
  | lone tag attributes =>
    cases h
    exact hdone (.lone tag attributes)
  | opening tag attributes =>
    cases h
    exact List.append_nil _
  | closing tag =>
    obtain ⟨opened, done⟩ := n
    cases opened with
    | nil => cases h
    | cons innermost outer =>
      simp only [step, Option.ite_none_right_eq_some, Option.some.injEq] at h
      obtain ⟨rfl, rfl⟩ := h
      simp only [passed, openLexemes, List.reverse_cons, lexemesOf_append, lexemesOf, Part.lexemes,
        List.append_nil, List.append_assoc, List.cons_append, List.nil_append]

theorem passed_run (h : n.run ls = some next) : next.passed = n.passed ++ ls := by
  induction ls generalizing n with
  | nil =>
    cases h
    exact (List.append_nil _).symm
  | cons l ls ih =>
    rw [run] at h
    cases hstep : n.step l with
    | none => simp [hstep] at h
    | some middle =>
      rw [hstep] at h
      rw [ih h, passed_step hstep, List.append_assoc, List.singleton_append]

end Nest

/-- The parts that lexemes make are the ones that they are the lexemes of. -/
theorem nest?_eq_some_iff {ls : List Lexeme} {parts : List Part} :
    nest? ls = some parts ↔ ls = lexemesOf parts := by
  constructor
  · intro h
    unfold nest? at h
    split at h
    · next done hrun =>
      cases h
      exact (Nest.passed_run hrun).symm
    · cases h
  · rintro rfl
    rw [nest?, Nest.run_lexemesOf]
    simp

/-! ## 2. References -/

/-- A way to decode references. What has no ampersand stays as it is, the escaping of elements is
taken back, and no reference stands for more characters than it has. -/
structure Decoder where
  decode : List Char → List Char
  plain : ∀ s, '&' ∉ s → decode s = s
  escaped : ∀ s, decode (s.flatMap escapeChar) = s
  length_le : ∀ s, (decode s).length ≤ s.length

theorem decodeReferences_of_not_mem {s : List Char} (h : '&' ∉ s) : decodeReferences s = s := by
  induction s with
  | nil => rfl
  | cons c s ih =>
    rw [List.mem_cons, not_or] at h
    rw [decodeReferences_cons (Ne.symm h.1), ih h.2]

theorem length_decodeReferences_le (s : List Char) : (decodeReferences s).length ≤ s.length := by
  fun_induction decodeReferences s with
  | case9 => exact Nat.le_refl 0
  | _ =>
    simp only [List.length_cons]
    omega

/-- The decoder of the references that elements and heads are written with. -/
def Decoder.standard : Decoder where
  decode := decodeReferences
  plain := fun _ => decodeReferences_of_not_mem
  escaped := isEscapeTable_escapeChar.decodeReferences_flatMap
  length_le := length_decodeReferences_le

theorem withValues_withValues (f g : List Char → List Char) (attributes : List ReadAttribute) :
    withValues f (withValues g attributes) = withValues (f ∘ g) attributes := by
  simp [withValues, Function.comp_def]

theorem withValues_id (attributes : List ReadAttribute) :
    withValues id attributes = attributes := by
  simp [withValues]

namespace Decoder

variable (d : Decoder)

theorem withValues_escaped (attributes : List ReadAttribute) :
    withValues d.decode (withValues (·.flatMap escapeChar) attributes) = attributes := by
  have hid : d.decode ∘ (fun s => s.flatMap escapeChar) = id := funext d.escaped
  rw [withValues_withValues, hid, withValues_id]

/-- The values of a tag are decoded to the ones that were escaped. -/
theorem mapValues_raw (l : Lexeme) : l.raw.mapValues d.decode = l := by
  cases l with
  | opening tag attributes => exact congrArg (Lexeme.opening tag) (d.withValues_escaped attributes)
  | lone tag attributes => exact congrArg (Lexeme.lone tag) (d.withValues_escaped attributes)
  | _ => rfl

/-- The lexemes with the references of their texts decoded, where some characters have just been
passed. A reference ends at the next tag. -/
def decodeTexts (read : List Char) : List Lexeme → List Lexeme
  | [] => chars (d.decode read)
  | .char c :: ls => decodeTexts (read ++ [c]) ls
  | l :: ls => chars (d.decode read) ++ l :: decodeTexts [] ls

end Decoder

/-! ## 3. Reading -/

/-- The parts of HTML. The references in the values of attributes are decoded, and texts are as they
are written. -/
def readHtml (d : Decoder) (html : String) : Option (List Part) :=
  (lexemes? html.toList).bind fun ls => nest? (ls.map (Lexeme.mapValues d.decode))

/-- The lexemes of HTML, all references decoded. -/
def shown? (d : Decoder) (html : List Char) : Option (List Lexeme) :=
  (lexemes? html).map fun ls => d.decodeTexts [] (ls.map (Lexeme.mapValues d.decode))

/-- The parts of HTML, all references decoded. -/
def readShown (d : Decoder) (html : String) : Option (List Part) :=
  (shown? d html.toList).bind nest?

theorem readShown_eq_some_iff {d : Decoder} {html : String} {parts : List Part} :
    readShown d html = some parts ↔ shown? d html.toList = some (lexemesOf parts) := by
  rw [readShown, Option.bind_eq_some_iff]
  simp only [nest?_eq_some_iff, exists_eq_right]

/-- What the text is read as, whatever comes after it. -/
def IsReadAs (d : Decoder) (html : String) (parts : List Part) : Prop :=
  ∃ ls, Lexer.inText.run html.toList = some (.inText, ls) ∧
    ls.map (Lexeme.mapValues d.decode) = lexemesOf parts

/-- What the text is read as if a tag comes after it. -/
def IsReadBeforeTag (d : Decoder) (html : String) (parts : List Part) : Prop :=
  ∃ ls, Lexer.inText.run (html.toList ++ ['<']) = some (.atSign, ls) ∧
    ls.map (Lexeme.mapValues d.decode) = lexemesOf parts

/-- Attributes of the names that elements have. -/
def arePlainNames (attributes : List (String × String)) : Bool :=
  attributes.all fun (name, _) => isPlainName (attributeName name)

theorem writtenAttributes_textAttributes (attributes : List (String × String)) :
    writtenAttributes (textAttributes attributes) = (renderTexts attributes).toList := by
  induction attributes with
  | nil => rfl
  | cons entry rest ih =>
    obtain ⟨name, value⟩ := entry
    have hcons : textAttributes ((name, value) :: rest) =
        (attributeName name, some value) :: textAttributes rest := rfl
    rw [hcons, writtenAttributes, ih, renderTexts, valuedAttribute]
    simp [String.toList_append, escape_toList]

theorem toList_element (tag : String) (attributes : List (String × String)) (body : String) :
    (element tag attributes body).toList =
      (Lexeme.opening tag (textAttributes attributes)).written ++
        (body.toList ++ (Lexeme.closing tag).written) := by
  rw [element, renderElement, Lexeme.written, Lexeme.written, openingTag, closingTag,
    writtenAttributes_textAttributes]
  simp [String.toList_append]

theorem toList_emptyElement (tag : String) (attributes : List (String × String)) :
    (emptyElement tag attributes).toList =
      (Lexeme.lone tag (textAttributes attributes)).written := by
  rw [emptyElement, renderElement, Lexeme.written, writtenAttributes_textAttributes]
  simp [String.toList_append]

theorem areWritable_textAttributes {attributes : List (String × String)}
    (h : arePlainNames attributes = true) : areWritable (textAttributes attributes) = true := by
  rw [arePlainNames, List.all_eq_true] at h
  rw [areWritable, List.all_eq_true]
  intro entry hentry
  obtain ⟨given, hgiven, rfl⟩ := List.mem_map.mp hentry
  rw [Bool.and_eq_true]
  exact ⟨h given hgiven, rfl⟩

theorem isWritable_opening {tag : String} {attributes : List (String × String)}
    (htag : isPlainName tag = true) (hpaired : unpairedNames.contains tag.toList = false)
    (hnames : arePlainNames attributes = true) :
    (Lexeme.opening tag (textAttributes attributes)).isWritable = true := by
  rw [Lexeme.isWritable, htag, hpaired, areWritable_textAttributes hnames]
  rfl

theorem isWritable_lone {tag : String} {attributes : List (String × String)}
    (htag : isPlainName tag = true) (halone : unpairedNames.contains tag.toList = true)
    (hnames : arePlainNames attributes = true) :
    (Lexeme.lone tag (textAttributes attributes)).isWritable = true := by
  rw [Lexeme.isWritable, htag, halone, areWritable_textAttributes hnames]
  rfl

section

variable {d : Decoder} {s t : String} {first second parts : List Part}

theorem IsReadBeforeTag.readHtml (h : IsReadBeforeTag d s parts) : readHtml d s = some parts := by
  obtain ⟨ls, hrun, hdecoded⟩ := h
  rw [Markup.readHtml, lexemes?, hrun]
  exact nest?_eq_some_iff.mpr hdecoded

/-- After the body of an element comes its closing tag. -/
theorem IsReadBeforeTag.element {tag : String} {attributes : List (String × String)}
    (hbody : IsReadBeforeTag d s parts) (htag : isPlainName tag = true)
    (hpaired : unpairedNames.contains tag.toList = false)
    (hnames : arePlainNames attributes = true) :
    IsReadAs d (element tag attributes s) [.element tag (textAttributes attributes) parts] := by
  obtain ⟨ls, hls, hparts⟩ := hbody
  have hopening : Lexer.inText.run (Lexeme.opening tag (textAttributes attributes)).written =
      some (.inText, [(Lexeme.opening tag (textAttributes attributes)).raw]) :=
    Lexer.run_written rfl (isWritable_opening htag hpaired hnames)
  have hclosing : Lexer.atSign.run (Lexeme.closing tag).written.tail =
      some (.inText, [(Lexeme.closing tag).raw]) := Lexer.run_written_tail rfl htag
  have hrest : s.toList ++ (Lexeme.closing tag).written =
      s.toList ++ ['<'] ++ (Lexeme.closing tag).written.tail := by
    rw [List.append_assoc, List.singleton_append, ← Lexeme.written_eq_cons rfl]
  rw [IsReadAs, toList_element, hrest]
  refine ⟨_, Lexer.run_trans hopening (Lexer.run_trans hls hclosing), ?_⟩
  rw [List.map_append, List.map_append, hparts, List.map_singleton, List.map_singleton,
    d.mapValues_raw, d.mapValues_raw, lexemesOf, lexemesOf, Part.lexemes, List.append_nil]
  rfl

namespace IsReadAs

theorem beforeTag (h : IsReadAs d s parts) : IsReadBeforeTag d s parts := by
  obtain ⟨ls, hrun, hdecoded⟩ := h
  have hsign : Lexer.inText.run ['<'] = some (.atSign, []) := rfl
  refine ⟨ls ++ [], Lexer.run_trans hrun hsign, ?_⟩
  rw [List.append_nil, hdecoded]

theorem empty : IsReadAs d "" [] :=
  ⟨[], rfl, rfl⟩

theorem append (hs : IsReadAs d s first) (ht : IsReadAs d t second) :
    IsReadAs d (s ++ t) (first ++ second) := by
  obtain ⟨ls, hls, hfirst⟩ := hs
  obtain ⟨more, hmore, hsecond⟩ := ht
  refine ⟨ls ++ more, ?_, ?_⟩
  · rw [String.toList_append]
    exact Lexer.run_trans hls hmore
  · rw [List.map_append, hfirst, hsecond, lexemesOf_append]

theorem text (h : '<' ∉ s.toList) : IsReadAs d s (textParts s) := by
  refine ⟨chars s.toList, Lexer.run_text h, ?_⟩
  rw [lexemesOf_textParts, chars, List.map_map]
  rfl

end IsReadAs

end

/-! ## 4. Pages put together from elements -/

/-- The relation between texts and parts goes along with putting texts together. -/
structure IsCompositional (P : String → List Part → Prop) : Prop where
  empty : P "" []
  append : ∀ {s t : String} {first second : List Part}, P s first → P t second →
    P (s ++ t) (first ++ second)
  text : ∀ {s : String}, '<' ∉ s.toList → P s (textParts s)
  element : ∀ {tag s : String} {attributes : List (String × String)} {parts : List Part},
    P s parts → isPlainName tag = true → unpairedNames.contains tag.toList = false →
    arePlainNames attributes = true →
    P (element tag attributes s) [.element tag (textAttributes attributes) parts]

theorem isCompositional_isReadAs (d : Decoder) : IsCompositional (IsReadAs d) :=
  ⟨.empty, .append, .text, fun hbody => hbody.beforeTag.element⟩

namespace IsCompositional

variable {P : String → List Part → Prop} {α : Type} {html : α → String} {parts : α → List Part}
  {items : List α}

theorem concat (hP : IsCompositional P) (h : ∀ a ∈ items, P (html a) (parts a)) :
    P (concat (items.map html)) (items.flatMap parts) := by
  induction items with
  | nil => exact hP.empty
  | cons a rest ih =>
    rw [List.forall_mem_cons] at h
    exact hP.append h.1 (ih h.2)

/-- Texts in a row, with a separator between neighbours. -/
theorem joinWith (hP : IsCompositional P) {separator : String} (hseparator : '<' ∉ separator.toList)
    (h : ∀ a ∈ items, P (html a) (parts a)) :
    P (joinWith separator (items.map html))
      (joinLists (textParts separator) (items.map parts)) := by
  induction items with
  | nil => exact hP.empty
  | cons a rest ih =>
    rw [List.forall_mem_cons] at h
    cases rest with
    | nil => exact h.1
    | cons next rest => exact hP.append (hP.append h.1 (hP.text hseparator)) (ih h.2)

end IsCompositional

end StaticSite.Markup
