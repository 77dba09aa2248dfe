/-
StaticSite.Proofs.Markup.TagSequence — tags in a row.

A head has tags that are never closed, so it is no tree, but its tags can
be listed. `readTokens` goes over markup with the reader of tags and lists
all that the reader has passed (`passed`), whether or not the element is
still open. In turn `printTokens` writes a list with the references of the
head template.

What is written is read back (`readTokens_print`) if the names are names,
texts are kept apart by tags, and each closing tag belongs to the innermost
open element (`areInOrder`). The texts and the values are arbitrary.
-/
import StaticSite.Proofs.Markup.ReadTag
import StaticSite.Text.Lines

namespace StaticSite.Markup

open StaticSite.Text

/-! ## 1. Reading -/

/-- A tag, or a text between tags. -/
inductive Token where
  | text (s : String)
  | opening (tag : String) (attributes : List ReadAttribute)
  | selfClosing (tag : String) (attributes : List ReadAttribute)
  | closing (tag : String)
  deriving DecidableEq, Repr

mutual

/-- The tags of a piece, from its first to its last. The references of its texts are decoded. -/
def Piece.tokens : Piece → List Token
  | .text s => [.text (decodeText s)]
  | .empty tag attributes => [.selfClosing tag attributes]
  | .paired tag attributes body => .opening tag attributes :: (tokensOf body ++ [.closing tag])

/-- The tags of some pieces. -/
def tokensOf : List Piece → List Token
  | [] => []
  | piece :: rest => piece.tokens ++ tokensOf rest

end

/-- The tags up to the one that opens the innermost element. -/
def openTokens : List OpenElement → List Token
  | [] => []
  | element :: outer =>
    openTokens outer ++ tokensOf element.before.reverse ++ [.opening element.tag element.attributes]

/-- All that has been passed in a text, with what has been read of it. -/
def passed (opened : List OpenElement) (done : List Piece) (read : List Char) : List Token :=
  openTokens opened ++ tokensOf (endText done read).reverse

/-- All that the reader has passed, if it is in a text. -/
def Reader.tokens? (r : Reader) : Option (List Token) :=
  match r.place with
  | .text read => some (passed r.opened r.done read)
  | _ => none

/-- The tags of markup, and the texts between them. -/
def readTokens (html : String) : Option (List Token) :=
  (Reader.run ⟨[], [], .text []⟩ html.toList).bind Reader.tokens?

/-! ## 2. Writing -/

/-- Attributes as the head template writes them. -/
def printAttributes : List ReadAttribute → String
  | [] => ""
  | (name, none) :: rest => " " ++ name ++ printAttributes rest
  | (name, some value) :: rest =>
    " " ++ name ++ "=\"" ++ escapeHead value ++ "\"" ++ printAttributes rest

/-- A tag or a text as the head template writes it. -/
def Token.print : Token → String
  | .text s => escapeHead s
  | .opening tag attributes => "<" ++ tag ++ printAttributes attributes ++ ">"
  | .selfClosing tag attributes => "<" ++ tag ++ printAttributes attributes ++ " />"
  | .closing tag => "</" ++ tag ++ ">"

/-- Tags and texts in a row. -/
def printTokens (tokens : List Token) : String :=
  concat (tokens.map Token.print)

theorem printTokens_cons (token : Token) (rest : List Token) :
    printTokens (token :: rest) = token.print ++ printTokens rest := rfl

theorem printTokens_append (first second : List Token) :
    printTokens (first ++ second) = printTokens first ++ printTokens second := by
  induction first with
  | nil => exact String.empty_append.symm
  | cons token rest ih =>
    rw [List.cons_append, printTokens_cons, ih, printTokens_cons, String.append_assoc]

/-- Can the tags be read back, where the given elements are open and perhaps a text has just
been read? -/
def areInOrder : List String → Bool → List Token → Bool
  | _, _, [] => true
  | opened, afterText, .text s :: rest => !afterText && !s.isEmpty && areInOrder opened true rest
  | opened, _, .opening tag attributes :: rest =>
    isName tag && attributes.all (fun entry => isName entry.1) &&
      areInOrder (tag :: opened) false rest
  | opened, _, .selfClosing tag attributes :: rest =>
    isName tag && attributes.all (fun entry => isName entry.1) && areInOrder opened false rest
  | [], _, .closing _ :: _ => false
  | innermost :: outer, _, .closing tag :: rest =>
    isName tag && innermost == tag && areInOrder outer false rest

/-! ## 3. What has been passed -/

theorem tokensOf_append (first second : List Piece) :
    tokensOf (first ++ second) = tokensOf first ++ tokensOf second := by
  induction first with
  | nil => rfl
  | cons piece rest ih => rw [List.cons_append, tokensOf, ih, tokensOf, List.append_assoc]

theorem tokensOf_concat (pieces : List Piece) (piece : Piece) :
    tokensOf (pieces ++ [piece]) = tokensOf pieces ++ piece.tokens := by
  rw [tokensOf_append, tokensOf, tokensOf, List.append_nil]

section

variable (opened : List OpenElement) (done : List Piece) (read : List Char)

theorem passed_text {s : String} (hs : s.isEmpty = false) :
    passed opened done (escapeHead s).toList.reverse = passed opened done [] ++ [.text s] := by
  have hwritten : (escapeHead s).toList.reverse.isEmpty = false := by
    have hempty := (encodes_escapeHead s).isEmpty_eq
    rw [hs] at hempty
    simpa using hempty
  have htext : readText (escapeHead s).toList.reverse = escapeHead s := by
    rw [readText, List.reverse_reverse, String.ofList_toList]
  rw [passed, endText, hwritten, if_neg Bool.false_ne_true, htext, List.reverse_cons,
    tokensOf_concat, Piece.tokens, (encodes_escapeHead s).decoded, ← List.append_assoc]
  rfl

theorem passed_opening (tag : String) (attributes : List ReadAttribute) :
    passed (⟨tag, attributes, endText done read⟩ :: opened) [] [] =
      passed opened done read ++ [.opening tag attributes] :=
  List.append_nil _

theorem passed_selfClosing (tag : String) (attributes : List ReadAttribute) :
    passed opened (.empty tag attributes :: endText done read) [] =
      passed opened done read ++ [.selfClosing tag attributes] := by
  have hend : endText (.empty tag attributes :: endText done read) [] =
      .empty tag attributes :: endText done read := rfl
  rw [passed, hend, List.reverse_cons, tokensOf_concat, Piece.tokens, ← List.append_assoc, passed]

theorem passed_closing (tag : String) (attributes : List ReadAttribute) (before : List Piece) :
    passed opened (.paired tag attributes (endText done read).reverse :: before) [] =
      passed (⟨tag, attributes, before⟩ :: opened) done read ++ [.closing tag] := by
  have hend : endText (.paired tag attributes (endText done read).reverse :: before) [] =
      .paired tag attributes (endText done read).reverse :: before := rfl
  rw [passed, hend, List.reverse_cons, tokensOf_concat, Piece.tokens, passed, openTokens]
  simp only [List.append_assoc, List.cons_append, List.nil_append]

end

/-! ## 4. Reading back -/

theorem readsAttributes_print {attributes : List ReadAttribute}
    (hnames : ∀ entry ∈ attributes, isName entry.1 = true) :
    ReadsAttributes (printAttributes attributes) attributes := by
  induction attributes with
  | nil => exact readsAttributes_empty
  | cons entry rest ih =>
    have hrest := ih fun other hother => hnames other (List.mem_cons_of_mem entry hother)
    have hname := hnames entry List.mem_cons_self
    obtain ⟨name, value⟩ := entry
    cases value with
    | none => exact (readsAttributes_bare hname).append hrest
    | some value => exact (readsAttributes_valued hname (encodes_escapeHead value)).append hrest

/-- From a text the reader comes to a text again, and has passed what was written. The induction
is on the tags; what is open and whether a text is in progress are kept by `areInOrder`. -/
theorem run_printTokens {tokens : List Token} (opened : List OpenElement) (done : List Piece)
    (read : List Char)
    (h : areInOrder (opened.map OpenElement.tag) (!read.isEmpty) tokens = true) :
    ∃ opened' done' read',
      (Reader.mk opened done (.text read)).run (printTokens tokens).toList =
          some ⟨opened', done', .text read'⟩ ∧
        passed opened' done' read' = passed opened done read ++ tokens := by
  induction tokens generalizing opened done read with
  | nil => exact ⟨opened, done, read, rfl, (List.append_nil _).symm⟩
  | cons token rest ih =>
    -- one tag or text at a time: it leads to a state from which the rest is in order
    suffices hfirst : ∃ opened' done' read',
        (Reader.mk opened done (.text read)).run token.print.toList =
            some ⟨opened', done', .text read'⟩ ∧
          passed opened' done' read' = passed opened done read ++ [token] ∧
            areInOrder (opened'.map OpenElement.tag) (!read'.isEmpty) rest = true by
      obtain ⟨opened₁, done₁, read₁, hrun₁, hpassed₁, hrest⟩ := hfirst
      obtain ⟨opened₂, done₂, read₂, hrun₂, hpassed₂⟩ := ih opened₁ done₁ read₁ hrest
      refine ⟨opened₂, done₂, read₂, ?_, ?_⟩
      · rw [printTokens_cons, String.toList_append]
        exact Reader.run_trans hrun₁ hrun₂
      · rw [hpassed₂, hpassed₁, List.append_assoc, List.singleton_append]
    cases token with
    | text s =>
      simp only [areInOrder, Bool.and_eq_true, Bool.not_not, Bool.not_eq_true',
        List.isEmpty_iff] at h
      obtain ⟨⟨rfl, hs⟩, hrest⟩ := h
      refine ⟨opened, done, (escapeHead s).toList.reverse, ?_, passed_text opened done hs, ?_⟩
      · have hrun := Reader.run_text opened done
          (fun c hc => ((encodes_escapeHead s).plain c hc).1) []
        rwa [List.append_nil] at hrun
      · have hempty := (encodes_escapeHead s).isEmpty_eq
        rw [hs] at hempty
        have hwritten : (escapeHead s).toList.reverse.isEmpty = false := by simpa using hempty
        rw [hwritten]
        exact hrest
    | opening tag attributes =>
      simp only [areInOrder, Bool.and_eq_true, List.all_eq_true] at h
      obtain ⟨⟨htag, hnames⟩, hrest⟩ := h
      exact ⟨_, _, _, Reader.run_opening opened done read htag (readsAttributes_print hnames),
        passed_opening opened done read tag attributes, hrest⟩
    | selfClosing tag attributes =>
      simp only [areInOrder, Bool.and_eq_true, List.all_eq_true] at h
      obtain ⟨⟨htag, hnames⟩, hrest⟩ := h
      exact ⟨_, _, _, Reader.run_selfClosing opened done read htag (readsAttributes_print hnames),
        passed_selfClosing opened done read tag attributes, hrest⟩
    | closing tag =>
      cases opened with
      | nil => simp [areInOrder] at h
      | cons innermost outer =>
        obtain ⟨name, attributes, before⟩ := innermost
        simp only [List.map_cons, areInOrder, Bool.and_eq_true, beq_iff_eq] at h
        obtain ⟨⟨htag, rfl⟩, hrest⟩ := h
        exact ⟨_, _, _, Reader.run_closing outer done before read htag,
          passed_closing outer done read name attributes before, hrest⟩

/-- Tags in order are read back as they were written. -/
theorem readTokens_print {tokens : List Token} (h : areInOrder [] false tokens = true) :
    readTokens (printTokens tokens) = some tokens := by
  obtain ⟨opened, done, read, hrun, hpassed⟩ := run_printTokens [] [] [] h
  rw [readTokens, hrun, Option.bind_some]
  exact congrArg some hpassed

end StaticSite.Markup
