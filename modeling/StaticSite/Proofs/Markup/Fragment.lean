/-
StaticSite.Proofs.Markup.Fragment — markup that is put together from elements.

Pages are written with constructors of elements rather than as trees. What
such markup is read as follows from what its parts are read as: an element
puts one piece in front of the others (`readsAs_element`), an escaped text
is merged with the text after it, and elements in a row stay apart from
each other by their separator (`readsAs_joinWith`).

`readDecoded` reads markup as a reader of pages sees it: the references of
its texts are decoded as well.
-/
import StaticSite.Proofs.Markup.RoundTrip
import StaticSite.Text.Lines

namespace StaticSite.Markup

open StaticSite.Text

/-! ## 1. Decoded pieces -/

mutual

/-- The piece with the references of its texts decoded. -/
def Piece.decode : Piece → Piece
  | .text s => .text (decodeText s)
  | .empty tag attributes => .empty tag attributes
  | .paired tag attributes body => .paired tag attributes (decodePieces body)

/-- The pieces with the references of their texts decoded. -/
def decodePieces : List Piece → List Piece
  | [] => []
  | piece :: rest => piece.decode :: decodePieces rest

end

/-- The pieces of markup, all references decoded. -/
def readDecoded (html : String) : Option (List Piece) :=
  (readMarkup html).map decodePieces

theorem decodePieces_eq_map (pieces : List Piece) :
    decodePieces pieces = pieces.map Piece.decode := by
  induction pieces with
  | nil => rfl
  | cons piece rest ih => rw [decodePieces, List.map_cons, ih]

/-- A text as a list of pieces: no piece if it is empty. -/
def textPieces (s : String) : List Piece :=
  addText s []

theorem ReadsAs.readDecoded {html : String} {f : List Piece → List Piece} (h : ReadsAs html f) :
    readDecoded html = some (decodePieces (f [])) := by
  rw [Markup.readDecoded, h.readMarkup, Option.map_some]

/-- The text of an element that holds only an escaped text. -/
theorem decodePieces_textPieces {written value : String} (h : Encodes written value) :
    decodePieces (textPieces written) = textPieces value := by
  have hempty := h.isEmpty_eq
  rw [textPieces, textPieces, addText, addText, hempty]
  · split
    · rfl
    · rw [decodePieces, Piece.decode, h.decoded, decodePieces]
  all_goals
    intro _ _ hnil
    cases hnil

/-! ## 2. Elements -/

variable {tag : String} {attributes : List (String × String)}

theorem readsAs_element {body : String} {f : List Piece → List Piece} (hbody : ReadsAs body f)
    (htag : isName tag = true) (hnames : ∀ entry ∈ attributes, isName entry.1 = true) :
    ReadsAs (element tag attributes body)
      (.paired tag (textAttributes attributes) (f []) :: ·) :=
  hbody.element htag (readsAttributes_renderTexts hnames)

theorem readsAs_empty_element (htag : isName tag = true)
    (hnames : ∀ entry ∈ attributes, isName entry.1 = true) :
    ReadsAs (emptyElement tag attributes) (.empty tag (textAttributes attributes) :: ·) :=
  readsAs_emptyElement htag (readsAttributes_renderTexts hnames)

theorem readsAs_encoded {written value : String} (h : Encodes written value) :
    ReadsAs written (addText written) :=
  readsAs_text h.not_contains

/-! ## 3. Elements in a row -/

/-- Pieces with a text between neighbours, in front of other pieces. -/
def separatedOnto (separator : String) : List Piece → List Piece → List Piece
  | [] => id
  | [piece] => (piece :: ·)
  | piece :: next :: rest => (piece :: ·) ∘ addText separator ∘ separatedOnto separator (next :: rest)

theorem readsAs_joinWith {α : Type} {html : α → String} {piece : α → Piece} {separator : String}
    (hseparator : separator.toList.contains '<' = false)
    (hread : ∀ a, ReadsAs (html a) (piece a :: ·)) (items : List α) :
    ReadsAs (joinWith separator (items.map html)) (separatedOnto separator (items.map piece)) := by
  induction items with
  | nil => exact readsAs_empty
  | cons a rest ih =>
    cases rest with
    | nil => exact hread a
    | cons b rest =>
      have hjoined : joinWith separator ((a :: b :: rest).map html) =
          html a ++ (separator ++ joinWith separator ((b :: rest).map html)) := by
        rw [List.map_cons, List.map_cons, joinWith, String.append_assoc]
      rw [hjoined]
      exact (hread a).append ((readsAs_text hseparator).append ih)

theorem map_intersperse {α β : Type} (f : α → β) (separator : α) (items : List α) :
    (items.intersperse separator).map f = (items.map f).intersperse (f separator) := by
  induction items with
  | nil => rfl
  | cons a rest ih =>
    cases rest with
    | nil => rfl
    | cons b rest =>
      rw [List.intersperse_cons_cons, List.map_cons, List.map_cons, ih]
      simp only [List.map_cons, List.intersperse_cons_cons]

/-- The separator stays apart from elements. -/
theorem separatedOnto_elements {α : Type} {separator : String} {piece : α → Piece}
    (hseparator : separator.isEmpty = false) (hpiece : ∀ a s, piece a ≠ .text s)
    (items : List α) :
    separatedOnto separator (items.map piece) [] =
      (items.map piece).intersperse (.text separator) := by
  induction items with
  | nil => rfl
  | cons a rest ih =>
    cases rest with
    | nil => rfl
    | cons b rest =>
      have hfirst : ∃ others, (List.map piece (b :: rest)).intersperse (.text separator) =
          piece b :: others := by
        cases rest with
        | nil => exact ⟨[], rfl⟩
        | cons c rest => exact ⟨_, rfl⟩
      obtain ⟨others, hothers⟩ := hfirst
      have hadd : addText separator (piece b :: others) = .text separator :: piece b :: others := by
        cases hb : piece b with
        | text s => exact absurd hb (hpiece b s)
        | empty tag attributes => simp [addText, hseparator]
        | paired tag attributes body => simp [addText, hseparator]
      rw [List.map_cons] at ih hothers
      rw [List.map_cons, List.map_cons, separatedOnto, Function.comp_apply, Function.comp_apply, ih,
        hothers, hadd, List.intersperse_cons_cons, hothers]

end StaticSite.Markup
