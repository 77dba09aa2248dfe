/-
StaticSite.Proofs.Markup.NormalForm — trees without what their markup does not show.

The markup of a tree does not say how the tree was put together: groups
leave no trace, neighbouring texts run into one, attributes that are
absent or off are left out, and a body that was deferred looks like any
other. `Node.normalForm` is the tree without these differences, as a list
of pieces.

Not every tree can be read back from its markup: its names have to be names
and its texts must start no tags, and all its attributes must be ones that
can be written (`Node.isReadable`).
-/
import StaticSite.Proofs.Markup.Evaluation
import StaticSite.Proofs.Markup.Reader

namespace StaticSite.Markup

/-! ## 1. Attributes -/

/-- What a value is written as, if its attribute is written: nothing for a bare name, or a
text. -/
def AttrValue.written? : AttrValue → Option (Option String)
  | .absent => none
  | .switch false => none
  | .switch true => some none
  | .text s => some (some s)
  | .int n => some (some (String.ofList (Number.intText n)))

/-- One attribute as it is read back, if it is written. -/
def keptAttribute (name : String) (value : AttrValue) : List ReadAttribute :=
  (value.written?.map fun written => (attributeName name, written)).toList

/-- The attributes that are written, in their order. -/
def keptAttributes : Attributes → List ReadAttribute
  | [] => []
  | (name, value) :: rest => keptAttribute name value ++ keptAttributes rest

theorem keptAttributes_append (first second : Attributes) :
    keptAttributes (first ++ second) = keptAttributes first ++ keptAttributes second := by
  induction first with
  | nil => rfl
  | cons entry rest ih =>
    obtain ⟨name, value⟩ := entry
    rw [List.cons_append, keptAttributes, keptAttributes, ih, List.append_assoc]

/-- The attributes of an element that are written: those out of its table come first. -/
def GivenAttributes.kept (given : GivenAttributes) : List ReadAttribute :=
  keptAttributes given.table ++ keptAttributes given.named

/-- Attributes with texts as they are read back. -/
def textAttributes (attributes : List (String × String)) : List ReadAttribute :=
  attributes.map fun (name, value) => (attributeName name, some value)

/-! ## 2. Trees -/

/-- The name that a tag is written with. -/
def TagRef.name : TagRef → String
  | .tag name => name
  | .shorthand name => name

mutual

/-- The pieces of a tree in front of other pieces. Of two bodies only the one that is evaluated
counts. -/
def Node.piecesOnto : Node → List Piece → List Piece
  | .text s => addText s
  | .group nodes => piecesOntoAll nodes
  | .element tag (some content) _ attributes =>
    (.paired tag.name attributes.kept (content.piecesOnto []) :: ·)
  | .element tag none (some deferred) attributes =>
    (.paired tag.name attributes.kept (deferred.piecesOnto []) :: ·)
  | .element tag none none attributes => (.empty tag.name attributes.kept :: ·)

/-- The pieces of a group of trees in front of other pieces. -/
def piecesOntoAll : List Node → List Piece → List Piece
  | [] => id
  | node :: rest => node.piecesOnto ∘ piecesOntoAll rest

end

/-- The pieces of a tree, neighbouring texts merged. -/
def Node.normalForm (node : Node) : List Piece :=
  node.piecesOnto []

/-- An element as a piece: it closes itself if it has no body. -/
def elementPiece (tag : String) (attributes : List ReadAttribute) : Option (List Piece) → Piece
  | none => .empty tag attributes
  | some body => .paired tag attributes body

/-- The normal form of a call: its content counts before a deferred body, and the attributes of
its table stand before those given by name. -/
theorem Node.normalForm_call (tag : TagRef) (content deferred : Option Node)
    (table named : Attributes) :
    (Node.call tag content deferred table named).normalForm =
      [elementPiece tag.name (keptAttributes table ++ keptAttributes named)
        ((content <|> deferred).map Node.normalForm)] := by
  rw [normalForm, call]
  cases content with
  | some content => rw [piecesOnto]; rfl
  | none => cases deferred <;> (rw [piecesOnto]; rfl)

/-! ## 3. Readable trees -/

/-- Can a text be the name of a tag or an attribute? -/
def isName (s : String) : Bool :=
  !s.isEmpty && s.toList.all isNameChar

/-- Is there such a tag, and is its name a name? -/
def TagRef.isReadable : TagRef → Bool
  | .tag name => isName name
  | .shorthand name => tagCatalog.contains name

/-- Can the attributes be written, and are their names names? -/
def GivenAttributes.isReadable (given : GivenAttributes) : Bool :=
  given.isWritable && (given.table ++ given.named).all fun entry => isName entry.1

mutual

/-- Can a tree be read back: can its elements be written, are their names names, and do its texts
start no tags? A body that is not evaluated does not matter. -/
def Node.isReadable : Node → Bool
  | .text s => !s.toList.contains '<'
  | .group nodes => areReadable nodes
  | .element tag (some content) _ attributes =>
    tag.isReadable && attributes.isReadable && content.isReadable
  | .element tag none (some deferred) attributes =>
    tag.isReadable && attributes.isReadable && deferred.isReadable
  | .element tag none none attributes =>
    tag.isReadable && attributes.isReadable

/-- Can all trees of a group be read back? -/
def areReadable : List Node → Bool
  | [] => true
  | node :: rest => node.isReadable && areReadable rest

end

end StaticSite.Markup
