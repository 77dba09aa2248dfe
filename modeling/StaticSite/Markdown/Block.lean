/-
StaticSite.Markdown.Block — the blocks of a text while they are laid out.

A block is an element with text and with blocks after the text. In an item
of a list more text may follow each of them. Only the end of the tree is
ever changed, so the operations here work on the last child.
-/
import StaticSite.Markdown.Atom

namespace StaticSite.Markdown

/-! ## 1. Blocks -/

/-- An element with its text and with its children, each with the text after it. A numbered
list may tell the number it starts with. The text of a block of code is the code. -/
structure Block where
  tag : Tag
  start : Option (List Char)
  text : Atoms
  children : List (Block × Atoms)

namespace Block

/-- An element with some text. -/
def ofText (tag : Tag) (text : Atoms) : Block :=
  ⟨tag, none, text, []⟩

/-- An element with nothing in it. -/
def empty (tag : Tag) : Block :=
  ofText tag []

/-- The last child. -/
def last? (b : Block) : Option Block :=
  b.children.getLast?.map Prod.fst

/-- The text after the last child. -/
def lastTail (b : Block) : Atoms :=
  (b.children.getLast?.map Prod.snd).getD []

/-- Is the last child such an element? -/
def lastIs (p : Tag → Bool) (b : Block) : Bool :=
  (b.last?.map fun c => p c.tag).getD false

/-- The block with one more child. -/
def add (b c : Block) : Block :=
  { b with children := b.children ++ [(c, [])] }

/-- The block with another last child, and text after it. -/
def setLast (b c : Block) (tail : Atoms) : Block :=
  { b with children := b.children.dropLast ++ [(c, tail)] }

/-- The block with its text as its first paragraph, if there is text. -/
def wrapText (b : Block) : Block :=
  if b.text.isEmpty then b
  else { b with text := [], children := (ofText .paragraph b.text, []) :: b.children }

/-- The block with the text after the last child as a paragraph, if there is such text. -/
def wrapTail (b : Block) : Block :=
  match b.last? with
  | none => b
  | some c =>
    if b.lastTail.isEmpty then b
    else (b.setLast c []).add (ofText .paragraph (dropBlank b.lastTail))

/-- The block with its last child changed. -/
def mapLast (f : Block → Block) (b : Block) : Block :=
  match b.last? with
  | none => b
  | some c => b.setLast (f c) b.lastTail

end Block

/-! ## 2. Elements -/

mutual

/-- The element that a block makes. -/
def Block.toAtom : Block → Atom
  | ⟨tag, start, text, children⟩ =>
    if tag = .pre then .node .pre [] [.node .code [] text]
    else
      let attributes :=
        match start with
        | some n => [("start", verbatimText n)]
        | none => []
      .node tag attributes (text ++ childAtoms children)

/-- The elements that the children of a block make, with the text after each. -/
def childAtoms : List (Block × Atoms) → Atoms
  | [] => []
  | (b, tail) :: rest => b.toAtom :: (tail ++ childAtoms rest)

end

/-! ## 3. References -/

/-- Where a label leads, and the title of that place. -/
structure Reference where
  label : List Char
  target : Atoms
  title : Option Atoms

/-- The references of a text, the last one first. -/
abbrev References := List Reference

/-- The reference that was last made for a label. -/
def findReference? (label : List Char) : References → Option Reference
  | [] => none
  | r :: rest => if r.label = label then some r else findReference? label rest

/-- A block that is being filled, and the references found so far. -/
structure Outline where
  block : Block
  references : References

namespace Outline

/-- The outline with its block changed. -/
def map (f : Block → Block) (o : Outline) : Outline :=
  { o with block := f o.block }

/-- Fills the last child. -/
def inLast (f : Outline → Outline) (o : Outline) : Outline :=
  match o.block.last? with
  | none => o
  | some c =>
    let filled := f ⟨c, o.references⟩
    ⟨o.block.setLast filled.block o.block.lastTail, filled.references⟩

/-- Fills a new child. -/
def inNew (c : Block) (f : Outline → Outline) (o : Outline) : Outline :=
  (o.map (·.add c)).inLast f

/-- Fills the last child of the last child, and so on, a number of steps down. -/
def atDepth : Nat → (Outline → Outline) → Outline → Outline
  | 0, f, o => f o
  | n + 1, f, o => o.inLast (atDepth n f)

end Outline

end StaticSite.Markdown
