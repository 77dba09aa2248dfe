/-
StaticSite.Markdown.Reading — the text of blocks with its elements found.

A text is read in steps: one for each pattern, and a last one for emphasis.
The text inside an element that a step finds is read in the steps after it.
When a block is done, the elements inside its elements are read once more in
all steps.
-/
import StaticSite.Markdown.CodeSpan
import StaticSite.Markdown.Link
import StaticSite.Markdown.Angle
import StaticSite.Markdown.Emphasis

namespace StaticSite.Markdown

/-! ## 1. The steps -/

/-- The patterns in their order. -/
def patterns (references : References) : List Pattern :=
  [codeSpan,
    backslash,
    referenceLink references false true,
    inlineLink false,
    inlineLink true,
    referenceLink references true true,
    referenceLink references false false,
    referenceLink references true false,
    autolink,
    automail,
    lineBreak,
    inlineMarkup,
    characterReference]

/-- The steps in their order: the patterns, and then emphasis. -/
def passes (references : References) : List Pass :=
  (patterns references).map Pattern.pass ++ [fun _ => emphasize]

/-- Reads a text step by step; the first argument bounds how deep elements nest and how many
steps there are. -/
def readWith : Nat → List Pass → Atoms → Atoms
  | 0, _, s => s
  | _, [], s => s
  | bound + 1, pass :: later, s => readWith bound later (pass (readWith bound later) s)

/-- Reads a text in all steps. -/
def readText (references : References) (s : Atoms) : Atoms :=
  let all := passes references
  readWith (s.length + all.length) all s

/-! ## 2. Elements inside elements -/

mutual

/-- The number of atoms of an atom, those inside it included. -/
def Atom.size : Atom → Nat
  | .node _ _ content => size content + 1
  | .char _ => 1
  | .verbatim _ => 1
  | .escaped _ => 1
  | .markup _ => 1

/-- The number of atoms of a text, those inside elements included. -/
def size : Atoms → Nat
  | [] => 0
  | a :: s => a.size + size s

end

/-- The text before the first element. -/
def leadingText (s : Atoms) : Atoms :=
  s.takeWhile (!Atom.isNode ·)

/-- The text from the first element on. -/
def fromElement (s : Atoms) : Atoms :=
  s.dropWhile (!Atom.isNode ·)

/-- Reads the elements of a content: the text in each and the text after each. In an element
with elements these are read in their turn, and so are those in the elements that are found. The
first argument bounds the number of steps. -/
def readElements (read : Atoms → Atoms) : Nat → Atoms → Atoms
  | 0, s => s
  | _, [] => []
  | bound + 1, .node tag attributes content :: rest =>
    let inElements (s : Atoms) : Atoms := readElements read bound s
    let inside := read (leadingText content)
    let elements := fromElement content
    let content :=
      if elements.isEmpty then
        inside.map fun a =>
          match a with
          | .node tag attributes content => .node tag attributes (inElements content)
          | a => a
      else inElements (inside ++ elements)
    .node tag attributes content ::
      inElements (read (leadingText rest) ++ fromElement rest)
  | bound + 1, a :: rest => a :: readElements read bound rest

/-- The document of an outline with the elements in its text. -/
def documentOf (o : Outline) : Atoms :=
  match o.block.toAtom with
  | .node _ _ content => readElements (readText o.references) (size content) content
  | _ => []

end StaticSite.Markdown
