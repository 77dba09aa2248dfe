/-
StaticSite.Markdown.Layout — line ends between elements.

Elements that stand on lines of their own get a line end after them, and
before the first one in another. A break gets one after it, and code gets
one at its end.
-/
import StaticSite.Markdown.Reading

namespace StaticSite.Markdown

open StaticSite.Text

/-- A line end. -/
def lineEnd : Atoms :=
  [.verbatim '\n']

/-- Is the atom an element that stands on lines of its own? -/
def Atom.isBlockNode : Atom → Bool
  | .node tag _ _ => tag.isBlock
  | _ => false

/-- A text, or a line end if there is nothing but blanks. -/
def orLineEnd (s : Atoms) : Atoms :=
  if allBlank s then lineEnd else s

/-- Code with one line end after it. -/
def endCode (s : Atoms) : Atoms :=
  dropEndBlank s ++ lineEnd

/-- The atoms of a content before its first element, where a line end may be needed. -/
def laidStart (inBlock : Bool) (s : Atoms) : Atoms :=
  match fromElement s with
  | a :: _ => if inBlock && a.isBlockNode then orLineEnd (leadingText s) else leadingText s
  | [] => leadingText s

/-- The text after an element. -/
def laidTail (inBlock : Bool) (tag : Tag) (s : Atoms) : Atoms :=
  if tag = .lineBreak then if allBlank s then lineEnd else .verbatim '\n' :: s
  else if inBlock && tag.isBlock then orLineEnd s
  else s

mutual

/-- An element with line ends in it. -/
def layAtom : Atom → Atom
  | .node .pre attributes [.node .code inner code] =>
    .node .pre attributes [.node .code inner (endCode code)]
  | .node tag attributes content =>
    let open_ := tag.isBlock && tag ≠ .pre
    .node tag attributes (laidStart open_ content ++ layElements open_ content)
  | a => a

/-- The elements of a content, and the text after each. -/
def layElements (inBlock : Bool) : Atoms → Atoms
  | [] => []
  | .node tag attributes content :: rest =>
    layAtom (.node tag attributes content) ::
      (laidTail inBlock tag (leadingText rest) ++ layElements inBlock rest)
  | _ :: rest => layElements inBlock rest

end

/-- The content of a document with line ends in it. -/
def lay (s : Atoms) : Atoms :=
  laidStart true s ++ layElements true s

end StaticSite.Markdown
