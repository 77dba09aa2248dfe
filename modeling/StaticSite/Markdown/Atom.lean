/-
StaticSite.Markdown.Atom — what a text in Markdown is made of while it is read.

A text starts as a list of characters. Reading it turns runs of them into
atoms that mean something: an element, a piece of markup that was written
by hand, or a character that stands for itself.
-/
import StaticSite.Text.Blank
import StaticSite.Text.Lines

namespace StaticSite.Markdown

open StaticSite.Text

/-! ## 1. Tags -/

/-- The elements that Markdown can make. -/
inductive Tag where
  | document
  | paragraph
  | heading (level : Nat)
  | rule
  | pre
  | code
  | quote
  | bullets
  | numbers
  | item
  | emphasis
  | strong
  | link
  | image
  | lineBreak
  deriving DecidableEq, Repr

namespace Tag

/-- The name of the element. -/
def name : Tag → String
  | document => "div"
  | paragraph => "p"
  | heading 1 => "h1"
  | heading 2 => "h2"
  | heading 3 => "h3"
  | heading 4 => "h4"
  | heading 5 => "h5"
  | heading _ => "h6"
  | rule => "hr"
  | pre => "pre"
  | code => "code"
  | quote => "blockquote"
  | bullets => "ul"
  | numbers => "ol"
  | item => "li"
  | emphasis => "em"
  | strong => "strong"
  | link => "a"
  | image => "img"
  | lineBreak => "br"

/-- Does the element stand on lines of its own? -/
def isBlock : Tag → Bool
  | code | emphasis | strong | link | image | lineBreak => false
  | _ => true

/-- Is the element without content and end tag? -/
def isVoid : Tag → Bool
  | rule | image | lineBreak => true
  | _ => false

/-- Is the element a list? -/
def isList : Tag → Bool
  | bullets | numbers => true
  | _ => false

end Tag

/-! ## 2. Atoms -/

/-- A piece of text. -/
inductive Atom where
  /-- A character that may still mean something. -/
  | char (c : Char)
  /-- A character that stands for itself. -/
  | verbatim (c : Char)
  /-- A character that stands for itself after a backslash. -/
  | escaped (c : Char)
  /-- Markup that is kept as it was written. -/
  | markup (s : List Char)
  /-- An element with its attributes and its content. -/
  | node (tag : Tag) (attributes : List (String × List Atom)) (content : List Atom)
  deriving Inhabited

/-- A text that is being read. -/
abbrev Atoms := List Atom

namespace Atom

/-- The character, if it may still mean something. -/
def char? : Atom → Option Char
  | char c => some c
  | _ => none

/-- Is the atom this character, and may it mean something? -/
def is (c : Char) (a : Atom) : Bool :=
  a.char? == some c

/-- Is the atom a character of a class, and may it mean something? -/
def isIn (p : Char → Bool) (a : Atom) : Bool :=
  match a with
  | char c => p c
  | _ => false

/-- Is the atom a blank character? -/
def isBlank : Atom → Bool
  | char c => Text.isBlank c
  | verbatim c => Text.isBlank c
  | _ => false

/-- Is the atom an element? -/
def isNode : Atom → Bool
  | node _ _ _ => true
  | _ => false

end Atom

/-! ## 3. Texts -/

/-- A text that has not been read. -/
def ofChars (s : List Char) : Atoms :=
  s.map Atom.char

/-- A text that stands for itself. -/
def verbatimText (s : List Char) : Atoms :=
  s.map Atom.verbatim

/-- Does the text start with this character? -/
def startsWith (c : Char) (s : Atoms) : Bool :=
  match s with
  | a :: _ => a.is c
  | [] => false

/-- Is there nothing but blank characters? -/
def allBlank (s : Atoms) : Bool :=
  s.all Atom.isBlank

/-- The text without the blank characters it starts with. -/
def dropBlank (s : Atoms) : Atoms :=
  s.dropWhile Atom.isBlank

/-- The text without the blank characters it ends with. -/
def dropEndBlank (s : Atoms) : Atoms :=
  (s.reverse.dropWhile Atom.isBlank).reverse

/-- The text without the blank characters at its ends. -/
def trim (s : Atoms) : Atoms :=
  dropEndBlank (dropBlank s)

/-- The number of spaces the text starts with. -/
def leadingSpaces (s : Atoms) : Nat :=
  (s.takeWhile (Atom.is ' ')).length

/-- The characters of a text, if it has nothing else. -/
def chars? : Atoms → Option (List Char)
  | [] => some []
  | .char c :: s => (chars? s).map (c :: ·)
  | _ :: _ => none

/-! ## 4. Lines -/

/-- The lines of a text. -/
def linesOf (s : Atoms) : List Atoms :=
  splitOn (Atom.is '\n') s

/-- Lines as one text. -/
def ofLines (lines : List Atoms) : Atoms :=
  joinLists [.char '\n'] lines

end StaticSite.Markdown
