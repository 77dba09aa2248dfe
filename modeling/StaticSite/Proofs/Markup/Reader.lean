/-
StaticSite.Proofs.Markup.Reader — a reader of tags.

The reader goes over markup character by character. It knows nothing of the
trees that markup is written from: it has a stack of the elements that are
open, the pieces that it has read inside the innermost of them, and its
place, in a text or somewhere in a tag. What it gives back are pieces:
texts as they stand, and elements with their attributes, whose values have
their references decoded. A closing tag has to close the innermost element,
and nothing may be open at the end.
-/
import StaticSite.Markup.Node

namespace StaticSite.Markup

/-! ## 1. Pieces -/

/-- An attribute as it is read: its name, and its value unless it is a bare name. -/
abbrev ReadAttribute := String × Option String

/-- What markup consists of. An element either closes itself or has a body. -/
inductive Piece where
  | text (s : String)
  | empty (tag : String) (attributes : List ReadAttribute)
  | paired (tag : String) (attributes : List ReadAttribute) (body : List Piece)

/-- Pieces with a text in front, which is merged with a text that they start with. -/
def addText (s : String) : List Piece → List Piece
  | .text t :: rest => .text (s ++ t) :: rest
  | rest => if s.isEmpty then rest else .text s :: rest

/-! ## 2. Characters -/

/-- The characters that separate attributes. -/
def isSeparator (c : Char) : Bool :=
  c == ' ' || c == '\t' || c == '\n' || c == '\x0c' || c == '\r'

/-- The characters that names of tags and attributes are made of. -/
def isNameChar (c : Char) : Bool :=
  !(isSeparator c || c == '"' || c == '\'' || c == '<' || c == '>' || c == '/' || c == '=')

/-- The text with the characters that its references stand for. -/
def decodeReferences : List Char → List Char
  | '&' :: 'a' :: 'm' :: 'p' :: ';' :: s => '&' :: decodeReferences s
  | '&' :: 'l' :: 't' :: ';' :: s => '<' :: decodeReferences s
  | '&' :: 'g' :: 't' :: ';' :: s => '>' :: decodeReferences s
  | '&' :: 'q' :: 'u' :: 'o' :: 't' :: ';' :: s => '"' :: decodeReferences s
  | '&' :: '#' :: 'x' :: '2' :: '7' :: ';' :: s => '\'' :: decodeReferences s
  | '&' :: '#' :: '3' :: '4' :: ';' :: s => '"' :: decodeReferences s
  | '&' :: '#' :: '3' :: '9' :: ';' :: s => '\'' :: decodeReferences s
  | c :: s => c :: decodeReferences s
  | [] => []

/-! ## 3. The reader -/

/-- Where the reader is. What it has read of a text, a name or a value is reversed, and so are
the attributes of a tag. -/
inductive Place where
  | text (read : List Char)
  /-- After the sign that starts a tag. -/
  | start
  | tagName (read : List Char)
  /-- Between the attributes of a tag. -/
  | between (tag : String) (attributes : List ReadAttribute)
  | attributeName (tag : String) (attributes : List ReadAttribute) (read : List Char)
  /-- After the sign between the name and the value of an attribute. -/
  | equals (tag : String) (attributes : List ReadAttribute) (name : String)
  | value (tag : String) (attributes : List ReadAttribute) (name : String) (read : List Char)
  | afterValue (tag : String) (attributes : List ReadAttribute)
  /-- After the slash at the end of a tag that closes itself. -/
  | slash (tag : String) (attributes : List ReadAttribute)
  | closing (read : List Char)

/-- An element that is open, with the pieces before it, reversed. -/
structure OpenElement where
  tag : String
  attributes : List ReadAttribute
  before : List Piece

/-- The open elements, the innermost first, the pieces in the innermost one, reversed, and the
place. -/
structure Reader where
  opened : List OpenElement
  done : List Piece
  place : Place

/-- What was read in reverse, as a text. -/
def readText (read : List Char) : String :=
  String.ofList read.reverse

/-- The pieces with the text after them, if it is not empty. All is reversed. -/
def endText (done : List Piece) (read : List Char) : List Piece :=
  if read.isEmpty then done else .text (readText read) :: done

/-- The place of the reader for another one. -/
def Reader.goTo (r : Reader) (place : Place) : Option Reader :=
  some { r with place }

/-- After the name of a tag or an attribute: a separator, or the end of the tag. -/
def Reader.endPart (r : Reader) (tag : String) (attributes : List ReadAttribute) (c : Char) :
    Option Reader :=
  if isSeparator c then r.goTo (.between tag attributes)
  else if c == '>' then some ⟨⟨tag, attributes.reverse, r.done⟩ :: r.opened, [], .text []⟩
  else none

/-- Closes the innermost element, if it has the tag. -/
def Reader.close (r : Reader) (tag : String) : Option Reader :=
  match r.opened with
  | element :: outer =>
    if element.tag == tag then
      some ⟨outer, .paired tag element.attributes r.done.reverse :: element.before, .text []⟩
    else none
  | [] => none

/-- One character. -/
def Reader.step (r : Reader) (c : Char) : Option Reader :=
  match r.place with
  | .text read =>
    if c == '<' then some ⟨r.opened, endText r.done read, .start⟩ else r.goTo (.text (c :: read))
  | .start =>
    if c == '/' then r.goTo (.closing [])
    else if isNameChar c then r.goTo (.tagName [c])
    else none
  | .tagName read =>
    if isNameChar c then r.goTo (.tagName (c :: read)) else r.endPart (readText read) [] c
  | .between tag attributes =>
    if isSeparator c then some r
    else if c == '/' then r.goTo (.slash tag attributes)
    else if isNameChar c then r.goTo (.attributeName tag attributes [c])
    else none
  | .attributeName tag attributes read =>
    if isNameChar c then r.goTo (.attributeName tag attributes (c :: read))
    else if c == '=' then r.goTo (.equals tag attributes (readText read))
    else r.endPart tag ((readText read, none) :: attributes) c
  | .equals tag attributes name =>
    if c == '"' then r.goTo (.value tag attributes name []) else none
  | .value tag attributes name read =>
    if c == '"' then
      let value := String.ofList (decodeReferences read.reverse)
      r.goTo (.afterValue tag ((name, some value) :: attributes))
    else r.goTo (.value tag attributes name (c :: read))
  | .afterValue tag attributes => r.endPart tag attributes c
  | .slash tag attributes =>
    if c == '>' then some ⟨r.opened, .empty tag attributes.reverse :: r.done, .text []⟩ else none
  | .closing read =>
    if c == '>' then r.close (readText read)
    else if isNameChar c then r.goTo (.closing (c :: read))
    else none

/-- Some characters one after the other. -/
def Reader.run (r : Reader) : List Char → Option Reader
  | [] => some r
  | c :: s =>
    match r.step c with
    | none => none
    | some next => next.run s

/-- The pieces that have been read, if the reader is in a text outside of all elements. -/
def Reader.finish (r : Reader) : Option (List Piece) :=
  match r.opened, r.place with
  | [], .text read => some (endText r.done read).reverse
  | _, _ => none

/-- The pieces of markup. -/
def readMarkup (html : String) : Option (List Piece) :=
  (Reader.run ⟨[], [], .text []⟩ html.toList).bind Reader.finish

end StaticSite.Markup
