/-
StaticSite.Markdown.Render — elements written as markup.

Text and the values of attributes are escaped, but for an ampersand that
starts a reference to a character. Markup that was written by hand stays
as it is. Attributes come in the order of their names.
-/
import StaticSite.Markdown.RawBlocks

namespace StaticSite.Markdown

open StaticSite.Text

/-! ## 1. Escaping -/

/-- Does the text after an ampersand make it a reference to a character? -/
def endsReference (s : List Char) : Bool :=
  let closes (digits rest : List Char) : Bool := !digits.isEmpty && rest.head? == some ';'
  match s with
  | '#' :: x :: r =>
    if x == 'x' || x == 'X' then closes (r.takeWhile isHexChar) (r.dropWhile isHexChar)
    else closes ((x :: r).takeWhile isDigitChar) ((x :: r).dropWhile isDigitChar)
  | _ => closes (s.takeWhile isLetterOrDigit) (s.dropWhile isLetterOrDigit)

/-- A text with references for the characters that mean something in markup; in the value of an
attribute the quote is one of them. -/
def escapeText (inValue : Bool) : List Char → List Char
  | [] => []
  | c :: s =>
    let rest := escapeText inValue s
    if c == '&' then if endsReference s then c :: rest else "&amp;".toList ++ rest
    else if c == '<' then "&lt;".toList ++ rest
    else if c == '>' then "&gt;".toList ++ rest
    else if inValue && c == '"' then "&quot;".toList ++ rest
    else c :: rest

/-! ## 2. Elements -/

/-- Does the text hold nothing but one piece of markup on lines of its own? -/
def isLoneBlock : Atoms → Bool
  | [.markup s] => isBlockMarkup s
  | _ => false

/-- A piece of markup with the text before it, which has been collected in reverse. -/
def afterText (inValue : Bool) (collected s : List Char) : List Char :=
  escapeText inValue collected.reverse ++ s

/-- The value of an attribute. Characters are collected in reverse until they can be escaped
together. An element has no place in a value and is left out. -/
def renderValue (collected : List Char) : Atoms → List Char
  | [] => afterText true collected []
  | .markup s :: rest => afterText true collected (s ++ renderValue [] rest)
  | .node _ _ _ :: rest => renderValue collected rest
  | .char c :: rest => renderValue (c :: collected) rest
  | .verbatim c :: rest => renderValue (c :: collected) rest
  | .escaped c :: rest => renderValue (c :: collected) rest

/-- An attribute. -/
def renderAttribute (name : String) (value : List Char) : List Char :=
  ' ' :: name.toList ++ ['=', '"'] ++ value ++ ['"']

/-- The attributes of an element. -/
def renderAttributes : List (String × Atoms) → List Char
  | [] => []
  | (name, value) :: rest => renderAttribute name (renderValue [] value) ++ renderAttributes rest

/-- The start tag of an element. -/
def startTagText (tag : Tag) (attributes : List (String × Atoms)) : List Char :=
  '<' :: tag.name.toList ++ renderAttributes attributes ++ ['>']

/-- The end tag of an element; some elements have none. -/
def endTagText (tag : Tag) : List Char :=
  if tag.isVoid then [] else '<' :: '/' :: tag.name.toList ++ ['>']

mutual

/-- An element as markup. A paragraph is left out around markup on lines of its own. -/
def renderAtom : Atom → List Char
  | .node tag attributes content =>
    if tag = .paragraph && isLoneBlock content then renderFrom [] content
    else startTagText tag attributes ++ renderFrom [] content ++ endTagText tag
  | .markup s => s
  | .char c => escapeText false [c]
  | .verbatim c => escapeText false [c]
  | .escaped c => escapeText false [c]

/-- A text as markup. Characters are collected in reverse until they can be escaped together. -/
def renderFrom (collected : List Char) : Atoms → List Char
  | [] => afterText false collected []
  | .node tag attributes content :: rest =>
    afterText false collected
      (renderAtom (.node tag attributes content) ++ renderFrom [] rest)
  | .markup s :: rest => afterText false collected (s ++ renderFrom [] rest)
  | .char c :: rest => renderFrom (c :: collected) rest
  | .verbatim c :: rest => renderFrom (c :: collected) rest
  | .escaped c :: rest => renderFrom (c :: collected) rest

end

/-- A text as markup. -/
def render (s : Atoms) : List Char :=
  renderFrom [] s

end StaticSite.Markdown
