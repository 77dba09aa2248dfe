/-
StaticSite.Markup.Element — elements written as text.

An element is a tag with attributes and a body. It is written with a
closing tag when it has a body, even an empty one, and in the self-closing
form `<tag ... />` when it has none. The body is markup already and goes in
as it is; attribute values are escaped.

Not all attributes can be written: an integer can have too many digits for
a text, and two names stand for something else when an attribute is given
by name. Attributes with texts always can.
-/
import StaticSite.Markup.Escape
import StaticSite.Number.Numeral

namespace StaticSite.Markup

/-! ## 1. Attributes -/

/-- The value of an attribute. An absent one leaves the attribute out, as a switch that is
off does; a switch that is on writes the bare name. -/
inductive AttrValue where
  | absent
  | switch (on : Bool)
  | text (s : String)
  | int (n : Int)
  deriving DecidableEq, Repr

/-- The attributes of an element in the order in which they are written. -/
abbrev Attributes := List (String × AttrValue)

/-- The name that an attribute is written with: `klass` and `class_` stand for `class`. -/
def attributeName (name : String) : String :=
  if name == "klass" || name == "class_" then "class" else name

/-- Why an element cannot be written. -/
inductive ElementError where
  /-- There is no constructor of the name. -/
  | unknownShorthand (name : String)
  /-- An attribute given by name has the name of a parameter. -/
  | parameterName (name : String)
  /-- An integer has more digits than a text of it may have. -/
  | tooManyDigits
  deriving DecidableEq, Repr

/-- An attribute with a value in quotes, with the space before it. -/
def valuedAttribute (name value : String) : String :=
  " " ++ attributeName name ++ "=\"" ++ escape value ++ "\""

/-- One attribute with the space before it, or nothing if its value leaves it out. -/
def renderAttribute (name : String) : AttrValue → Except ElementError String
  | .absent => .ok ""
  | .switch false => .ok ""
  | .switch true => .ok (" " ++ attributeName name)
  | .text s => .ok (valuedAttribute name s)
  | .int n =>
    if Number.isWritable n then .ok (valuedAttribute name (String.ofList (Number.intText n)))
    else .error .tooManyDigits

/-- All attributes, each with the space before it. -/
def renderAttributes : Attributes → Except ElementError String
  | [] => .ok ""
  | (name, value) :: rest => do
    let first ← renderAttribute name value
    let others ← renderAttributes rest
    return first ++ others

/-- Attributes with texts, each with the space before it. -/
def renderTexts : List (String × String) → String
  | [] => ""
  | (name, value) :: rest => valuedAttribute name value ++ renderTexts rest

/-- The attributes with an entry put under a name: in the place of the entry with that
name, or at the end. -/
def Attributes.put (name : String) (value : AttrValue) : Attributes → Attributes
  | [] => [(name, value)]
  | (n, v) :: rest =>
    if n == name then (n, value) :: rest else (n, v) :: Attributes.put name value rest

/-- A list of attributes with each name once: at the place of its first entry, with the value
of its last. -/
def Attributes.ofEntries (entries : List (String × AttrValue)) : Attributes :=
  entries.foldl (fun acc (name, value) => acc.put name value) []

/-- The attributes that an element is given: those out of a table, and those given by name. -/
structure GivenAttributes where
  table : Attributes := []
  named : Attributes := []
  deriving DecidableEq, Repr

/-- The names that an attribute cannot be given by: they stand for the deferred body and for the
table. -/
def parameterNames : List String := ["render", "attrs"]

/-- The attributes of an element as they are written: those out of the table come first. -/
def GivenAttributes.render (given : GivenAttributes) : Except ElementError String :=
  match given.named.find? fun entry => parameterNames.contains entry.1 with
  | some entry => .error (.parameterName entry.1)
  | none => renderAttributes (given.table ++ given.named)

/-! ## 2. Elements -/

/-- What is written of an element before its body: its tag, and its attributes with the space
before each. -/
structure Opening where
  tag : String
  attributes : String
  deriving DecidableEq, Repr

/-- An element with or without a body. -/
def renderElement (opening : Opening) : Option String → String
  | none => "<" ++ opening.tag ++ opening.attributes ++ " />"
  | some body =>
    "<" ++ opening.tag ++ opening.attributes ++ ">" ++ body ++ "</" ++ opening.tag ++ ">"

/-- An element with text attributes and a body. -/
def element (tag : String) (attributes : List (String × String)) (body : String) : String :=
  renderElement ⟨tag, renderTexts attributes⟩ (some body)

/-- An element with text attributes and no body. -/
def emptyElement (tag : String) (attributes : List (String × String)) : String :=
  renderElement ⟨tag, renderTexts attributes⟩ none

end StaticSite.Markup
