/-
StaticSite.Markup.Node — trees of elements with deferred bodies.

A node is a text, a group of nodes, or an element. The body of an element
may be given outright or deferred; a deferred body is called only when
the element has no other, and then once. `Node.evaluate` notes each call
when it is made, and `Node.render` gives the markup together with their
number. An element that cannot be written ends the evaluation.
-/
import StaticSite.Action
import StaticSite.Markup.Tags

namespace StaticSite.Markup

/-! ## 1. Trees -/

/-- How an element names its tag: outright, or through the constructor of that name. -/
inductive TagRef where
  | tag (name : String)
  | shorthand (name : String)
  deriving DecidableEq, Repr

/-- A tree of elements. `content` is evaluated before the element, `deferred` when the
element asks for it. -/
inductive Node where
  | text (s : String)
  | group (nodes : List Node)
  | element (tag : TagRef) (content : Option Node) (deferred : Option Node)
      (attributes : GivenAttributes)
  deriving Inhabited

/-- The element that a call makes, with attributes out of a table and others given by name. -/
def Node.call (tag : TagRef) (content deferred : Option Node) (table named : Attributes) : Node :=
  .element tag content deferred ⟨table, named⟩

/-- Markup with the number of deferred bodies that were called for it. -/
structure Rendered where
  html : String
  calls : Nat
  deriving DecidableEq, Repr

/-- The tag that is written. -/
def TagRef.resolve : TagRef → Except ElementError String
  | .tag name => .ok name
  | .shorthand name =>
    match shorthand? name with
    | some known => .ok known
    | none => .error (.unknownShorthand name)

/-- What is written of an element before its body. Its tag is looked up before its attributes are
written. -/
def TagRef.opening (tag : TagRef) (given : GivenAttributes) : Except ElementError Opening := do
  let name ← tag.resolve
  let attributes ← given.render
  return ⟨name, attributes⟩

/-! ## 2. Evaluation -/

/-- A turn on the way from the root of a tree to one of its nodes: into a member of a group, or into
one of the two bodies that an element can be given. -/
inductive Turn where
  | member (i : Nat)
  | content
  | deferred
  deriving DecidableEq, Repr

/-- Where a node stands in a tree: the turns that lead to it. -/
abbrev Position := List Turn

/-- Evaluating a part of a tree. It notes the elements whose deferred bodies it calls, and it ends
at an element that cannot be written. -/
abbrev Evaluation (α : Type) : Type :=
  Action ElementError (List Position) α

/-- Notes that the deferred body of an element is called. -/
def noteCall (here : Position) : Evaluation Unit :=
  modify (· ++ [here])

mutual

/-- The markup of a tree that stands at a position. The content of an element comes first, then its
tag and its attributes, then a deferred body is called if there was no content. -/
def Node.evaluate (here : Position) : Node → Evaluation String
  | .text s => return s
  | .group nodes => evaluateAll here 0 nodes
  | .element tag (some content) _ attributes => do
    let body ← content.evaluate (here ++ [.content])
    let opening ← tag.opening attributes
    return renderElement opening (some body)
  | .element tag none (some deferred) attributes => do
    let opening ← tag.opening attributes
    noteCall here
    let body ← deferred.evaluate (here ++ [.deferred])
    return renderElement opening (some body)
  | .element tag none none attributes => do
    let opening ← tag.opening attributes
    return renderElement opening none

/-- The markup of the members of a group from an index on, from left to right. -/
def evaluateAll (here : Position) (i : Nat) : List Node → Evaluation String
  | [] => return ""
  | node :: rest => do
    let first ← node.evaluate (here ++ [.member i])
    let others ← evaluateAll here (i + 1) rest
    return first ++ others

end

/-! ## 3. Rendering -/

/-- The markup of a tree, with the number of deferred bodies that were called for it. -/
def Node.render (node : Node) : Except ElementError Rendered :=
  match (node.evaluate []).perform [] with
  | (.ok html, calls) => .ok ⟨html, calls.length⟩
  | (.error e, _) => .error e

/-! ## Small facts -/

theorem perform_noteCall (here : Position) (calls : List Position) :
    (noteCall here).perform calls = (.ok (), calls ++ [here]) :=
  rfl

theorem perform_opening {tag : TagRef} {given : GivenAttributes} {opening : Opening}
    (h : tag.opening given = .ok opening) (calls : List Position) :
    (liftM (tag.opening given) : Evaluation Opening).perform calls = (.ok opening, calls) := by
  rw [h]
  rfl

end StaticSite.Markup
