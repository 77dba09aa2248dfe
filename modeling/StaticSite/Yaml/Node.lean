/-
StaticSite.Yaml.Node — the tree that a document spells.

The tree keeps what the notation says about each node, its tag and its
anchor; what the node stands for is settled later, by `Node.value`.
-/

namespace StaticSite.Yaml

/-! ## 1. Nodes -/

/-- The tag of a node: none, a lone exclamation mark, or a full name. -/
inductive Tag where
  | absent
  | lone
  | named (name : List Char)
  deriving DecidableEq, Repr

/-- A node of a document. A scalar is plain if nothing quotes it. The last two constructors
are for nodes that hold themselves: `again` stands for the node of an anchor, given by its
number, inside that node; `tied` marks a list or a mapping that may come back inside itself. -/
inductive Node where
  | scalar (tag : Tag) (plain : Bool) (text : List Char)
  | seq (tag : Tag) (items : List Node)
  | map (tag : Tag) (entries : List (Node × Node))
  | alias (name : List Char)
  | anchored (name : List Char) (node : Node)
  | again (anchor : Nat)
  | tied (mark : Nat) (node : Node)
  deriving Inhabited

/-! ## 2. Properties -/

/-- What may be said in front of a node. -/
structure Properties where
  tag : Tag
  anchor : Option (List Char)
  deriving DecidableEq, Repr

namespace Properties

/-- Nothing is said. -/
def none : Properties :=
  ⟨.absent, Option.none⟩

/-- Is there anything said? -/
def isNone (a : Properties) : Bool :=
  a.tag == .absent && a.anchor.isNone

/-- Both of two tags, if at most one is there. -/
def joinTag? : Tag → Tag → Option Tag
  | .absent, t => some t
  | t, .absent => some t
  | _, _ => Option.none

/-- Both of two anchors, if at most one is there. -/
def joinAnchor? : Option (List Char) → Option (List Char) → Option (Option (List Char))
  | Option.none, b => some b
  | a, Option.none => some a
  | _, _ => Option.none

/-- What is said in two places, unless a thing is said twice. -/
def join? (a b : Properties) : Option Properties :=
  match joinTag? a.tag b.tag, joinAnchor? a.anchor b.anchor with
  | some tag, some anchor => some ⟨tag, anchor⟩
  | _, _ => Option.none

end Properties

namespace Node

/-- The node that stands where nothing is written. -/
def empty : Node :=
  .scalar .absent true []

/-- Is the node an alias? -/
def isAlias : Node → Bool
  | .alias _ => true
  | _ => false

/-- The node under a tag. -/
def withTag (tag : Tag) : Node → Node
  | .scalar _ plain text => .scalar tag plain text
  | .seq _ items => .seq tag items
  | .map _ entries => .map tag entries
  | node => node

/-- The node with its properties; an alias has none. -/
def withProperties? (a : Properties) (node : Node) : Option Node :=
  if a.isNone then some node
  else if node.isAlias then none
  else
    match a.anchor with
    | none => some (node.withTag a.tag)
    | some name => some (.anchored name (node.withTag a.tag))

end Node

end StaticSite.Yaml
