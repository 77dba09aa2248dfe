/-
StaticSite.Yaml.Alias — a tree without its aliases.

An alias is replaced by the node that its name was last given to. If that
node is still being read, it holds itself, and the tree has no end. Such a
tree is laid out a few turns down; the lists and the mappings in it are
marked first, so that one that comes back can be told (`Node.resolve`).
-/
import StaticSite.Yaml.Node
import StaticSite.Yaml.Error

namespace StaticSite.Yaml

/-! ## 1. Anchors -/

/-- An anchor: its name and, when it has been read in full, its node. -/
structure Anchor where
  name : List Char
  node : Option Node

/-- The anchors of a document so far, the last one first. The number of an anchor is how many
were there before it. -/
abbrev Anchors := List Anchor

/-- What an alias stands for. -/
def findAnchor? (name : List Char) : Anchors → Option Node
  | [] => none
  | anchor :: rest =>
    if anchor.name = name then some (anchor.node.getD (.again rest.length))
    else findAnchor? name rest

/-- The anchors, where the one with a number has been read in full. -/
def completeAnchor (number : Nat) (node : Node) : Anchors → Anchors
  | [] => []
  | anchor :: rest =>
    if rest.length = number then { anchor with node := some node } :: rest
    else anchor :: completeAnchor number node rest

/-- The node of the anchor with a number. -/
def anchorNode (number : Nat) : Anchors → Node
  | [] => .empty
  | anchor :: rest =>
    if rest.length = number then anchor.node.getD .empty else anchorNode number rest

/-! ## 2. Replacing aliases -/

mutual

/-- The node without aliases, and the anchors after it. -/
def Node.expand (anchors : Anchors) : Node → Except Error (Node × Anchors)
  | .scalar tag plain text => .ok (.scalar tag plain text, anchors)
  | .seq tag items =>
    match expandItems anchors items with
    | .error e => .error e
    | .ok (items, anchors) => .ok (.seq tag items, anchors)
  | .map tag entries =>
    match expandEntries anchors entries with
    | .error e => .error e
    | .ok (entries, anchors) => .ok (.map tag entries, anchors)
  | .alias name =>
    match findAnchor? name anchors with
    | none => .error .unknownAlias
    | some node => .ok (node, anchors)
  | .anchored name node =>
    match node.expand (⟨name, none⟩ :: anchors) with
    | .error e => .error e
    | .ok (node, more) => .ok (node, completeAnchor anchors.length node more)
  | .again anchor => .ok (.again anchor, anchors)
  | .tied mark node =>
    match node.expand anchors with
    | .error e => .error e
    | .ok (node, anchors) => .ok (.tied mark node, anchors)

/-- The items of a list without aliases. -/
def expandItems (anchors : Anchors) : List Node → Except Error (List Node × Anchors)
  | [] => .ok ([], anchors)
  | node :: rest =>
    match node.expand anchors with
    | .error e => .error e
    | .ok (node, anchors) =>
      match expandItems anchors rest with
      | .error e => .error e
      | .ok (rest, anchors) => .ok (node :: rest, anchors)

/-- The entries of a mapping without aliases. -/
def expandEntries (anchors : Anchors) :
    List (Node × Node) → Except Error (List (Node × Node) × Anchors)
  | [] => .ok ([], anchors)
  | (key, value) :: rest =>
    match key.expand anchors with
    | .error e => .error e
    | .ok (key, anchors) =>
      match value.expand anchors with
      | .error e => .error e
      | .ok (value, anchors) =>
        match expandEntries anchors rest with
        | .error e => .error e
        | .ok (rest, anchors) => .ok ((key, value) :: rest, anchors)

end

/-! ## 3. Nodes that hold themselves -/

mutual

/-- Does the node hold one that comes back? -/
def Node.comesBack : Node → Bool
  | .scalar _ _ _ => false
  | .seq _ items => itemsComeBack items
  | .map _ entries => entriesComeBack entries
  | .alias _ => false
  | .anchored _ node => node.comesBack
  | .again _ => true
  | .tied _ node => node.comesBack

/-- Does an item of a list hold a node that comes back? -/
def itemsComeBack : List Node → Bool
  | [] => false
  | node :: rest => node.comesBack || itemsComeBack rest

/-- Does a key or a value of the entries hold a node that comes back? -/
def entriesComeBack : List (Node × Node) → Bool
  | [] => false
  | (key, value) :: rest => key.comesBack || value.comesBack || entriesComeBack rest

end

mutual

/-- The node with its lists and mappings marked, from a number on, and the next number. -/
def Node.mark (n : Nat) : Node → Node × Nat
  | .scalar tag plain text => (.scalar tag plain text, n)
  | .seq tag items =>
    let (items, next) := markItems (n + 1) items
    (.tied n (.seq tag items), next)
  | .map tag entries =>
    let (entries, next) := markEntries (n + 1) entries
    (.tied n (.map tag entries), next)
  | .alias name => (.alias name, n)
  | .anchored name node =>
    let (node, next) := node.mark n
    (.anchored name node, next)
  | .again anchor => (.again anchor, n)
  | .tied mark node => (.tied mark node, n)

/-- The items of a list with their lists and mappings marked, and the next number. -/
def markItems (n : Nat) : List Node → List Node × Nat
  | [] => ([], n)
  | node :: rest =>
    let (node, next) := node.mark n
    let (rest, next) := markItems next rest
    (node :: rest, next)

/-- The entries of a mapping with their lists and mappings marked, and the next number. -/
def markEntries (n : Nat) : List (Node × Node) → List (Node × Node) × Nat
  | [] => ([], n)
  | (key, value) :: rest =>
    let (key, next) := key.mark n
    let (value, next) := value.mark next
    let (rest, next) := markEntries next rest
    ((key, value) :: rest, next)

end

mutual

/-- The node with other nodes in the place of those that come back. -/
def Node.replace (other : Nat → Node) : Node → Node
  | .scalar tag plain text => .scalar tag plain text
  | .seq tag items => .seq tag (replaceItems other items)
  | .map tag entries => .map tag (replaceEntries other entries)
  | .alias name => .alias name
  | .anchored name node => .anchored name (node.replace other)
  | .again anchor => other anchor
  | .tied mark node => .tied mark (node.replace other)

/-- The items of a list with other nodes in the place of those that come back. -/
def replaceItems (other : Nat → Node) : List Node → List Node
  | [] => []
  | node :: rest => node.replace other :: replaceItems other rest

/-- The entries of a mapping with other nodes in the place of those that come back. -/
def replaceEntries (other : Nat → Node) : List (Node × Node) → List (Node × Node)
  | [] => []
  | (key, value) :: rest =>
    (key.replace other, value.replace other) :: replaceEntries other rest

end

/-- The node without what is in it. -/
def Node.hollow : Node → Node
  | .seq tag _ => .seq tag []
  | .map tag _ => .map tag []
  | .tied mark node => .tied mark node.hollow
  | node => node

/-- The node laid out so many turns down. -/
def Node.layOut (anchors : Anchors) : Nat → Node → Node
  | 0, node => node.replace fun anchor => (anchorNode anchor anchors).hollow
  | turns + 1, node => node.replace fun anchor => (anchorNode anchor anchors).layOut anchors turns

/-- How many turns down a tree without an end is laid out. A configuration and release notes
look less far into it, and the text of what they find there takes two turns. -/
def maxTurns : Nat := 5

/-! ## 4. Whole documents -/

/-- The tree of a document without its aliases. -/
def Node.resolve (root : Node) : Except Error Node :=
  match root.expand [] with
  | .error e => .error e
  | .ok (plain, _) =>
    if !plain.comesBack then .ok plain
    else
      match (root.mark 0).1.expand [] with
      | .error e => .error e
      | .ok (node, anchors) => .ok (node.layOut anchors maxTurns)

end StaticSite.Yaml
