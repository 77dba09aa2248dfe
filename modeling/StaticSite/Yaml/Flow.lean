/-
StaticSite.Yaml.Flow — nodes in brackets.

A node inside brackets is an alias, a scalar, a list in square brackets or a
mapping in braces. Line ends and columns do not matter there. An entry of a
list may be a pair, which is a mapping with that entry.
-/
import StaticSite.Yaml.Quoted
import StaticSite.Yaml.Properties

namespace StaticSite.Yaml

/-! ## 1. Leaves -/

/-- Reads an alias or a scalar, if one stands here. -/
def readLeaf? (version : Version) (inFlow : Bool) (indent : Nat) (p : Cursor) :
    Except Error (Option (Node × Cursor)) :=
  match p.rest with
  | '*' :: _ =>
    match readName p with
    | .error e => .error e
    | .ok (name, q) => .ok (some (.alias name, q))
  | '"' :: _ =>
    match readQuoted true p with
    | .error e => .error e
    | .ok (text, q) => .ok (some (.scalar .absent false text, q))
  | '\'' :: _ =>
    match readQuoted false p with
    | .error e => .error e
    | .ok (text, q) => .ok (some (.scalar .absent false text, q))
  | rest =>
    if startsPlain version inFlow rest then
      let (text, q) := readPlain version inFlow indent p
      .ok (some (.scalar .absent true text, q))
    else .ok none

/-! ## 2. Places inside brackets -/

/-- Where a node inside brackets stands. -/
structure FlowPlace where
  version : Version
  /-- Are the nearest brackets around it those of a list? -/
  inList : Bool
  /-- Can the node be a key, from where it stands? -/
  atEntry : Bool
  /-- The start of the nearest node around it that was in the place of a key. -/
  around : Option Cursor
  deriving DecidableEq, Repr

namespace FlowPlace

/-- The place of the nodes of a list or a mapping that starts here. -/
def inside (place : FlowPlace) (inList : Bool) (start : Cursor) : FlowPlace :=
  { place with inList, atEntry := true, around := if place.atEntry then some start else place.around }

/-- The same place for what is no key. -/
def past (place : FlowPlace) : FlowPlace :=
  { place with atEntry := false }

/-- Does the sign between key and value stand here? In a list a gap has to follow it, but not
in the first version. -/
def atColon (place : FlowPlace) : List Char → Bool
  | ':' :: s => place.version == .v11 || !place.inList || atGap s
  | _ => false

/-- The closing bracket of the list or the mapping. -/
def closing (place : FlowPlace) : Char :=
  if place.inList then ']' else '}'

/-- Does an entry end here? -/
def atEntryEnd (place : FlowPlace) (s : List Char) : Bool :=
  s.head? == some ',' || s.head? == some place.closing

/-- Is a colon after the sign, which ends at the first place, another sign? In a mapping it is,
if it was clear after the sign that nothing around it is a key. -/
def atSecondColon (place : FlowPlace) (p q : Cursor) : Bool :=
  !place.inList && q.rest.head? == some ':' && !place.around.any fun start => start.canBeKey p

end FlowPlace

/-! ## 3. Pairs -/

/-- How a node inside brackets is read. -/
abbrev NodeReader := FlowPlace → Cursor → Except Error (Node × Cursor)

/-- Reads the value after the sign, which may be left out. -/
def readValue (node : NodeReader) (place : FlowPlace) (p : Cursor) :
    Except Error (Node × Cursor) :=
  let q := skipFlowBlanks p
  if place.atEntryEnd q.rest then .ok (.empty, q)
  else if place.atSecondColon p q then .error .malformed
  else node place.past q

/-- Reads the sign and the value after a key. Without them the value is left out. -/
def readPairValue (node : NodeReader) (place : FlowPlace) (key : Node) (p : Cursor) :
    Except Error (Node × Option Node × Cursor) :=
  let q := skipFlowBlanks p
  if place.atColon q.rest then
    match readValue node place q.next with
    | .error e => .error e
    | .ok (value, stop) => .ok (key, some value, stop)
  else .ok (key, some .empty, q)

/-- Reads an entry: a node, or a key and its value. In the first version a key is left out after
a question mark only. -/
def readEntry (node : NodeReader) (place : FlowPlace) (p : Cursor) :
    Except Error (Node × Option Node × Cursor) :=
  match p.rest with
  | '?' :: _ =>
    let q := skipFlowBlanks p.next
    if place.atColon q.rest || place.atEntryEnd q.rest then
      readPairValue node place .empty q
    else
      match node place.past q with
      | .error e => .error e
      | .ok (key, stop) => readPairValue node place key stop
  | rest =>
    if !place.inList && rest.head? == some ':' then
      if place.version == .v11 then .error .malformed else readPairValue node place .empty p
    else
      match node place p with
      | .error e => .error e
      | .ok (key, stop) =>
        let q := skipFlowBlanks stop
        if place.atColon q.rest then
          if p.canBeKey q then readPairValue node place key q else .error .malformed
        else .ok (key, none, q)

/-- The item of a list that an entry makes. -/
def itemOf (key : Node) : Option Node → Node
  | none => key
  | some value => .map .absent [(key, value)]

/-- The entries of a list or a mapping, from the place after its bracket or after a comma. -/
def readEntries (node : NodeReader) (place : FlowPlace) :
    Nat → Cursor → Except Error (List (Node × Option Node) × Cursor)
  | 0, _ => .error .malformed
  | bound + 1, p =>
    let q := skipFlowBlanks p
    if q.rest.head? == some place.closing then .ok ([], q.next)
    else
      match readEntry node place q with
      | .error e => .error e
      | .ok (key, value, stop) =>
        let r := skipFlowBlanks stop
        if r.rest.head? == some ',' then
          match readEntries node place bound r.next with
          | .error e => .error e
          | .ok (more, stop) => .ok ((key, value) :: more, stop)
        else if r.rest.head? == some place.closing then .ok ([(key, value)], r.next)
        else .error .malformed

/-! ## 4. Nodes -/

/-- Reads a list, a mapping or a leaf, if one stands here. Its properties, if it has any, start
at the first place. -/
def readContent? (node : NodeReader) (place : FlowPlace) (inFlow : Bool) (indent : Nat)
    (start p : Cursor) : Except Error (Option (Node × Cursor)) :=
  match p.rest with
  | '[' :: s =>
    match readEntries node (place.inside true start) (s.length + 1) p.next with
    | .error e => .error e
    | .ok (entries, stop) =>
      .ok (some (.seq .absent (entries.map fun (key, value) => itemOf key value), stop))
  | '{' :: s =>
    match readEntries node (place.inside false start) (s.length + 1) p.next with
    | .error e => .error e
    | .ok (entries, stop) =>
      .ok (some (.map .absent (entries.map fun (key, value) => (key, value.getD .empty)), stop))
  | _ => readLeaf? place.version inFlow indent p

/-- Puts properties on what was read, which may be nothing if there are any. -/
def withProperties (properties : Properties) (stop : Cursor) :
    Option (Node × Cursor) → Except Error (Node × Cursor)
  | none =>
    if properties.isNone then .error .malformed
    else
      match Node.empty.withProperties? properties with
      | some node => .ok (node, stop)
      | none => .error .malformed
  | some (node, stop) =>
    match node.withProperties? properties with
    | some node => .ok (node, stop)
    | none => .error .malformed

/-- What follows the properties of a node inside brackets, if anything does. In a mapping the
sign between key and value may follow at once. -/
def readAfterProperties? (node : NodeReader) (place : FlowPlace) (properties : Properties)
    (start p : Cursor) : Except Error (Option (Node × Cursor)) :=
  if !properties.isNone && !place.inList && p.rest.head? == some ':' then .ok none
  else readContent? node place true 0 start p

/-- Reads a node inside brackets; the number bounds how deep brackets nest. -/
def readFlowNode (setting : Setting) : Nat → NodeReader
  | 0, _, _ => .error .malformed
  | depth + 1, place, p =>
    if atMarker p then .error .malformed
    else
      match propertiesAt setting true p with
      | .error e => .error e
      | .ok (properties, stop) =>
        let q := if properties.isNone then p else skipFlowBlanks stop
        match readAfterProperties? (readFlowNode setting depth) place properties p q with
        | .error e => .error e
        | .ok content => withProperties properties stop content

end StaticSite.Yaml
