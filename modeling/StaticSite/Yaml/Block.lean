/-
StaticSite.Yaml.Block — nodes laid out by indentation.

The items of a list start with a dash, the entries of a mapping with a
key, all in the same column. A list or a mapping can only start where a
line starts, or after a dash or a question mark or the colon that belongs
to one: such a place is called fresh.
-/
import StaticSite.Yaml.Flow
import StaticSite.Yaml.BlockText

namespace StaticSite.Yaml

/-! ## 1. Places -/

/-- The place of a token, and whether it is fresh. -/
structure Place where
  cursor : Cursor
  fresh : Bool
  deriving DecidableEq, Repr

/-- The place of the next token. -/
def Place.next (p : Place) : Place :=
  let skipped := skipBlanks p.cursor
  ⟨skipped.stop, p.fresh || skipped.crossed⟩

/-- A node and the place after it. -/
structure Laid where
  node : Node
  stop : Place

/-- How a node is read: from the least column it may start in, whether a list may start one
column before that, the properties found before, and the place. -/
abbrev BlockReader := Nat → Bool → Properties → Place → Except Error Laid

/-- Does the text start with a sign and a gap? -/
def atSign (sign : Char) : List Char → Bool
  | [] => false
  | c :: s => c == sign && atGap s

/-- Do the nodes from a column on end here? -/
def endsBefore (column : Nat) (p : Cursor) : Bool :=
  p.rest.isEmpty || atMarker p || p.column < column

/-! ## 2. Lists -/

/-- Reads the items of a list in a column, from the place of a dash. A list in the column of
the mapping that holds it ends where that mapping goes on. -/
def readItems (block : BlockReader) (column : Nat) (inMapping : Bool) :
    Nat → Cursor → Except Error (List Node × Place)
  | 0, _ => .error .malformed
  | bound + 1, p =>
    match block (column + 1) false .none ⟨p.next, true⟩ with
    | .error e => .error e
    | .ok item =>
      let q := item.stop.next
      if endsBefore column q.cursor then .ok ([item.node], q)
      else if q.cursor.column == column && q.fresh && atSign '-' q.cursor.rest then
        match readItems block column inMapping bound q.cursor with
        | .error e => .error e
        | .ok (more, stop) => .ok (item.node :: more, stop)
      else if inMapping && q.cursor.column == column then .ok ([item.node], q)
      else .error .malformed

/-! ## 3. Mappings -/

/-- How an entry of a mapping starts, with the place after that. -/
inductive EntryHead where
  | question (after : Cursor)
  | colon (after : Cursor)
  | key (key : Node) (after : Cursor)

/-- Reads the key and the value of an entry. -/
def readBlockEntry (block : BlockReader) (column : Nat) :
    EntryHead → Except Error (Node × Laid)
  | .key key after =>
    match block (column + 1) true .none ⟨after, false⟩ with
    | .error e => .error e
    | .ok value => .ok (key, value)
  | .colon after =>
    match block (column + 1) true .none ⟨after, true⟩ with
    | .error e => .error e
    | .ok value => .ok (.empty, value)
  | .question after =>
    match block (column + 1) true .none ⟨after, true⟩ with
    | .error e => .error e
    | .ok key =>
      let q := key.stop.next
      if q.cursor.column == column && q.fresh && atSign ':' q.cursor.rest then
        match block (column + 1) true .none ⟨q.cursor.next, true⟩ with
        | .error e => .error e
        | .ok value => .ok (key.node, value)
      else .ok (key.node, ⟨.empty, q⟩)

/-- Reads the entries of a mapping in a column, of which the first has been started. -/
def readBlockEntries (block : BlockReader) (headAt : Cursor → Except Error EntryHead)
    (column : Nat) : Nat → EntryHead → Except Error (List (Node × Node) × Place)
  | 0, _ => .error .malformed
  | bound + 1, head =>
    match readBlockEntry block column head with
    | .error e => .error e
    | .ok (key, value) =>
      let q := value.stop.next
      if endsBefore column q.cursor then .ok ([(key, value.node)], q)
      else if q.cursor.column == column && q.fresh then
        match headAt q.cursor with
        | .error e => .error e
        | .ok head =>
          match readBlockEntries block headAt column bound head with
          | .error e => .error e
          | .ok (more, stop) => .ok ((key, value.node) :: more, stop)
      else .error .malformed

/-! ## 4. The start of a line -/

/-- What starts at a place, other than an item of a list. -/
inductive Head where
  | entry (head : EntryHead)
  /-- Properties alone on their line. -/
  | properties (properties : Properties) (after : Cursor)
  /-- The bar or the angle of a scalar. -/
  | text (properties : Properties) (sign : Cursor)
  | content (properties : Properties) (node : Node) (after : Cursor)

/-- Does a scalar with a header start here? -/
def atBlockText (s : List Char) : Bool :=
  s.head? == some '|' || s.head? == some '>'

/-- Tells a key from other content by the colon after it on its line. -/
def keyOrContent (properties : Properties) (start : Cursor) (node : Node) (stop : Cursor) :
    Except Error Head :=
  let after := (skipBlanks stop).stop
  if !stop.crossesLine after && atSign ':' after.rest then
    match node.withProperties? properties with
    | none => .error .malformed
    | some key =>
      if start.canBeKey after then .ok (.entry (.key key after.next))
      else .error .malformed
  else .ok (.content properties node stop)

/-- Reads what starts at the place of a token; a plain scalar may go on from a least column. In
the first version no key can be left out. -/
def readHead (setting : Setting) (flow : NodeReader) (least : Nat) (place : Place) :
    Except Error Head :=
  let p := place.cursor
  if atSign '?' p.rest then .ok (.entry (.question p.next))
  else if atSign ':' p.rest then
    if setting.version == .v11 then .error .malformed else .ok (.entry (.colon p.next))
  else
    match propertiesAt setting false p with
    | .error e => .error e
    | .ok (properties, after) =>
      let skipped := skipBlanks after
      if !properties.isNone && (skipped.crossed || skipped.stop.rest.isEmpty) then
        .ok (.properties properties after)
      else
        let q := if properties.isNone then p else skipped.stop
        if atBlockText q.rest then .ok (.text properties q)
        else if !properties.isNone && atSign ':' q.rest then
          keyOrContent properties p .empty q
        else
          match readContent? flow ⟨setting.version, true, place.fresh, none⟩ false least p q with
          | .error e => .error e
          | .ok none => .error .malformed
          | .ok (some (node, stop)) => keyOrContent properties p node stop

/-- Reads the start of an entry, and nothing else. -/
def readEntryHead (setting : Setting) (flow : NodeReader) (least : Nat) (p : Cursor) :
    Except Error EntryHead :=
  match readHead setting flow least ⟨p, true⟩ with
  | .error e => .error e
  | .ok (.entry head) => .ok head
  | .ok _ => .error .malformed

/-! ## 5. Nodes -/

/-- A node with the properties before it. -/
def lay (properties : Properties) (node : Node) (stop : Place) : Except Error Laid :=
  match node.withProperties? properties with
  | none => .error .malformed
  | some node => .ok ⟨node, stop⟩

/-- A scalar with a header, with the properties before it. A line starts after it. -/
def layText (properties : Properties) (least : Nat) (sign : Cursor) : Except Error Laid :=
  match readBlockText (sign.rest.head? == some '>') least sign with
  | .error e => .error e
  | .ok (text, stop) => lay properties (.scalar .absent false text) ⟨stop, true⟩

/-- A list with the properties before it. -/
def layItems (properties : Properties) (items : Except Error (List Node × Place)) :
    Except Error Laid :=
  match items with
  | .error e => .error e
  | .ok (items, stop) => lay properties (.seq .absent items) stop

/-- A mapping with the properties before it. -/
def layEntries (properties : Properties) (entries : Except Error (List (Node × Node) × Place)) :
    Except Error Laid :=
  match entries with
  | .error e => .error e
  | .ok (entries, stop) => lay properties (.map .absent entries) stop

/-- Reads a node outside brackets; the number bounds how deep nodes nest. Where the text goes
on in a column to the left, the node is the empty one, or what may start there. -/
def readBlockNode (setting : Setting) : Nat → BlockReader
  | 0, _, _, _, _ => .error .malformed
  | depth + 1, least, listToLeft, outer, place =>
    let block := readBlockNode setting depth
    let p := place.next
    let q := p.cursor
    let bound := q.rest.length + 1
    if endsBefore least q then
      if q.rest.isEmpty || atMarker q || q.column + 1 != least then lay outer .empty p
      else if listToLeft && p.fresh && atSign '-' q.rest then
        layItems outer (readItems block q.column true bound q)
      else if atBlockText q.rest then layText outer least q
      else lay outer .empty p
    else if atSign '-' q.rest then
      if p.fresh then layItems outer (readItems block q.column false bound q)
      else .error .malformed
    else
      let flow := readFlowNode setting bound
      match readHead setting flow least p with
      | .error e => .error e
      | .ok (.entry head) =>
        if p.fresh then
          layEntries outer (readBlockEntries block
            (readEntryHead setting flow (q.column + 1)) q.column bound head)
        else .error .malformed
      | .ok (.properties more after) =>
        match outer.join? more with
        | none => .error .malformed
        | some both => block least listToLeft both ⟨after, true⟩
      | .ok (.text more sign) =>
        match outer.join? more with
        | none => .error .malformed
        | some both => layText both least sign
      | .ok (.content more node stop) =>
        match outer.join? more with
        | none => .error .malformed
        | some both => lay both node ⟨stop, false⟩

end StaticSite.Yaml
