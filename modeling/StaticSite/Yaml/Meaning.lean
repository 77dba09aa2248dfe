/-
StaticSite.Yaml.Meaning — the value that a tree stands for.

Scalars are read by their text or their tag, mappings with their merge keys
(`Node.value`). Of several faults the least nested one counts, and of these
the first.
-/
import StaticSite.Yaml.Alias
import StaticSite.Yaml.Scalar
import StaticSite.Value.SetOrder

namespace StaticSite.Yaml

/-! ## 1. Tags -/

/-- The types that a tag can ask for. -/
inductive TagType where
  | null
  | bool
  | int
  | float
  | stamp
  | str
  | binary
  | seq
  | map
  /-- A mapping whose entries are given in a list. -/
  | omap
  /-- A list of pairs. -/
  | pairs
  | set
  | merge
  | equals
  deriving DecidableEq, Repr

/-- The type that the name of a tag asks for. -/
def tagType? (name : List Char) : Option TagType :=
  if !commonTag.isPrefixOf name then none
  else
    match String.ofList (name.drop commonTag.length) with
    | "null" => some .null
    | "bool" => some .bool
    | "int" => some .int
    | "float" => some .float
    | "timestamp" => some .stamp
    | "str" => some .str
    | "binary" => some .binary
    | "seq" => some .seq
    | "map" => some .map
    | "omap" => some .omap
    | "pairs" => some .pairs
    | "set" => some .set
    | "merge" => some .merge
    | "value" => some .equals
    | _ => none

/-- Is the type one of lists, mappings or sets? -/
def TagType.isCollection : TagType → Bool
  | .seq | .map | .omap | .pairs | .set => true
  | _ => false

/-- What a text stands for as a scalar of a type. -/
def TagType.meaning (version : Version) (text : List Char) : TagType → Except Error Meaning
  | .null => .ok (.value .null)
  | .bool => (truthOf text).map .value
  | .int => (readInteger version text).map fun n => .value (.int n)
  | .float => (readFloat version text).map fun x => .value (.float x)
  | .stamp =>
    match stampText? text with
    | some written => written.value.map .value
    | none => .error .wrongKind
  | .str => .ok (.value (stringValue text))
  | .binary => (readBytes text).map .value
  | .merge => .ok .merge
  | .equals => .ok .equals
  | .seq | .map | .omap | .pairs | .set => .error .wrongKind

/-- What a scalar stands for. -/
def scalarMeaning (version : Version) (tag : Tag) (plain : Bool) (text : List Char) :
    Except Error Meaning :=
  match tag with
  | .absent => if plain then plainMeaning version text else .ok (.value (stringValue text))
  | .lone => plainMeaning version text
  | .named name =>
    match tagType? name with
    | none => .error .unknownTag
    | some t => t.meaning version text

/-- The value that a scalar stands for, if it is no sign. -/
def Meaning.value? : Meaning → Except Error Value
  | .value v => .ok v
  | .merge | .equals => .error .unknownTag

/-- The type of a list or a mapping, which is the one it is written as if its tag does not ask
for another. -/
def collectionType (tag : Tag) (written : TagType) : Except Error TagType :=
  match tag with
  | .absent | .lone => .ok written
  | .named name =>
    match tagType? name with
    | none => .error .unknownTag
    | some t => .ok t

/-- Is the type that a tag asks for one of lists, mappings or sets? -/
def asksForCollection (tag : Tag) : Bool :=
  match tag with
  | .named name => (tagType? name).any TagType.isCollection
  | _ => false

/-! ## 2. Faults -/

/-- An error and how deep it is nested. -/
structure Fault where
  depth : Nat
  error : Error
  deriving DecidableEq, Repr

/-- The less deeply nested of two faults, the first one if they are level. -/
def Fault.least (a b : Fault) : Fault :=
  if b.depth < a.depth then b else a

/-- How a tree is read: by a version of the notation, and as part of a key or not. A list, a
mapping or a set is filled after the others on its level have been looked at, but in a key it
is filled at once. -/
structure Mode where
  version : Version
  inKey : Bool
  deriving DecidableEq, Repr

/-- The mode for what a key is made of. -/
def Mode.forKey (mode : Mode) : Mode :=
  { mode with inKey := true }

/-- What comes of filling a list, a mapping or a set, seen from its own level. -/
def nested {α : Type} (mode : Mode) : Except Fault α → Except Fault α
  | .ok v => .ok v
  | .error f => .error ⟨if mode.inKey then f.depth else f.depth + 1, f.error⟩

/-- An error at the outermost level. -/
def atTop {α : Type} : Except Error α → Except Fault α
  | .ok v => .ok v
  | .error e => .error ⟨0, e⟩

/-- A first member and those after it, or the fault that counts. -/
def join {α β γ : Type} (f : α → β → γ) (first : Except Fault α) (rest : Except Fault β) :
    Except Fault γ :=
  match first, rest with
  | .ok v, .ok vs => .ok (f v vs)
  | .error a, .ok _ => .error a
  | .ok _, .error b => .error b
  | .error a, .error b => .error (a.least b)

/-- A fault that comes up when a list, a mapping or a set is filled. -/
def atFilling {α : Type} (mode : Mode) (e : Error) : Except Fault α :=
  nested mode (.error ⟨0, e⟩)

/-- The value of a scalar. -/
def scalarValue (mode : Mode) (tag : Tag) (plain : Bool) (text : List Char) :
    Except Fault Value :=
  if asksForCollection tag then atFilling mode .wrongKind
  else
    match scalarMeaning mode.version tag plain text with
    | .error e => .error ⟨0, e⟩
    | .ok meaning => atTop meaning.value?

/-- The value of a text as a scalar of a type, if there is a text. -/
def textValue (version : Version) (t : TagType) : Option (List Char) → Except Fault Value
  | none => .error ⟨0, .wrongKind⟩
  | some text =>
    match t, t.meaning version text with
    | .stamp, _ => .error ⟨0, .wrongKind⟩
    | _, .error e => .error ⟨0, e⟩
    | _, .ok meaning => atTop meaning.value?

/-! ## 3. Signs -/

/-- The signs that mean something as keys. -/
inductive KeySign where
  | merge
  | equals
  deriving DecidableEq, Repr

/-- The sign that a tag asks for. -/
def signOfTag? (tag : Tag) : Option KeySign :=
  match tag with
  | .named name =>
    match tagType? name with
    | some .merge => some .merge
    | some .equals => some .equals
    | _ => none
  | _ => none

/-- The sign that a node is as a key. -/
def Node.sign? (version : Version) : Node → Option KeySign
  | .scalar tag plain text =>
    match scalarMeaning version tag plain text with
    | .ok .merge => some .merge
    | .ok .equals => some .equals
    | _ => none
  | .seq tag _ => signOfTag? tag
  | .map tag _ => signOfTag? tag
  | .anchored _ node => node.sign? version
  | .tied _ node => node.sign? version
  | _ => none

mutual

/-- The text of a scalar. A mapping has the text of the value under the equals sign. -/
def Node.text? (version : Version) : Node → Option (List Char)
  | .scalar _ _ text => some text
  | .map _ entries => entriesText? version entries
  | .anchored _ node => node.text? version
  | .tied _ node => node.text? version
  | _ => none

/-- The text of the value under the equals sign. -/
def entriesText? (version : Version) : List (Node × Node) → Option (List Char)
  | [] => none
  | (key, value) :: rest =>
    if key.sign? version == some .equals then value.text? version
    else entriesText? version rest

end

/-! ## 4. Entries -/

/-- A list as a key is fixed. A mapping or a set cannot be a key. -/
def keyOf (v : Value) : Except Error Value :=
  match v with
  | .map _ | .listedMap _ | .set _ => .error .mappingAsKey
  | .list items => .ok (.fixedList items)
  | .tied _ v => keyOf v
  | v => .ok v

/-- The key and the value of an entry, as far as they can be read. -/
structure EntryValue where
  key : Except Fault Value
  value : Except Fault Value

/-- The entries of a mapping: those that are merged into it, and its own. -/
structure MapParts where
  merged : List EntryValue
  own : List EntryValue

/-- All entries, those that are merged first. -/
def MapParts.all (parts : MapParts) : List EntryValue :=
  parts.merged ++ parts.own

/-- The fault of a key that is looked for in a table: a list that holds a list, a mapping or a
set, or, if it is asked for, a key that was seen before. -/
def checkKey (once : Bool) (seen : List Value) (key : Value) : Except Fault Unit :=
  if !key.isHashable then .error ⟨0, .nestedKey⟩
  else if once && seen.any (Value.sameKey key) then .error ⟨0, .duplicateKey⟩
  else .ok ()

/-- The entries with their values. A key is looked for in the table after its value is read. -/
def readAll (once : Bool) (seen : List Value) :
    List EntryValue → Except Fault (List (Value × Value))
  | [] => .ok []
  | entry :: rest =>
    match entry.key with
    | .error f => .error ⟨0, f.error⟩
    | .ok key =>
      let value := join (fun v _ => (key, v)) entry.value (checkKey once seen key)
      join List.cons value (readAll once (key :: seen) rest)

/-- The entries put into a table one after the other, a later one in the place of an earlier
one with the same key. -/
def tableOf (entries : List (Value × Value)) : List (Value × Value) :=
  entries.foldl (fun table (key, value) => Value.putKey key value table) []

/-- The entries that the parts make. A key may be there twice only if something is merged. -/
def MapParts.entries (parts : MapParts) : Except Fault (List (Value × Value)) :=
  (readAll parts.merged.isEmpty [] parts.all).map tableOf

/-- The mapping that its parts make. -/
def MapParts.map (parts : MapParts) : Except Fault Value :=
  parts.entries.map .map

/-- The set of the keys of the parts. -/
def MapParts.set (parts : MapParts) : Except Fault Value :=
  parts.entries.map fun entries => .set (Value.setOrder (entries.map Prod.fst))

/-! ## 5. Entries in a list -/

/-- The single entry of an item, or the fault of an item that is no mapping with one entry. -/
abbrev ListedEntry := Except Error EntryValue

/-- The key of an entry in a list. It is looked for among the others before it is filled, so
that a list or a mapping is unfit whatever is in it. -/
def listedKey (seen : List Value) : Except Fault Value → Except Fault Value
  | .error f => .error ⟨0, if f.depth = 0 then f.error else .unfitKey⟩
  | .ok key =>
    if !key.isHashable then .error ⟨0, .unfitKey⟩
    else if seen.any (Value.sameKey key) then .error ⟨0, .repeatedKey⟩
    else .ok key

/-- The entries of a mapping that are given in a list; no key may be there twice. -/
def readListed (seen : List Value) : List ListedEntry → Except Fault (List (Value × Value))
  | [] => .ok []
  | .error e :: _ => .error ⟨0, e⟩
  | .ok entry :: rest =>
    match listedKey seen entry.key with
    | .error f => .error f
    | .ok key => join (fun v more => (key, v) :: more) entry.value (readListed (key :: seen) rest)

/-- The pairs that are given in a list. -/
def readPairs : List ListedEntry → Except Fault (List Value)
  | [] => .ok []
  | .error e :: _ => .error ⟨0, e⟩
  | .ok entry :: rest =>
    join List.cons (join (fun key v => .fixedList [key, v]) entry.key entry.value) (readPairs rest)

/-! ## 6. Values -/

/-- What a node stands for as a key: the sign of a merge, or a value. -/
inductive KeyMeaning where
  | merge
  | key (v : Except Fault Value)

/-- What a node stands for as a key, where its value is given. -/
def Node.asKey (version : Version) (node : Node) (value : Except Fault Value) : KeyMeaning :=
  match node.sign? version with
  | some .merge => .merge
  | some .equals => .key (textValue version .str (node.text? version))
  | none =>
    match value with
    | .ok v => .key (atTop (keyOf v))
    | .error f => .key (.error f)

mutual

/-- The value of a node without aliases. -/
def Node.value (mode : Mode) : Node → Except Fault Value
  | .scalar tag plain text => scalarValue mode tag plain text
  | .seq tag items =>
    match collectionType tag .seq with
    | .error e => .error ⟨0, e⟩
    | .ok .seq => nested mode ((itemValues mode items).map .list)
    | .ok .omap => nested mode ((readListed [] (listedEntries mode items)).map .listedMap)
    | .ok .pairs => nested mode ((readPairs (listedEntries mode items)).map .list)
    | .ok t => if t.isCollection then atFilling mode .wrongKind else .error ⟨0, .wrongKind⟩
  | .map tag entries =>
    match collectionType tag .map with
    | .error e => .error ⟨0, e⟩
    | .ok .map =>
      match mapParts mode false entries with
      | .ok parts => nested mode parts.map
      | .error e => atFilling mode e
    | .ok .set =>
      match mapParts mode false entries with
      | .ok parts => nested mode parts.set
      | .error e => atFilling mode e
    | .ok t =>
      if t.isCollection then atFilling mode .wrongKind
      else textValue mode.version t (entriesText? mode.version entries)
  | .alias _ => .error ⟨0, .unknownAlias⟩
  | .anchored _ node => node.value mode
  | .again _ => .error ⟨0, .unknownAlias⟩
  | .tied mark node => (node.value mode).map (.tied mark)

/-- The values of the items of a list. -/
def itemValues (mode : Mode) : List Node → Except Fault (List Value)
  | [] => .ok []
  | node :: rest => join List.cons (node.value mode) (itemValues mode rest)

/-- The single entry of a mapping. -/
def Node.soleEntry (mode : Mode) : Node → ListedEntry
  | .map _ [(key, value)] => .ok ⟨key.value mode, value.value mode⟩
  | .anchored _ node => node.soleEntry mode
  | .tied _ node => node.soleEntry mode
  | _ => .error .wrongKind

/-- The single entries of the items of a list. -/
def listedEntries (mode : Mode) : List Node → List ListedEntry
  | [] => []
  | node :: rest => node.soleEntry mode :: listedEntries mode rest

/-- The entries that a mapping brings along when it is merged into another one. -/
def Node.mergedMap (mode : Mode) : Node → Except Error (List EntryValue)
  | .map _ entries =>
    match mapParts mode false entries with
    | .error e => .error e
    | .ok parts => .ok parts.all
  | .anchored _ node => node.mergedMap mode
  | .tied _ node => node.mergedMap mode
  | _ => .error .badMerge

/-- The entries that the value of a merge key brings along: those of a mapping, or those of the
mappings of a list, of which the last comes first. -/
def Node.mergedEntries (mode : Mode) : Node → Except Error (List EntryValue)
  | .map _ entries =>
    match mapParts mode false entries with
    | .error e => .error e
    | .ok parts => .ok parts.all
  | .seq _ items => mergedItems mode items
  | .anchored _ node => node.mergedEntries mode
  | .tied _ node => node.mergedEntries mode
  | _ => .error .badMerge

/-- The entries that the mappings of a list bring along. -/
def mergedItems (mode : Mode) : List Node → Except Error (List EntryValue)
  | [] => .ok []
  | node :: rest =>
    match node.mergedMap mode, mergedItems mode rest with
    | .ok first, .ok more => .ok (more ++ first)
    | .error e, _ => .error e
    | _, .error e => .error e

/-- The parts of a mapping. Only one merge key may bring entries along; the flag tells whether
one has. -/
def mapParts (mode : Mode) (found : Bool) : List (Node × Node) → Except Error MapParts
  | [] => .ok ⟨[], []⟩
  | (keyNode, valueNode) :: rest =>
    match keyNode.asKey mode.version (keyNode.value mode.forKey) with
    | .merge =>
      if found then .error .duplicateKey
      else
        match valueNode.mergedEntries mode with
        | .error e => .error e
        | .ok merged =>
          match mapParts mode (!merged.isEmpty) rest with
          | .error e => .error e
          | .ok parts => .ok ⟨merged ++ parts.merged, parts.own⟩
    | .key key =>
      match mapParts mode found rest with
      | .error e => .error e
      | .ok parts => .ok ⟨parts.merged, ⟨key, valueNode.value mode⟩ :: parts.own⟩

end

end StaticSite.Yaml
