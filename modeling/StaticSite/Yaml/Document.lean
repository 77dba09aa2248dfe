/-
StaticSite.Yaml.Document — a file with at most one document.

Directives may come first, which a line of three dashes has to close. Three
dots may end the document. A file with nothing but blanks and comments
holds no document.
-/
import StaticSite.Yaml.Block

namespace StaticSite.Yaml

/-! ## 1. Directives -/

/-- What the directives have said: the version with its two numbers, and the handles. -/
structure Directives where
  version : Option (Nat × Nat)
  handles : Handles
  deriving DecidableEq, Repr

namespace Directives

/-- Nothing has been said. -/
def none : Directives :=
  ⟨Option.none, []⟩

/-- What holds for the document. Handles that are not given have their usual meaning. A version
that cannot be read is taken for the second one. -/
def setting (known : Directives) : Setting :=
  ⟨if known.version = some (1, 1) then .v11 else .v12, known.handles ++ defaultHandles⟩

/-- The version that decides which characters the stem of a handle can have. Earlier ones than
the first are like the first. -/
def stemVersion (known : Directives) : Version :=
  match known.version with
  | some (_, minor) => if minor ≤ 1 then .v11 else .v12
  | Option.none => .v12

/-- Can the version be read? -/
def isKnownVersion (known : Directives) : Bool :=
  match known.version with
  | some (_, minor) => minor == 1 || minor == 2
  | Option.none => true

end Directives

/-- The place after the spaces here. -/
def skipSpaces (p : Cursor) : Cursor :=
  p.skip (p.rest.takeWhile (· == ' ')).length

/-- The two numbers of a version. The first has to be one. -/
def versionOf? (s : List Char) : Option (Nat × Nat) :=
  let (major, rest) := s.span (· != '.')
  match Number.readNat? 10 major, Number.readNat? 10 rest.tail with
  | some major, some minor => if major == 1 then some (major, minor) else none
  | _, _ => none

/-- The handle that a text is, if it is one. -/
def isHandle (s : List Char) : Bool :=
  match s with
  | '!' :: rest =>
    rest.isEmpty || (rest.getLast? == some '!' && rest.dropLast.all isHandleChar)
  | _ => false

/-- A character of the name of a directive. -/
def isDirectiveChar (c : Char) : Bool :=
  isHandleChar c || c == ':' || c == '.'

/-- Reads the version after the name of its directive, up to the next line. It can be given
once. -/
def readVersion (known : Directives) (p : Cursor) : Except Error (Directives × Cursor) :=
  let text := p.rest.takeWhile (!isGap ·)
  match versionOf? text, restOfLine? (p.skip text.length) with
  | some version, some stop =>
    if known.version.isSome then .error .malformed
    else .ok ({ known with version := some version }, stop)
  | _, _ => .error .malformed

/-- Reads a handle and what it stands for, up to the next line. A handle can be given once. -/
def readHandle (known : Directives) (p : Cursor) : Except Error (Directives × Cursor) :=
  let handle := p.rest.takeWhile (!isGap ·)
  let q := skipSpaces (p.skip handle.length)
  let stem := q.rest.takeWhile (isTagChar known.stemVersion)
  let after := q.skip stem.length
  match restOfLine? after, readTagText stem with
  | some stop, .ok _ =>
    if isHandle handle && atTagEnd after.rest && (findHandle? handle known.handles).isNone then
      .ok ({ known with handles := (handle, stem) :: known.handles }, stop)
    else .error .malformed
  | _, _ => .error .malformed

/-- Reads a directive from the place of its percent sign, up to the next line. -/
def readDirective (known : Directives) (p : Cursor) : Except Error (Directives × Cursor) :=
  let name := p.next.rest.takeWhile isDirectiveChar
  let q := p.next.skip name.length
  if name.isEmpty || !atTagEnd q.rest then .error .malformed
  else if name = "YAML".toList then readVersion known (skipSpaces q)
  else if name = "TAG".toList then readHandle known (skipSpaces q)
  else
    match restOfLine? (q.skip (q.rest.takeWhile (!isBreak ·)).length) with
    | some stop => .ok (known, stop)
    | none => .error .malformed

/-- Reads the directives; the first argument bounds their number. Tells whether there was one.
The place after them is fresh if a line ends between it and the last one. -/
def readDirectives : Nat → Bool → Directives → Cursor →
    Except Error (Bool × Directives × Place)
  | 0, _, _, _ => .error .malformed
  | bound + 1, any, known, p =>
    let skipped := skipBlanks p
    let q := skipped.stop
    if q.column == 0 && q.rest.head? == some '%' then
      match readDirective known q with
      | .error e => .error e
      | .ok (known, stop) => readDirectives bound true known stop
    else .ok (any, known, ⟨q, !any || skipped.crossed⟩)

/-! ## 2. The document -/

/-- A line of three dashes. -/
def atDashes (p : Cursor) : Bool :=
  atMarker p && p.rest.head? == some '-'

/-- A line of three dots. -/
def atDots (p : Cursor) : Bool :=
  atMarker p && p.rest.head? == some '.'

/-- The place after the line of three dots that may stand here. In the first version more of them
may follow; the first argument bounds their number. -/
def skipDots (version : Version) : Nat → Cursor → Cursor
  | 0, p => p
  | bound + 1, p =>
    if !atDots p then p
    else
      let q := (skipBlanks (p.skip 3)).stop
      if version == .v11 then skipDots version bound q else q

/-- Reads the root node and checks that nothing but three dots follows. -/
def readRoot (setting : Setting) (start : Place) : Except Error Node :=
  match readBlockNode setting (start.cursor.rest.length + 2) 0 false .none start with
  | .error e => .error e
  | .ok root =>
    let q := root.stop.next.cursor
    let stop := skipDots setting.version (q.rest.length + 1) q
    if stop.rest.isEmpty then .ok root.node else .error .malformed

/-- Can the first sign, word or property of a document be read? -/
def startsReadably (setting : Setting) (start : Place) : Bool :=
  let p := start.cursor
  if p.rest.isEmpty || atMarker p || p.rest.head?.any isFlowMark then true
  else if atSign '-' p.rest || atSign '?' p.rest || atSign ':' p.rest then start.fresh
  else if atBlockText p.rest then (readBlockText false 0 p).isOk
  else
    match readProperty? setting p, readLeaf? setting.version false 0 p with
    | .ok (some _), _ => true
    | .ok none, .ok (some _) => true
    | _, _ => false

/-- The fault of a document whose version cannot be read, unless its start is at fault. -/
def versionFault (setting : Setting) (start : Place) : Error :=
  if startsReadably setting start then .unknownVersion else .malformed

/-- What a document holds after its directives; the flag tells whether there were any. -/
def readAfterDirectives (setting : Setting) (any : Bool) (p : Cursor) :
    Except Error (Option Node) :=
  if atDashes p then
    match readRoot setting ⟨p.skip 3, false⟩ with
    | .error e => .error e
    | .ok root => .ok (some root)
  else if any then .error .malformed
  else if p.rest.isEmpty then .ok none
  else if atDots p then .error .malformed
  else
    match readRoot setting ⟨p, true⟩ with
    | .error e => .error e
    | .ok root => .ok (some root)

/-- A file with its document. -/
structure Reading where
  setting : Setting
  root : Option Node

/-- Reads a file. -/
def readFile (s : List Char) : Except Error Reading :=
  if !s.all isAllowed then .error .malformed
  else
    let s := if s.head? == some byteOrderMark then s.tail else s
    match readDirectives (s.length + 1) false .none ⟨s, 0⟩ with
    | .error e => .error e
    | .ok (any, known, start) =>
      if !known.isKnownVersion then .error (versionFault known.setting start)
      else
        match readAfterDirectives known.setting any start.cursor with
        | .error e => .error e
        | .ok root => .ok ⟨known.setting, root⟩

end StaticSite.Yaml
