/-
StaticSite.Yaml.Properties — anchors, aliases and tags as they are written.
-/
import StaticSite.Yaml.Cursor
import StaticSite.Yaml.Plain
import StaticSite.Yaml.Node
import StaticSite.Yaml.Error
import StaticSite.Number.Digits
import StaticSite.Text.Utf8

namespace StaticSite.Yaml

open StaticSite.Number

/-! ## 1. Anchors and aliases -/

/-- A character of the name of an anchor. -/
def isNameChar (c : Char) : Bool :=
  let n := c.toNat
  ((0x21 ≤ n && n ≤ 0x7E) || 0xA0 ≤ n) && n != 0xFEFF && !isFlowMark c

/-- Reads a name after the sign in front of it. -/
def readName (p : Cursor) : Except Error (List Char × Cursor) :=
  let name := p.next.rest.takeWhile isNameChar
  let q := p.next.skip name.length
  if name.isEmpty then .error .malformed
  else if atGap q.rest || (q.rest.head?.map isFlowMark).getD false then .ok (name, q)
  else .error .malformed

/-! ## 2. Tags -/

/-- A letter or digit of ASCII, a dash or an underscore. -/
def isHandleChar (c : Char) : Bool :=
  c.isAlphanum || c == '-' || c == '_'

/-- A character of the rest of a tag. A number sign is one since the second version. -/
def isTagChar (version : Version) (c : Char) : Bool :=
  c.isAlphanum || "-;/?:@&=+$,_.!~*'()[]%".toList.contains c || (c == '#' && version == .v12)

/-- The bytes that the text spells, where a percent sign and two digits stand for a byte. The
number counts the characters that belong to such a byte. -/
def unescapedBytes : Nat → List Char → Option (List UInt8)
  | _, [] => some []
  | passed + 1, _ :: s => unescapedBytes passed s
  | 0, c :: s =>
    if c == '%' then
      match if (s.take 2).length == 2 then readNat? 16 (s.take 2) else none with
      | some n => (unescapedBytes 2 s).map (n.toUInt8 :: ·)
      | none => none
    else (unescapedBytes 0 s).map (c.toNat.toUInt8 :: ·)

/-- The rest of a tag with its escapes read; there has to be something of it. -/
def readTagText (s : List Char) : Except Error (List Char) :=
  if s.isEmpty then .error .malformed
  else
    match unescapedBytes 0 s with
    | none => .error .malformed
    | some bytes =>
      match Text.decodeUtf8 ⟨bytes.toArray⟩ with
      | some text => .ok text.toList
      | none => .error .malformed

/-- The tag with a full name. -/
def tagOfName (name : List Char) : Tag :=
  if name = ['!'] then .lone else .named name

/-- May a tag end before this text? -/
def atTagEnd : List Char → Bool
  | [] => true
  | c :: _ => c == ' ' || isBreak c

/-- A tag and the place after it, if it may end there. -/
def endTag (tag : Tag) (stop : Cursor) : Except Error (Tag × Cursor) :=
  if atTagEnd stop.rest then .ok (tag, stop) else .error .malformed

/-- The handle that the text starts with, from its exclamation mark to the next one, which
stands after letters and digits alone. -/
def handleAt? (s : List Char) : Option (List Char) :=
  let name := s.tail.takeWhile isHandleChar
  match s.tail.drop name.length with
  | '!' :: _ => some ('!' :: name ++ ['!'])
  | _ => none

/-- Is there one more exclamation mark before the next gap? -/
def hasHandle (s : List Char) : Bool :=
  (s.tail.takeWhile fun c => !(c == ' ' || isBreak c)).contains '!'

/-- Reads the name of a tag after its handle. -/
def readTagName (setting : Setting) (handle : List Char) (p : Cursor) :
    Except Error (Tag × Cursor) :=
  let written := p.rest.takeWhile (isTagChar setting.version)
  match findHandle? handle setting.handles, readTagText written with
  | some stem, .ok name => endTag (tagOfName (stem ++ name)) (p.skip written.length)
  | _, _ => .error .malformed

/-- Reads a tag from the place of its exclamation mark. A second one right after it makes the
handle of the common types, which cannot stand alone. -/
def readTag (setting : Setting) (p : Cursor) : Except Error (Tag × Cursor) :=
  let double := p.next.rest.head? == some '!'
  let p := if double then p.next else p
  match p.next.rest with
  | '<' :: _ =>
    let q := p.skip 2
    let name := q.rest.takeWhile (isTagChar setting.version)
    let stop := q.skip name.length
    match stop.rest, readTagText name with
    | '>' :: _, .ok name => endTag (tagOfName name) stop.next
    | _, _ => .error .malformed
  | rest =>
    if atGap rest then if double then .error .malformed else endTag .lone p.next
    else if hasHandle p.rest then
      match handleAt? p.rest with
      | some handle => readTagName setting handle (p.skip handle.length)
      | none => .error .malformed
    else readTagName setting (if double then ['!', '!'] else ['!']) p.next

/-! ## 3. Both -/

/-- The place of the next token, if it is on the same line or the line does not matter. -/
def nextToken (inFlow : Bool) (p : Cursor) : Cursor :=
  if inFlow then skipFlowBlanks p else p.skip (p.rest.takeWhile (· == ' ')).length

/-- Reads one property, if one stands here. -/
def readProperty? (setting : Setting) (p : Cursor) :
    Except Error (Option (Properties × Cursor)) :=
  match p.rest with
  | '&' :: _ =>
    match readName p with
    | .error e => .error e
    | .ok (name, q) => .ok (some (⟨.absent, some name⟩, q))
  | '!' :: _ =>
    match readTag setting p with
    | .error e => .error e
    | .ok (tag, q) => .ok (some (⟨tag, none⟩, q))
  | _ => .ok none

/-- Reads the properties that stand here, and after those that have been found: at most a tag
and an anchor. Outside brackets they stand on one line. The place is that after the last. -/
def readProperties (setting : Setting) (inFlow : Bool) :
    Nat → Properties → Cursor → Cursor → Except Error (Properties × Cursor)
  | 0, _, _, _ => .error .malformed
  | bound + 1, found, stop, p =>
    match readProperty? setting p with
    | .error e => .error e
    | .ok none => .ok (found, stop)
    | .ok (some (more, q)) =>
      match found.join? more with
      | none => .error .malformed
      | some both => readProperties setting inFlow bound both q (nextToken inFlow q)

/-- Reads the properties that stand here. -/
def propertiesAt (setting : Setting) (inFlow : Bool) (p : Cursor) :
    Except Error (Properties × Cursor) :=
  readProperties setting inFlow 3 .none p p

end StaticSite.Yaml
