/-
StaticSite.Markdown.Angle — addresses, line breaks, and markup in a line.

What stands in angle brackets is an address, a mail address, or markup, in
that order; markup is kept as it is if it is well formed, and so are
references to characters.
Two spaces at the end of a line break it.
-/
import StaticSite.Markdown.Pattern
import StaticSite.Markdown.Render
import StaticSite.Markdown.EntityNames
import StaticSite.Number.Digits

namespace StaticSite.Markdown

open StaticSite.Text

/-! ## 1. Addresses -/

/-- The text in angle brackets that starts here, with no such bracket in it. -/
def inAngles? : Atoms → Option Atoms
  | .char '<' :: s =>
    let inside := s.takeWhile fun a => !(a.is '<' || a.is '>')
    if startsWith '>' (s.drop inside.length) then some inside else none
  | _ => none

/-- A character of the name of a scheme. -/
def isSchemeChar (c : Char) : Bool :=
  isLetterOrDigit c || c == '+' || c == '.' || c == '-'

/-- Does the text start with the scheme of an address: a name that starts with a letter, a colon
and two slashes? -/
def startsScheme (s : Atoms) : Bool :=
  let first := (s.head?.map (Atom.isIn isLetter)).getD false
  match s.dropWhile (Atom.isIn isSchemeChar) with
  | .char ':' :: .char '/' :: .char '/' :: _ => first
  | _ => false

/-- An address in angle brackets. -/
def autolink : Pattern := fun _ _ s =>
  match inAngles? s with
  | none => .nothing
  | some inside =>
    if startsScheme inside then
      .found [.node .link [("href", flatten inside)] (asVerbatim inside)] (inside.length + 2)
    else .nothing

/-! ## 2. Mail addresses -/

/-- The characters of a mail address. A character after a backslash keeps the marks and the
number that stand for it. -/
def mailChars : Atoms → List Char
  | [] => []
  | .escaped c :: rest =>
    '\x02' :: Number.natText c.toNat ++ '\x03' :: mailChars rest
  | .char c :: rest => c :: mailChars rest
  | .verbatim c :: rest => c :: mailChars rest
  | .markup _ :: rest => mailChars rest
  | .node _ _ _ :: rest => mailChars rest

/-- Is the text a mail address: no space, text without an exclamation mark before the last at
sign, and text after it? -/
def isMailAddress (s : Atoms) : Bool :=
  let domain := (s.reverse.takeWhile fun a => !a.is '@').reverse
  let user := s.take (s.length - domain.length - 1)
  domain.length < s.length && !domain.isEmpty && !user.isEmpty &&
    !s.any (Atom.is ' ') && !user.any (Atom.is '!')

/-- A character as a reference by its number. -/
def numbered (c : Char) : Atom :=
  .markup ('&' :: '#' :: Number.natText c.toNat ++ [';'])

/-- A character as a reference by its name, or else by its number. -/
def named (c : Char) : Atom :=
  match entityName? c with
  | some name => .markup ('&' :: name.toList ++ [';'])
  | none => numbered c

/-- The start of the address of a mail. -/
def mailScheme : List Char :=
  "mailto:".toList

/-- A mail address in angle brackets, written in references only. -/
def automail : Pattern := fun _ _ s =>
  match inAngles? s with
  | none => .nothing
  | some inside =>
    if isMailAddress inside then
      let address := mailChars (flatten inside)
      let address :=
        if mailScheme.isPrefixOf address then address.drop mailScheme.length else address
      .found [.node .link [("href", (mailScheme ++ address).map numbered)] (address.map named)]
        (inside.length + 2)
    else .nothing

/-! ## 3. Line breaks -/

/-- Two spaces and a line end. -/
def lineBreak : Pattern := fun _ _ s =>
  match s with
  | .char ' ' :: .char ' ' :: .char '\n' :: _ => .found [.node .lineBreak [] []] 3
  | _ => .nothing

/-! ## 4. Markup -/

mutual

/-- An atom as it stands inside markup: markup in it gets a backslash, as an escaped character
has. -/
def slashed : Atom → Atom
  | .char c => .char c
  | .verbatim c => .verbatim c
  | .escaped c => .markup ['\\', c]
  | .markup s => .markup ('\\' :: s)
  | .node tag attributes content => .node tag attributes (slashedAll content)

/-- A text as it stands inside markup. -/
def slashedAll : Atoms → Atoms
  | [] => []
  | a :: s => slashed a :: slashedAll s

end

/-- What was written for an atom, where elements have been read already. -/
def written (a : Atom) : List Char :=
  match slashed a with
  | .char c => [c]
  | .verbatim c => [c]
  | .escaped c => [c]
  | .markup s => s
  | .node tag attributes content => renderAtom (.node tag attributes content)

/-- Markup as it was written. -/
def writtenText (s : Atoms) : Atom :=
  .markup (s.flatMap written)

/-- A character of the name of a tag, where a slash may stand too. -/
def isTagPart (a : Atom) : Bool :=
  !(a.isBlank || ['"', '\'', '<', '>', '=', '@'].any a.is)

/-- A character of the name of an attribute. -/
def isAttributePart (a : Atom) : Bool :=
  !(a.isBlank || ['"', '\'', '<', '>', '/', '='].any a.is)

/-- A character of a value without quotes. -/
def isValuePart (a : Atom) : Bool :=
  !(a.isBlank || ['"', '\'', '<', '>', '='].any a.is)

/-- What follows the value of an attribute. -/
def afterValue? (s : Atoms) : Option Atoms :=
  match s with
  | a :: r =>
    if a.is '"' || a.is '\'' then
      let same (b : Atom) : Bool := b.char? == a.char?
      match r.dropWhile (!same ·) with
      | _ :: rest => some rest
      | [] => none
    else if isValuePart a then some (s.dropWhile isValuePart)
    else none
  | [] => none

/-- What follows the attribute that the text starts with: a name, and perhaps an equals sign and
a value. -/
def afterAttribute? (s : Atoms) : Option Atoms :=
  let rest := s.dropWhile isAttributePart
  if rest.length == s.length then none
  else
    match dropBlank rest with
    | .char '=' :: r => afterValue? (dropBlank r)
    | _ => some rest

/-- What follows a tag, from the end of its name on. Blanks stand before each attribute. The
first argument bounds the number of attributes. -/
def afterTag? : Nat → Atoms → Option Atoms
  | 0, _ => none
  | bound + 1, s =>
    match dropBlank s with
    | .char '>' :: rest => some rest
    | .char '/' :: .char '>' :: rest => some rest
    | t => if t.length == s.length then none else (afterAttribute? t).bind (afterTag? bound)

/-- What follows an end tag, from the end of its name on. After a blank anything may stand in
it. -/
def afterEndTag? (s : Atoms) : Option Atoms :=
  let inside := s.takeWhile fun a => !(a.is '<' || a.is '>')
  let closes := inside.isEmpty || (inside.head?.map Atom.isBlank).getD false
  if closes && startsWith '>' (s.drop inside.length) then some (s.drop (inside.length + 1))
  else none

/-- What follows a mark, where another mark must not come first. -/
def afterMark? (mark other : List Char) : Atoms → Option Atoms
  | [] => none
  | a :: s =>
    let at? (m : List Char) : Bool := chars? ((a :: s).take m.length) == some m
    if at? mark then some ((a :: s).drop mark.length)
    else if at? other then none
    else afterMark? mark other s

/-- What follows the markup in angle brackets that starts here: a comment, an instruction,
characters that are no markup, or a tag. The first three hold no other one of their kind. -/
def afterMarkup? (s : Atoms) : Option Atoms :=
  match s with
  | .char '<' :: .char '!' :: .char '-' :: .char '-' :: rest =>
    afterMark? "-->".toList "<!--".toList rest
  | .char '<' :: .char '?' :: rest => afterMark? "?>".toList "<?".toList rest
  | .char '<' :: .char '!' :: .char '[' :: rest =>
    let opening := "CDATA[".toList
    if chars? (rest.take opening.length) == some opening then
      afterMark? "]]>".toList "<![CDATA[".toList (rest.drop opening.length)
    else none
  | .char '<' :: rest =>
    let ends := startsWith '/' rest
    let name := if ends then rest.drop 1 else rest
    if !(name.head?.map (Atom.isIn isLetter)).getD false then none
    else if ends then afterEndTag? (name.dropWhile isTagPart)
    else afterTag? (s.length + 1) (name.dropWhile isTagPart)
  | _ => none

/-- Markup in angle brackets. -/
def inlineMarkup : Pattern := fun _ _ s =>
  match afterMarkup? s with
  | some rest =>
    let length := s.length - rest.length
    .found [writtenText (s.take length)] length
  | none => .nothing

/-- A reference to a character. -/
def characterReference : Pattern := fun _ _ s =>
  match s with
  | .char '&' :: rest =>
    let closed (front : Nat) (p : Char → Bool) : Finding :=
      let body := (rest.drop front).takeWhile (Atom.isIn p)
      if !body.isEmpty && startsWith ';' (rest.drop (front + body.length)) then
        let length := front + body.length + 2
        .found [writtenText (s.take length)] length
      else .nothing
    match rest with
    | .char '#' :: .char 'x' :: _ => closed 2 isHexChar
    | .char '#' :: _ => closed 1 isDigitChar
    | _ => closed 0 isLetterOrDigit
  | _ => .nothing

end StaticSite.Markdown
