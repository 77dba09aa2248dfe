/-
StaticSite.Yaml.Plain — scalars without quotes.

A plain scalar is a run of words. A gap inside it is kept if it is made of
spaces; a gap that crosses a line end is folded into one space, or into
the empty lines in it.
-/
import StaticSite.Yaml.Cursor
import StaticSite.Yaml.Setting

namespace StaticSite.Yaml

/-! ## 1. Where a plain scalar starts and ends -/

/-- The brackets and the comma, which end a plain scalar inside brackets. -/
def isFlowMark (c : Char) : Bool :=
  c == ',' || c == '[' || c == ']' || c == '{' || c == '}'

/-- A character that means something at the start of a token. -/
def isIndicator (c : Char) : Bool :=
  isFlowMark c || c == '#' || c == '&' || c == '*' || c == '!' || c == '|' || c == '>' ||
    c == '\'' || c == '"' || c == '%' || c == '@' || c == '\x60'

/-- Does a plain scalar start with this text? Inside brackets, a question mark does not start
one, nor does a colon in the first version. -/
def startsPlain (version : Version) (inFlow : Bool) : List Char → Bool
  | [] => false
  | c :: s =>
    if c == '-' then !atGap s
    else if c == ':' then !(inFlow && version == .v11) && !atGap s
    else if c == '?' then !inFlow && !atGap s
    else !isGap c && !isIndicator c

/-- Does a word end before this text? Inside brackets, a question mark ends one in the first
version. -/
def endsWord (version : Version) (inFlow : Bool) : List Char → Bool
  | [] => true
  | c :: s =>
    isGap c || (c == ':' && atGap s) ||
      (inFlow && (isFlowMark c || (c == '?' && version == .v11)))

/-- The length of the word that the text starts with. -/
def wordLength (version : Version) (inFlow : Bool) : List Char → Nat
  | [] => 0
  | c :: s => if endsWord version inFlow (c :: s) then 0 else wordLength version inFlow s + 1

/-! ## 2. Folding -/

/-- How a line end and the empty lines after it are read. -/
def foldedLines (first : Char) (more : List Char) : List Char :=
  if first != '\n' then first :: more
  else if more.isEmpty then [' ']
  else more

/-- The line ends among spaces and line ends, and where they stop; none if a line starts with
a marker. -/
def emptyLines? (column : Nat) : List Char → Option (List Char × Cursor)
  | [] => some ([], ⟨[], column⟩)
  | c :: s =>
    if c == ' ' then emptyLines? (column + 1) s
    else if isBreak c then
      if atMarker ⟨s, 0⟩ then none
      else (emptyLines? (columnAfter column c) s).map fun (more, stop) =>
        (readBreak c :: more, stop)
    else some ([], ⟨c :: s, column⟩)

/-- The gap that starts here, as it is read inside a plain scalar, and where it ends; none if
a scalar cannot go on after it. -/
def plainGap? (p : Cursor) : Option (List Char × Cursor) :=
  let spaces := p.rest.takeWhile (· == ' ')
  let q := p.skip spaces.length
  match q.rest with
  | [] => if spaces.isEmpty then none else some (spaces, q)
  | c :: s =>
    if isBreak c then
      if atMarker ⟨s, 0⟩ then none
      else (emptyLines? (columnAfter q.column c) s).map fun (more, stop) =>
        (foldedLines (readBreak c) more, stop)
    else if spaces.isEmpty then none
    else some (spaces, q)

/-! ## 3. The scalar -/

/-- Does a plain scalar go on here, after a gap? -/
def goesOn (version : Version) (inFlow : Bool) (indent : Nat) (p : Cursor) : Bool :=
  (inFlow || indent ≤ p.column) && p.rest.head? != some '#' && wordLength version inFlow p.rest != 0

/-- Reads words and gaps; the first argument bounds their number. -/
def readWords (version : Version) (inFlow : Bool) (indent : Nat) : Nat → Cursor → List Char × Cursor
  | 0, p => ([], p)
  | bound + 1, p =>
    let n := wordLength version inFlow p.rest
    let word := p.rest.take n
    let stop := p.skip n
    match plainGap? stop with
    | none => (word, stop)
    | some (gap, q) =>
      if goesOn version inFlow indent q then
        let (more, stop) := readWords version inFlow indent bound q
        (word ++ gap ++ more, stop)
      else (word, stop)

/-- Reads a plain scalar. Outside brackets its lines start at a least column. -/
def readPlain (version : Version) (inFlow : Bool) (indent : Nat) (p : Cursor) : List Char × Cursor :=
  readWords version inFlow indent p.rest.length p

end StaticSite.Yaml
