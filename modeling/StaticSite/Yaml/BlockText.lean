/-
StaticSite.Yaml.BlockText — scalars that keep their lines.

A header (a bar or an angle, and what to do with the last line ends and
how far the text is indented) is followed by indented lines. After a bar
every line end is kept; after an angle a line end between two lines that
start with a word is folded.
-/
import StaticSite.Yaml.Plain
import StaticSite.Yaml.Error
import StaticSite.Number.Digits

namespace StaticSite.Yaml

open StaticSite.Number

/-! ## 1. The header -/

/-- What is done with the line ends after the text: one is left, none, or all. -/
inductive Chomping where
  | clip
  | strip
  | keep
  deriving DecidableEq, Repr

/-- What the header says. -/
structure BlockHeader where
  chomping : Chomping
  indent : Option Nat
  deriving DecidableEq, Repr

/-- The chomping that a sign asks for. -/
def chompingOf? (c : Char) : Option Chomping :=
  if c == '+' then some .keep else if c == '-' then some .strip else none

/-- The indentation that a digit asks for. -/
def indentOf? (c : Char) : Option Nat :=
  if '1' ≤ c && c ≤ '9' then digitValue c else none

/-- Reads the signs of a header, and tells how many there are. -/
def readHeader (s : List Char) : BlockHeader × Nat :=
  match s with
  | [] => (⟨.clip, none⟩, 0)
  | c :: s =>
    let second := s.head?
    match chompingOf? c, indentOf? c with
    | some chomping, _ =>
      match second.bind indentOf? with
      | some indent => (⟨chomping, some indent⟩, 2)
      | none => (⟨chomping, none⟩, 1)
    | none, some indent =>
      match second.bind chompingOf? with
      | some chomping => (⟨chomping, some indent⟩, 2)
      | none => (⟨.clip, some indent⟩, 1)
    | none, none => (⟨.clip, none⟩, 0)

/-- The start of the next line, if nothing but spaces and a comment stands before it. -/
def restOfLine? (p : Cursor) : Option Cursor :=
  let q := p.skip (p.rest.takeWhile (· == ' ')).length
  let q := if q.rest.head? == some '#' then q.skip (q.rest.takeWhile (!isBreak ·)).length else q
  match q.rest with
  | [] => some q
  | c :: _ => if isBreak c then some q.next else none

/-! ## 2. Indentation -/

/-- Lines of spaces before a text: their line ends, the column of the first of these, the
largest column among the spaces, and where the lines stop. -/
structure LeadingLines where
  lineEnds : List Char
  first : Option Nat
  widest : Nat
  stop : Cursor
  deriving DecidableEq, Repr

/-- The lines of spaces that the text starts with. -/
def leadingLines (column widest : Nat) : List Char → LeadingLines
  | [] => ⟨[], none, widest, ⟨[], column⟩⟩
  | c :: s =>
    if c == ' ' then leadingLines (column + 1) (max widest (column + 1)) s
    else if isBreak c then
      let more := leadingLines (columnAfter column c) widest s
      { more with lineEnds := readBreak c :: more.lineEnds, first := some column }
    else ⟨[], none, widest, ⟨c :: s, column⟩⟩

/-- Is a later one of the lines indented more than the first one is, if that is indented? -/
def LeadingLines.isUneven (lines : LeadingLines) : Bool :=
  lines.first.any fun first => first != 0 && first < lines.widest

/-- Line ends, with no more spaces between them than the indentation, and where they stop. -/
def linesWithin (indent column : Nat) : List Char → List Char × Cursor
  | [] => ([], ⟨[], column⟩)
  | c :: s =>
    if c == ' ' && column < indent then linesWithin indent (column + 1) s
    else if isBreak c then
      let (more, stop) := linesWithin indent (columnAfter column c) s
      (readBreak c :: more, stop)
    else ([], ⟨c :: s, column⟩)

/-! ## 3. The lines -/

/-- The lines of a scalar: the text up to the last line, the line end after it, the empty lines
after that, and where they stop. -/
structure BlockLines where
  text : List Char
  lineEnd : List Char
  trailing : List Char
  stop : Cursor
  deriving DecidableEq, Repr

/-- Does the text start with a word? -/
def startsWord : List Char → Bool
  | [] => true
  | c :: _ => c != ' ' && c != '\t'

/-- What stands between two lines: the line end, unless it is folded. -/
def jointOf (folded : Bool) (line lineEnd trailing next : List Char) : List Char :=
  if folded && lineEnd == ['\n'] && startsWord line && startsWord next then
    if trailing.isEmpty then [' '] else []
  else lineEnd

/-- Reads the lines of a scalar after some line ends; the first argument bounds their number.
In a scalar without indentation a marker ends them. -/
def readLines (folded : Bool) (indent : Nat) (atRoot : Bool) :
    Nat → List Char → Cursor → BlockLines
  | 0, breaks, p => ⟨[], [], breaks, p⟩
  | bound + 1, breaks, p =>
    if p.column == indent && !p.rest.isEmpty then
      let line := p.rest.takeWhile (!isBreak ·)
      let after := p.skip line.length
      let lineEnd := (after.rest.take 1).map readBreak
      let (trailing, q) := linesWithin indent after.next.column after.next.rest
      if (atRoot && atMarker q) || q.column != indent || q.rest.isEmpty then
        ⟨breaks ++ line, lineEnd, trailing, q⟩
      else
        let joint := jointOf folded p.rest lineEnd trailing q.rest
        let more := readLines folded indent atRoot bound trailing q
        { more with text := breaks ++ line ++ joint ++ more.text }
    else ⟨[], [], breaks, p⟩

/-- The text of the lines with the last line ends as the header asks for. -/
def BlockLines.chomped (lines : BlockLines) : Chomping → List Char
  | .clip => lines.text ++ lines.lineEnd
  | .strip => lines.text
  | .keep => lines.text ++ lines.lineEnd ++ lines.trailing

/-- Reads a scalar from the place of its bar or angle. Its lines start at a least column,
which is zero for the root of a document. -/
def readBlockText (folded : Bool) (least : Nat) (p : Cursor) :
    Except Error (List Char × Cursor) :=
  let (header, signs) := readHeader p.next.rest
  let p := p.next.skip signs
  if !atGap p.rest then .error .malformed
  else
    match restOfLine? p with
    | none => .error .malformed
    | some p =>
      let done (lines : BlockLines) := Except.ok (lines.chomped header.chomping, lines.stop)
      match header.indent with
      | some n =>
        let indent := max least 1 + n - 1
        let (breaks, q) := linesWithin indent p.column p.rest
        done (readLines folded indent false p.rest.length breaks q)
      | none =>
        let front := leadingLines p.column 0 p.rest
        if front.isUneven then .error .malformed
        else
          done (readLines folded (max least front.widest) (least == 0) p.rest.length
            front.lineEnds front.stop)

end StaticSite.Yaml
