/-
StaticSite.Markdown.LineForm — what a line can be.

Each function looks at one line, or at the first lines of a block, and
tells whether it has a form that means something: a heading, a rule, an
item of a list, a quotation, the definition of a reference.
-/
import StaticSite.Markdown.Block
import StaticSite.Markdown.Source
import StaticSite.Text.DecimalDigit
import StaticSite.Text.Lowercase

namespace StaticSite.Markdown

open StaticSite.Text

/-! ## 1. Indentation -/

/-- Is the text indented as a block in another one? -/
def isIndented (s : Atoms) : Bool :=
  tabWidth ≤ leadingSpaces s

/-- The line after at most three spaces. -/
def dropShortIndent (s : Atoms) : Option Atoms :=
  let n := leadingSpaces s
  if n < tabWidth then some (s.drop n) else none

/-- The lines with that much indentation taken off where there is as much. -/
def unindent (width : Nat) (s : Atoms) : Atoms :=
  ofLines ((linesOf s).map fun line => if width ≤ leadingSpaces line then line.drop width else line)

/-- The indented and blank lines that the lines start with, without indentation, and the rest. -/
def takeIndented : List Atoms → List Atoms × List Atoms
  | [] => ([], [])
  | line :: rest =>
    if isIndented line then
      let (front, rest) := takeIndented rest
      (line.drop tabWidth :: front, rest)
    else if allBlank line then
      let (front, rest) := takeIndented rest
      ([] :: front, rest)
    else ([], line :: rest)

/-- The parts of a text between empty lines. -/
def splitBlocks : Atoms → List Atoms
  | [] => [[]]
  | [a] => [[a]]
  | a :: b :: s =>
    if a.is '\n' && b.is '\n' then [] :: splitBlocks s
    else
      match splitBlocks (b :: s) with
      | [] => [[a]]
      | part :: parts => (a :: part) :: parts

/-! ## 2. Headings and rules -/

/-- The text of a heading up to the number signs that close it. A backslash takes the next
character with it, and cannot end the line. -/
def headingText? : Atoms → Option Atoms
  | [] => some []
  | a :: s =>
    if (a :: s).all (Atom.is '#') then some []
    else if a.is '\\' then
      match s with
      | [] => none
      | b :: s => (headingText? s).map fun text => a :: b :: text
    else (headingText? s).map fun text => a :: text

/-- The level and the text of a heading that starts with number signs. -/
def hashHeading? (line : Atoms) : Option (Nat × Atoms) :=
  let signs := (line.takeWhile (Atom.is '#')).length
  if signs == 0 then none
  else
    let level := min signs 6
    (headingText? (line.drop level)).map fun text => (level, trim text)

/-- Is the line an underline of this sign? -/
def isUnderlineOf (sign : Char) (line : Atoms) : Bool :=
  startsWith sign line && (line.dropWhile (Atom.is sign)).all (Atom.is ' ')

/-- The level that a line below a title gives it: the first for equals signs, the second for
dashes. -/
def underlineLevel? (line : Atoms) : Option Nat :=
  if isUnderlineOf '=' line then some 1
  else if isUnderlineOf '-' line then some 2
  else none

/-- Do the signs that are left make a rule, after a number of signs and spaces? No more than two
spaces may stand between two signs. -/
def isRuleTail (sign : Char) (signs spaces : Nat) : Atoms → Bool
  | [] => 3 ≤ signs
  | a :: s =>
    if a.is sign then spaces ≤ 2 && isRuleTail sign (signs + 1) 0 s
    else if a.is ' ' then isRuleTail sign signs (spaces + 1) s
    else false

/-- Is the line a rule? -/
def isRule (line : Atoms) : Bool :=
  match dropShortIndent line with
  | some (.char c :: s) =>
    (c == '-' || c == '_' || c == '*') && isRuleTail c 1 0 s
  | _ => false

/-! ## 3. Items -/

/-- The text of an item after its mark, which at least one space follows. -/
def itemText? (s : Atoms) : Option Atoms :=
  let n := leadingSpaces s
  if n == 0 then none else some (s.drop n)

/-- The text after a bullet. -/
def afterBullet? (s : Atoms) : Option Atoms :=
  match s with
  | .char c :: s => if c == '*' || c == '+' || c == '-' then itemText? s else none
  | _ => none

/-- The digits of a number with a dot, and the text after it. -/
def afterNumber? (s : Atoms) : Option (List Char × Atoms) :=
  let digits := s.takeWhile (Atom.isIn isDecimalDigit)
  match s.drop digits.length with
  | .char '.' :: rest =>
    if digits.isEmpty then none
    else (itemText? rest).map fun text => (digits.filterMap Atom.char?, text)
  | _ => none

/-- The number and the text of an item of such a list. -/
def itemOf? (list : Tag) (line : Atoms) : Option (List Char × Atoms) :=
  match dropShortIndent line with
  | none => none
  | some s =>
    if list = .numbers then afterNumber? s else (afterBullet? s).map fun text => ([], text)

/-- Is the line an item of some list, indented by one level? -/
def isInnerItem (line : Atoms) : Bool :=
  let n := leadingSpaces line
  tabWidth ≤ n && n < 2 * tabWidth &&
    ((afterBullet? (line.drop n)).isSome || (afterNumber? (line.drop n)).isSome)

/-- One more line for the items read so far, the last one first. -/
def addLine (list : Tag) (items : List Atoms) (line : Atoms) : List Atoms :=
  match itemOf? list line, items with
  | some (_, text), _ => text :: items
  | none, [] => [line]
  | none, item :: rest =>
    if isInnerItem line && !isIndented item then line :: item :: rest
    else (item ++ .char '\n' :: line) :: rest

/-- The items of a list: an item starts at a mark or, if it is not part of an indented one, at
an indented mark. -/
def itemsOf (list : Tag) (block : Atoms) : List Atoms :=
  ((linesOf block).foldl (addLine list) []).reverse

/-! ## 4. Quotations -/

/-- The text of a quoted line. -/
def quoted? (line : Atoms) : Option Atoms :=
  match dropShortIndent line with
  | some (.char '>' :: s) => some (if startsWith ' ' s then s.drop 1 else s)
  | _ => none

/-- A line of a quotation without its mark. -/
def unquote (line : Atoms) : Atoms :=
  match chars? (trim line) with
  | some ['>'] => []
  | _ => (quoted? line).getD line

/-! ## 5. References -/

/-- The rest of a line without the spaces at its end, and what follows the line. -/
def splitLine (s : Atoms) : Atoms × Atoms :=
  (s.takeWhile (!Atom.is '\n' ·), s.dropWhile (!Atom.is '\n' ·))

/-- The title that fills the rest of a line, in quotes or in parentheses. -/
def titleLine? (line : Atoms) : Option Atoms :=
  let line := (line.reverse.dropWhile (Atom.is ' ')).reverse
  match line, line.getLast? with
  | .char o :: inner, some (.char c) =>
    let closes := ((o == '"' || o == '\'') && c == o) || (o == '(' && c == ')')
    if closes && !inner.isEmpty then some inner.dropLast else none
  | _, _ => none

/-- What may follow the target of a reference: nothing, or a title on this line or the next.
The second part of the result is the text after that. -/
def referenceTail? (s : Atoms) : Option (Option Atoms × Atoms) :=
  let s := s.dropWhile (Atom.is ' ')
  let (line, rest) := splitLine s
  let here : Option (Option Atoms × Atoms) :=
    if line.isEmpty then some (none, rest)
    else (titleLine? line).map fun title => (some title, rest)
  match s with
  | .char '\n' :: r =>
    let (next, rest) := splitLine (r.dropWhile (Atom.is ' '))
    if next.isEmpty then some (none, rest)
    else
      match titleLine? next with
      | some title => some (some title, rest)
      | none => here
  | _ => here

/-- Finds the longest target, of at most so many characters, after which the tail of a
reference follows. -/
def target? (s : Atoms) : Nat → Option (Atoms × Option Atoms × Atoms)
  | 0 => none
  | n + 1 =>
    match referenceTail? (s.drop (n + 1)) with
    | some (title, rest) => some (s.take (n + 1), title, rest)
    | none => target? s n

/-- The target without the angle brackets around it. -/
def bareTarget (s : Atoms) : Atoms :=
  ((s.dropWhile (Atom.is '<')).reverse.dropWhile (Atom.is '>')).reverse

/-- The reference that is defined where a line starts, and the text after the definition. -/
def referenceAt? (s : Atoms) : Option (Reference × Atoms) :=
  match dropShortIndent s with
  | some (.char '[' :: s) =>
    let isLabelChar (a : Atom) : Bool := !(a.is '[' || a.is ']')
    let label := s.takeWhile isLabelChar
    match s.drop label.length with
    | .char ']' :: .char ':' :: rest =>
      let rest := rest.dropWhile (Atom.is ' ')
      let rest := if startsWith '\n' rest then rest.drop 1 else rest
      let rest := rest.dropWhile (Atom.is ' ')
      let word := rest.takeWhile (!Atom.isIn isBlank ·)
      match chars? (trim label), target? rest word.length with
      | some name, some (target, title, rest) =>
        let title := title.bind fun t => if t.isEmpty then none else some t
        some (⟨lower name, bareTarget target, title⟩, rest)
      | _, _ => none
    | _ => none
  | _ => none

/-- The first reference that is defined in a block, with the text before and after it. -/
def findDefinition? (before : Atoms) (atStart : Bool) :
    Atoms → Option (Atoms × Reference × Atoms)
  | [] => none
  | a :: s =>
    match if atStart then referenceAt? (a :: s) else none with
    | some (reference, after) => some (before.reverse, reference, after)
    | none => findDefinition? (a :: before) (a.is '\n') s

end StaticSite.Markdown
