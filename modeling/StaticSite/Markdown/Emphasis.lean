/-
StaticSite.Markdown.Emphasis — asterisks and low lines around text.

One sign on each side gives emphasis, two give strong emphasis, and longer
runs of signs give elements inside each other. The text is read from left
to right: a run that stands after some text closes runs of the same sign
before it, as far as they fit; what is left of it, or a run that closes
nothing, waits for its own end if text follows. Signs that find no partner
stay in the text.
-/
import StaticSite.Markdown.Pattern
import StaticSite.Text.Word

namespace StaticSite.Markdown

open StaticSite.Text

/-! ## 1. Runs -/

/-- Neighbouring signs of one kind: how many of them have no partner yet, how many they are in
the text, and whether they may stand before and after the text of an element. A run that has
closed an element may stand before another one already if text follows. -/
structure SignRun where
  sign : Char
  length : Nat
  whole : Nat
  opens : Bool
  closes : Bool
  reopens : Bool
  deriving DecidableEq, Repr

/-- Is the atom an asterisk or a low line? -/
def isSign (a : Atom) : Bool :=
  a.is '*' || a.is '_'

/-- Do two neighbours belong together: as the same sign, or both as text? -/
def sameKind (a b : Atom) : Bool :=
  (a.is '*' && b.is '*') || (a.is '_' && b.is '_') || (!isSign a && !isSign b)

/-- Is there a neighbour, and is it not blank? -/
def touchesText (neighbour : Option Atom) : Bool :=
  (neighbour.map fun a => !a.isBlank).getD false

/-- Is the neighbour a character of a word? -/
def touchesWord (neighbour : Option Atom) : Bool :=
  (neighbour.map (Atom.isIn isWordChar)).getD false

/-- The run that a part of the text is, from the part and its neighbours. Low lines inside a
word are no sign of emphasis. -/
def signRun? (before : Option Atom) (part : Atoms) (after : Option Atom) : Option SignRun :=
  let opens := touchesText after
  let closes := touchesText before
  let run (sign : Char) (opens closes : Bool) : SignRun :=
    ⟨sign, part.length, part.length, opens, closes, touchesText after⟩
  if startsWith '*' part then some (run '*' opens closes)
  else if startsWith '_' part then
    some (run '_' (opens && !touchesWord before) (closes && !touchesWord after))
  else none

/-- May the run stand on both sides of an element? -/
def SignRun.isEither (r : SignRun) : Bool :=
  r.opens && r.closes

/-- So many signs of a run as text. -/
def SignRun.signs (r : SignRun) (count : Nat) : Atoms :=
  List.replicate count (.char r.sign)

/-- The signs of a run without partners as text. -/
def SignRun.literal (r : SignRun) : Atoms :=
  r.signs r.length

/-! ## 2. Openings -/

/-- Whether signs of an opening have partners already: none, some in the run that is being read,
or some in a run before that. -/
inductive Share where
  | untouched
  | current
  | former
  deriving DecidableEq, Repr

/-- A run that waits for its end, and the text after it so far. A run that has closed elements
itself is a remainder. An opening may be barred from being closed. Signs that have closed a part
of the opening, after another element, may slip into what they have made. -/
structure Opening where
  run : SignRun
  content : Atoms
  remainder : Bool
  share : Share
  barred : Bool
  slipping : Nat

namespace Opening

/-- Is the atom an element of emphasis? -/
def isEmphasis : Atom → Bool
  | .node .emphasis _ _ => true
  | .node .strong _ _ => true
  | _ => false

/-- An opening as text. A remainder that holds elements, none of which it has opened, is lost with
the text before the first of them, which is there twice. -/
def literal (o : Opening) : Atoms :=
  let elements := o.content.dropWhile fun a => !isEmphasis a
  if o.remainder && o.share == .untouched && !elements.isEmpty then
    elements.take 1 ++ elements
  else o.run.literal ++ o.content

/-- The text inside the element that an opening becomes. If signs slip, they go with the text
after them to the end of the first element, provided that another one follows. -/
def inside (o : Opening) : Atoms :=
  match o.slipping, o.content with
  | n + 1, .node tag attributes first :: rest =>
    let text := rest.takeWhile fun a => !isEmphasis a
    let elements := rest.drop text.length
    if elements.isEmpty then o.content
    else .node tag attributes (first ++ o.run.signs (n + 1) ++ text) :: elements
  | _, content => content

/-- What is left of an opening after some of its signs have made an element. The signs of the run
that has closed it may slip if it has closed another opening before. -/
def shorten (o : Opening) (used : Nat) (element : Atom) (again : Bool) : Opening :=
  { o with
    run := { o.run with length := o.run.length - used }
    content := [element]
    share := if o.share == .former then .former else .current
    slipping := if again then used else 0 }

/-- The opening for the runs after the one that is being read. -/
def settle (o : Opening) : Opening :=
  { o with share := if o.share == .current then .former else o.share }

/-- Has a run before the one that is being read closed a part of the opening, which could be an
end itself? -/
def isTorn (o : Opening) : Bool :=
  o.run.isEither && o.share == .former

end Opening

/-! ## 3. Partners -/

namespace SignRun

/-- Does a run fit an opening that it is to close? A run that can be nothing but an end fits all
runs that can be nothing but a start, and other ones up to its own length. A run that could be a
start fits openings up to its length, save for one sign and two unless one of them is what is left
of three; a whole run of one sign or two fits part of a longer opening. -/
def fits (closer : SignRun) (o : Opening) : Bool :=
  let opener := o.run
  if !closer.opens then
    !(opener.isEither || o.remainder) || opener.length ≤ closer.length
  else if opener.length ≤ closer.length then
    !(opener.length == 1 && closer.length == 2 && opener.whole != 3 && closer.whole != 3)
  else
    !opener.isEither && closer.length == closer.whole && 3 ≤ opener.length && closer.length < 3

/-- How many signs of an opening and of a run make the innermost element: two, unless there is
but one or an odd one would be left of three. A run that does not fit a longer opening takes two
all the same; an opening that is torn gives one. -/
def used (closer : SignRun) (o : Opening) : Nat :=
  let shorter := min o.run.length closer.length
  if o.isTorn then 1
  else if closer.opens && !closer.fits o && closer.length < o.run.length then 2
  else if 2 ≤ shorter && shorter != 3 then 2
  else 1

/-- Which of the openings a run closes, counted from the innermost one. A run that could be a
start closes the nearest run of its sign, if it fits any. Another one closes the nearest that it
fits, or else the innermost of all. -/
def partner? (closer : SignRun) (openings : List Opening) : Option Nat :=
  let usable (o : Opening) := o.run.sign == closer.sign && !o.barred
  let fitting (o : Opening) := usable o && closer.fits o
  if closer.opens then
    if openings.any fitting then openings.findIdx? usable else none
  else
    (openings.findIdx? fitting).or
      (if (openings.head?.map usable).getD false then some 0 else none)

end SignRun

/-! ## 4. Reading -/

/-- What has been read: the text before the first opening, and the openings, the innermost one
first. -/
structure OpenText where
  before : Atoms
  openings : List Opening

namespace OpenText

/-- Nothing has been read. -/
def empty : OpenText :=
  ⟨[], []⟩

/-- More text. -/
def addText (t : OpenText) (s : Atoms) : OpenText :=
  match t.openings with
  | [] => { t with before := t.before ++ s }
  | o :: around => { t with openings := { o with content := o.content ++ s } :: around }

/-- The text at the end, where all openings are text. -/
def finish (t : OpenText) : Atoms :=
  t.before ++ t.openings.reverse.flatMap Opening.literal

/-- A run while it closes openings: what has been read, what is left of the run, whether it has
closed anything, and whether it has taken the character after it for a sign. -/
structure Closing where
  text : OpenText
  run : SignRun
  begun : Bool
  reaches : Bool

/-- Makes one element with a run, if it closes an opening. The other openings inside become text.
What is left of the opening waits on. -/
def closeOne? (c : Closing) : Option Closing :=
  match c.run.partner? c.text.openings with
  | none => none
  | some index =>
    match c.text.openings.drop index with
    | [] => none
    | o :: around =>
      let used := c.run.used o
      let dropped := (c.text.openings.take index).reverse.flatMap Opening.literal
      let tag := if used == 2 then Tag.strong else Tag.emphasis
      let element := Atom.node tag [] (o.inside ++ dropped)
      let run := { c.run with length := c.run.length - used }
      let text :=
        if o.run.length ≤ used then OpenText.addText { c.text with openings := around } [element]
        else { c.text with openings := o.shorten used element c.begun :: around }
      some ⟨text, run, true, c.run.length < used⟩

/-- Makes elements with a run as long as it closes openings. The first argument bounds their
number. -/
def closeAll : Nat → Closing → Closing
  | 0, c => c
  | bound + 1, c =>
    if c.run.length == 0 then c
    else
      match closeOne? c with
      | none => c
      | some c => closeAll bound c

/-- A run that has found no partner: one that can be nothing but an end bars the openings of its
sign. -/
def bar (t : OpenText) (r : SignRun) : OpenText :=
  let close (o : Opening) := { o with barred := o.barred || o.run.sign == r.sign }
  if r.opens then t else { t with openings := t.openings.map close }

/-- What is left of a run after it has closed what it can: an opening or text. -/
def addRest (t : OpenText) (r : SignRun) (remainder : Bool) : OpenText :=
  if r.length == 0 then t
  else if r.opens || (remainder && r.reopens) then
    { t with openings := ⟨r, [], remainder, .untouched, false, 0⟩ :: t.openings }
  else t.addText r.literal

/-- More signs: they close what they can, and the rest of them is an opening or text. The second
part of the result tells whether they have taken the character after them. -/
def addRun (t : OpenText) (r : SignRun) : OpenText × Bool :=
  if !r.closes then (t.addRest r false, false)
  else
    let c := closeAll r.length ⟨t, r, false, false⟩
    let text := if c.begun then c.text else c.text.bar r
    let settled := { text with openings := text.openings.map Opening.settle }
    (settled.addRest c.run c.begun, c.reaches)

/-- The parts of a text one after the other. The first argument is the atom before them, the
second tells whether the first part has lost its first atom. -/
def addParts (before : Option Atom) (taken : Bool) : List Atoms → OpenText → OpenText
  | [], t => t
  | part :: rest, t =>
    let free := if taken then part.drop 1 else part
    match signRun? before free (rest.head?.bind List.head?) with
    | some r =>
      let (t, taken) := t.addRun r
      addParts part.getLast? taken rest t
    | none => addParts part.getLast? false rest (t.addText free)

end OpenText

/-! ## 5. The text -/

/-- The text with an element for every pair of runs. -/
def emphasize (s : Atoms) : Atoms :=
  (OpenText.empty.addParts none false (s.splitBy sameKind)).finish

end StaticSite.Markdown
