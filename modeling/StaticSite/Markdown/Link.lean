/-
StaticSite.Markdown.Link — links and images.

The text stands in brackets. The place it leads to stands in parentheses
after it, or is that of a reference, whose label stands in brackets after it
or is the text itself.
-/
import StaticSite.Markdown.Pattern
import StaticSite.Text.Lowercase

namespace StaticSite.Markdown

open StaticSite.Text

/-! ## 1. Brackets -/

/-- The text up to the bracket that closes an open one, and what follows. The number counts
the brackets inside. -/
def bracketed? (depth : Nat) : Atoms → Option (Atoms × Atoms)
  | [] => none
  | a :: s =>
    if a.is ']' then
      match depth with
      | 0 => some ([], s)
      | depth + 1 => (bracketed? depth s).map fun (text, rest) => (a :: text, rest)
    else
      (bracketed? (if a.is '[' then depth + 1 else depth) s).map fun (text, rest) =>
        (a :: text, rest)

/-- The text in the bracket of a link or an image that starts here, and what follows. An
exclamation mark makes the difference. -/
def opening? (image : Bool) (before s : Atoms) : Option (Atoms × Atoms) :=
  if image then
    match s with
    | .char '!' :: .char '[' :: s => bracketed? 0 s
    | _ => none
  else
    match s with
    | .char '[' :: s => if endsWith '!' before then none else bracketed? 0 s
    | _ => none

/-! ## 2. Targets in parentheses -/

/-- Where a link leads, and its title. -/
structure Target where
  place : Atoms
  title : Option Atoms

/-- The text without quotes around it. -/
def dequote (s : Atoms) : Atoms :=
  let quotedBy (c : Char) : Bool := startsWith c s && ((s.getLast?.map (Atom.is c)).getD false)
  if quotedBy '"' || quotedBy '\'' then (s.drop 1).dropLast else s

/-- A blank character as a space. -/
def blankToSpace (a : Atom) : Atom :=
  if a.isBlank then .char ' ' else a

/-- A target whose parts have been found. -/
def Target.ofParts (place : Atoms) (title : Option Atoms) : Target :=
  ⟨trim (flatten place), title.map fun t => (dequote (flatten (trim t))).map blankToSpace⟩

/-- The text up to a character, and what follows it. -/
def upTo? (c : Char) : Atoms → Option (Atoms × Atoms)
  | [] => none
  | a :: s => if a.is c then some ([], s) else (upTo? c s).map fun (front, rest) => (a :: front, rest)

/-- The text after a closing parenthesis that blanks may precede. -/
def afterParen? (s : Atoms) : Option Atoms :=
  match dropBlank s with
  | .char ')' :: rest => some rest
  | _ => none

/-- A target in angle brackets, perhaps with a title in quotes, and what follows. -/
def angleTarget? (s : Atoms) : Option (Target × Atoms) :=
  match s with
  | .char '<' :: r =>
    match upTo? '>' r with
    | none => none
    | some (place, rest) =>
      if place.any (Atom.is '<') then none
      else
        match afterParen? rest with
        | some rest => some (.ofParts place none, rest)
        | none =>
          match dropBlank rest with
          | .char c :: r =>
            if c == '"' || c == '\'' then
              match upTo? c r with
              | none => none
              | some (title, rest) =>
                (afterParen? rest).map fun rest => (.ofParts place (some title), rest)
            else none
          | _ => none
  | _ => none

/-- A quote that was met: its character, the place after it, and the place after the last one
like it. -/
structure Quote where
  sign : Char
  start : Nat
  stop : Option Nat
  deriving DecidableEq, Repr

/-- Is the quote closed, and by the last character that is no space? -/
def Quote.closedBy (quote : Option Quote) (last : Option Char) : Bool :=
  match quote with
  | some q => q.stop.isSome && last == some q.sign
  | none => false

/-- The search for the parenthesis that closes a target. Parentheses are counted until a quote
is met; from then on only the fallback is, which is where the target ends if the quote turns out
to be no title. Two kinds of quotes are followed. -/
structure Search where
  depth : Nat
  fallbackDepth : Nat
  fallback : Option Nat
  quote : Option Quote
  other : Option Quote
  last : Option Char
  deriving DecidableEq, Repr

namespace Search

/-- The search after an opening parenthesis. -/
def start : Search :=
  ⟨1, 1, none, none, none, none⟩

/-- The search after a quote at an index. -/
def meetQuote (st : Search) (c : Char) (index : Nat) : Search :=
  match st.quote, st.other with
  | none, _ =>
    { st with
      quote := some ⟨c, index + 1, none⟩
      fallbackDepth := st.depth
      depth := 1 }
  | some q, none =>
    if c == q.sign then { st with quote := some { q with stop := some (index + 1) } }
    else { st with other := some ⟨c, index + 1, none⟩ }
  | some q, some o =>
    if c == q.sign then { st with quote := some { q with stop := some (index + 1) } }
    else { st with other := some { o with stop := some (index + 1) } }

/-- The search after a closing parenthesis at an index. -/
def meetClose (st : Search) (index : Nat) : Search :=
  if Quote.closedBy st.quote st.last || Quote.closedBy st.other st.last then { st with depth := 0 }
  else if st.quote.isNone then { st with depth := st.depth - 1 }
  else if st.fallbackDepth == 0 then st
  else
    let depth := st.fallbackDepth - 1
    { st with
      fallbackDepth := depth
      fallback := if depth == 0 then some (index + 1) else st.fallback }

/-- The search after an opening parenthesis inside. -/
def meetOpen (st : Search) : Search :=
  if st.quote.isNone then { st with depth := st.depth + 1 }
  else { st with fallbackDepth := st.fallbackDepth - 1 }

/-- The search after an atom at an index. -/
def meet (st : Search) (index : Nat) (a : Atom) : Search :=
  match a with
  | .char '(' => st.meetOpen
  | .char ')' => st.meetClose index
  | .char c => if c == '"' || c == '\'' then st.meetQuote c index else st
  | _ => st

/-- Runs the search up to the end of the target or of the text; gives the index after it. -/
def run (st : Search) (index : Nat) : Atoms → Search × Nat
  | [] => (st, index)
  | a :: s =>
    let st := st.meet index a
    if st.depth == 0 then (st, index + 1)
    else run { st with last := if a.is ' ' then st.last else a.char? } (index + 1) s

end Search

/-- The part of a text between two indices. -/
def slice (first stop : Nat) (s : Atoms) : Atoms :=
  (s.take stop).drop first

/-- The place and the title, where the target ends before an index. -/
def targetOf (st : Search) (index : Nat) (s : Atoms) : Target :=
  let titled (q : Quote) (stop : Nat) : Target :=
    .ofParts (s.take (q.start - 1)) (some (slice q.start (stop - 1) s))
  match st.quote, st.other with
  | some ⟨c, first, some stop⟩, other =>
    if st.last == some c then titled ⟨c, first, some stop⟩ stop
    else
      match other with
      | some ⟨d, first, some stop⟩ =>
        if st.last == some d then titled ⟨d, first, some stop⟩ stop
        else .ofParts (s.take (index - 1)) none
      | _ => .ofParts (s.take (index - 1)) none
  | _, some ⟨d, first, some stop⟩ =>
    if st.last == some d then titled ⟨d, first, some stop⟩ stop
    else .ofParts (s.take (index - 1)) none
  | _, _ => .ofParts (s.take (index - 1)) none

/-- A target without angle brackets, after the opening parenthesis, and what follows. -/
def plainTarget? (s : Atoms) : Option (Target × Atoms) :=
  let (st, index) := Search.start.run 0 s
  if st.depth == 0 then some (targetOf st index s, s.drop index)
  else if st.fallbackDepth == 0 then
    let index := st.fallback.getD (s.length - 1)
    some (.ofParts (s.take (index - 1)) none, s.drop index)
  else none

/-- The target in parentheses that starts here, and what follows. -/
def targetAt? (s : Atoms) : Option (Target × Atoms) :=
  match s with
  | .char '(' :: s =>
    let s := dropBlank s
    match angleTarget? s with
    | some found => some found
    | none => plainTarget? s
  | _ => none

/-! ## 3. Elements -/

/-- The title among the attributes. -/
def titleAttribute : Option Atoms → List (String × Atoms)
  | none => []
  | some title => [("title", title)]

/-- A link or an image with some text that leads to a target. -/
def linkTo (image : Bool) (inner : Atoms → Atoms) (text : Atoms) (target : Target) : Atom :=
  if image then
    .node .image ([("alt", flatten text), ("src", target.place)] ++ titleAttribute target.title) []
  else .node .link (("href", target.place) :: titleAttribute target.title) (inner text)

/-- A link or an image with its target in parentheses. -/
def inlineLink (image : Bool) : Pattern := fun inner before s =>
  match opening? image before s with
  | none => .nothing
  | some (text, rest) =>
    match targetAt? rest with
    | none => .nothing
    | some (target, rest) =>
      .found [linkTo image inner text target] (s.length - rest.length)

/-! ## 4. References -/

/-- Runs of blank characters as single spaces. -/
def squeezeBlank (inBlank : Bool) : List Char → List Char
  | [] => []
  | c :: s =>
    if isBlank c then if inBlank then squeezeBlank true s else ' ' :: squeezeBlank true s
    else c :: squeezeBlank false s

/-- The label in brackets that starts here, after at most one blank, and what follows. -/
def labelAfter? (s : Atoms) : Option (Atoms × Atoms) :=
  let s :=
    match s with
    | a :: r => if a.isBlank then r else s
    | [] => []
  match s with
  | .char '[' :: r => upTo? ']' r
  | _ => none

/-- The target of the reference with a label. -/
def referenceTarget? (references : References) (label : Atoms) : Option Target :=
  match chars? label with
  | none => none
  | some name =>
    (findReference? (squeezeBlank false (lower name)) references).map fun r => ⟨r.target, r.title⟩

/-- A link or an image by reference. In the long form a label follows, and an empty label means
the text; in the short form the text is the label. A label without a reference is passed over
together with the text. -/
def referenceLink (references : References) (image long : Bool) : Pattern := fun inner before s =>
  match opening? image before s with
  | none => .nothing
  | some (text, rest) =>
    match if long then labelAfter? rest else some (text, rest) with
    | none => .nothing
    | some (label, rest) =>
      let count := s.length - rest.length
      match referenceTarget? references (if label.isEmpty then text else label) with
      | none => .skip count
      | some target => .found [linkTo image inner text target] count

end StaticSite.Markdown
