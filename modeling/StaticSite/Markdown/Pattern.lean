/-
StaticSite.Markdown.Pattern — replacing parts of a text.

A pattern looks at a place in a text, and says what the characters there
are to be replaced by, if it fits. It is used at one place after the other,
and goes on after what it has replaced.
-/
import StaticSite.Markdown.Block

namespace StaticSite.Markdown

/-! ## 1. Patterns -/

/-- What a pattern makes of a place: nothing, nothing for so many atoms, or new atoms in the
place of so many. -/
inductive Finding where
  | nothing
  | skip (count : Nat)
  | found (atoms : Atoms) (count : Nat)

/-- A pattern: from a reader for the text inside an element, the text before a place in reverse
and the text after it. -/
abbrev Pattern := (Atoms → Atoms) → Atoms → Atoms → Finding

/-! ## 2. Replacing -/

/-- The text with its replacements, from a place on. The text before the place is there in
reverse, with its replacements. The numbers count the atoms that have been replaced already, and
those that are to be passed over. -/
def replaceFrom (fits : Atoms → Atoms → Finding) (replaced passed : Nat) (before : Atoms) :
    Atoms → Atoms
  | [] => before.reverse
  | a :: s =>
    match replaced, passed with
    | n + 1, _ => replaceFrom fits n passed before s
    | 0, n + 1 => replaceFrom fits 0 n (a :: before) s
    | 0, 0 =>
      match fits before (a :: s) with
      | .nothing => replaceFrom fits 0 0 (a :: before) s
      | .skip count => replaceFrom fits 0 (count - 1) (a :: before) s
      | .found atoms count => replaceFrom fits (count - 1) 0 (atoms.reverse ++ before) s

/-- A step of reading: from a reader for the text inside an element, a text to a text. -/
abbrev Pass := (Atoms → Atoms) → Atoms → Atoms

/-- Replaces what a pattern fits, from the start of the text to its end. -/
def Pattern.pass (pattern : Pattern) : Pass :=
  fun inner s => replaceFrom (pattern inner) 0 0 [] s

/-! ## 3. Tests -/

/-- Does the text before a place end with this character? -/
def endsWith (c : Char) (before : Atoms) : Bool :=
  startsWith c before

/-- The number of times that the text starts with a character. -/
def runLength (c : Char) (s : Atoms) : Nat :=
  (s.takeWhile (Atom.is c)).length

/-- The text without elements, which are replaced by the text in them. -/
def flatten : Atoms → Atoms
  | [] => []
  | .node _ _ content :: rest => flatten content ++ flatten rest
  | .char c :: rest => .char c :: flatten rest
  | .verbatim c :: rest => .verbatim c :: flatten rest
  | .escaped c :: rest => .escaped c :: flatten rest
  | .markup s :: rest => .markup s :: flatten rest

/-- The text with its characters standing for themselves. -/
def asVerbatim (s : Atoms) : Atoms :=
  s.map fun a =>
    match a with
    | .char c => .verbatim c
    | a => a

end StaticSite.Markdown
