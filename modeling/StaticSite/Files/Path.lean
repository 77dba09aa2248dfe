/-
StaticSite.Files.Path — names of files.

A path is a root and a list of parts. Reading the text of a path drops
empty parts and single dots; two dots are kept, as what they mean depends
on the files. Exactly two slashes at the start are a root of their own,
three or more count as one.
-/
import StaticSite.Text.Lines

namespace StaticSite

open StaticSite.Text

/-- Where a path starts: here, or at one of the two roots. -/
inductive PathRoot where
  | relative
  | absolute
  | doubled
  deriving DecidableEq, Repr

/-- A root and parts, none of them empty, a single dot, or holding a slash. -/
structure Path where
  root : PathRoot
  parts : List String
  deriving DecidableEq, Repr

namespace Path

/-! ## 1. Text -/

/-- The root of a path's text: the number of slashes it starts with decides. -/
def rootOf : List Char → PathRoot
  | '/' :: '/' :: '/' :: _ => .absolute
  | '/' :: '/' :: _ => .doubled
  | '/' :: _ => .absolute
  | _ => .relative

/-- The parts between slashes that count. -/
def partsOf (s : List Char) : List String :=
  ((splitOn (· == '/') s).map String.ofList).filter fun part => part != "" && part != "."

/-- The path that a text spells. -/
def ofText (s : String) : Path :=
  ⟨rootOf s.toList, partsOf s.toList⟩

/-- How a root is written. -/
def rootText : PathRoot → String
  | .relative => ""
  | .absolute => "/"
  | .doubled => "//"

/-- The text of a path; the path with neither root nor parts is a single dot. -/
def text (p : Path) : String :=
  match p.root, p.parts with
  | .relative, [] => "."
  | root, parts => rootText root ++ joinWith "/" parts

/-! ## 2. Parts -/

/-- Does the path start at a root? -/
def isAbsolute (p : Path) : Bool :=
  p.root != .relative

/-- The second path seen from the first: an absolute path stays as it is. -/
def join (p q : Path) : Path :=
  if q.isAbsolute then q else ⟨p.root, p.parts ++ q.parts⟩

/-- The path without its last part. -/
def parent (p : Path) : Path :=
  ⟨p.root, p.parts.dropLast⟩

/-- Can there be such a file? No name holds the character zero. -/
def isValid (p : Path) : Bool :=
  p.parts.all fun part => !part.toList.contains '\x00'

/-- The last part, empty if there is none. -/
def name (p : Path) : String :=
  p.parts.getLast?.getD ""

/-- What is left of the list after the given beginning, if it begins so. -/
def dropParts? : List String → List String → Option (List String)
  | [], parts => some parts
  | _ :: _, [] => none
  | a :: front, b :: parts => if a == b then dropParts? front parts else none

/-- The path seen from a directory that it lies under. -/
def relativeTo? (p directory : Path) : Option Path :=
  if p.root == directory.root then
    (dropParts? directory.parts p.parts).map fun rest => ⟨.relative, rest⟩
  else none

/-- The text of a path for a reader who works in a directory: short when the path lies
under it. -/
def shortText (p here : Path) : String :=
  if p.isAbsolute then
    match p.relativeTo? here with
    | some rest => rest.text
    | none => p.text
  else p.text

end Path

end StaticSite
