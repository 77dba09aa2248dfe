/-
StaticSite.Yaml.Setting — what the directives of a document settle.

The version of the notation decides where a plain scalar ends inside
brackets and which words are numbers and truth values. The handles are
what tags are abbreviated by.
-/

namespace StaticSite.Yaml

/-- The versions of the notation, 1.1 and 1.2. -/
inductive Version where
  | v11
  | v12
  deriving DecidableEq, Repr

/-- The handles of tags, and what they stand for. -/
abbrev Handles := List (List Char × List Char)

/-- What the tags of the common types start with. -/
def commonTag : List Char :=
  "tag:yaml.org,2002:".toList

/-- The handles that every document has. -/
def defaultHandles : Handles :=
  [(['!'], ['!']), (['!', '!'], commonTag)]

/-- What a handle stands for. -/
def findHandle? (handle : List Char) : Handles → Option (List Char)
  | [] => none
  | (h, stem) :: rest => if h = handle then some stem else findHandle? handle rest

/-- What holds for a whole document. -/
structure Setting where
  version : Version
  handles : Handles
  deriving DecidableEq, Repr

end StaticSite.Yaml
