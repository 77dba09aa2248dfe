/-
StaticSite.Yaml.Error — why a document cannot be read.
-/

namespace StaticSite.Yaml

/-- What is wrong with a document. -/
inductive Error where
  /-- The text breaks the rules of the notation. -/
  | malformed
  /-- The version of the notation is one that cannot be read. -/
  | unknownVersion
  /-- An alias names no anchor before it. -/
  | unknownAlias
  | unknownTag
  /-- A tag stands on a node of another kind. -/
  | wrongKind
  | duplicateKey
  /-- A mapping stands for a key. -/
  | mappingAsKey
  /-- A list with a list or a mapping in it stands for a key. -/
  | nestedKey
  /-- What a merge key is to merge is no mapping. -/
  | badMerge
  /-- A list of entries has an entry with a key that is no key, or that was there before. -/
  | unfitKey
  | repeatedKey
  /-- A number with too many digits, or with a character that is none. -/
  | badNumber
  /-- Nothing stands for a number. -/
  | emptyNumber
  /-- A date or a time that the calendar does not have. -/
  | badDate
  /-- A moment that would be after the last year, once it is rounded. -/
  | lateDate
  /-- Bytes that are not spelled out in full. -/
  | badBytes
  /-- An escape for a number that is no character. -/
  | badCharacter
  /-- A word that is tagged as a truth value and is none. -/
  | badTruth (word : String)
  deriving DecidableEq, Repr

end StaticSite.Yaml
