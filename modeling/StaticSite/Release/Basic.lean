/-
StaticSite.Release.Basic — what is said about a release.

The prose is markup already. Headings, versions, platforms and targets are
plain texts.
-/

namespace StaticSite

/-- The programs of a release: for each platform the targets that it was built for. -/
abbrev Binaries := List (String × List String)

/-- A heading with the items below it. -/
structure ReleaseSection where
  heading : String
  items : List String
  deriving DecidableEq, Repr

/-- A release: its version, the paragraphs before the sections, the sections and the
programs. -/
structure Release where
  version : String
  intro : List String
  sections : List ReleaseSection
  binaries : Binaries
  deriving DecidableEq, Repr

end StaticSite
