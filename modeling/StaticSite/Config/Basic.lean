/-
StaticSite.Config.Basic — what is configured about a site.

A `SiteConfig` holds the texts that every page shows, the files that a run
reads and writes, the links of the header, and the names of output files
that differ from the usual ones.
-/
import StaticSite.Files.Path

namespace StaticSite

/-! ## 1. The configuration -/

/-- A link in the header of every page. -/
structure NavLink where
  label : String
  href : String
  deriving DecidableEq, Repr

/-- The links of a site that configures none. -/
def defaultNavLinks : List NavLink :=
  [⟨"About", "./"⟩, ⟨"User Guide", "./user-guide.html"⟩, ⟨"Releases", "./releases.html"⟩,
   ⟨"GitHub", "https://github.com/PaulJuliusMartinez/jless"⟩]

/-- The configuration of a site. A site without a handle has no creator tag. -/
structure SiteConfig where
  siteName : String := "jless"
  tagline : String := "jless — a command-line JSON viewer"
  baseUrl : String := "https://jless.io"
  description : String :=
    "jless is a command-line JSON viewer designed for reading, exploring, " ++
      "and searching through JSON data."
  socialImage : String := "https://jless.io/assets/logo/text-logo-with-mascot-social.png"
  favicon : String := "./assets/logo/mascot.svg"
  bannerImage : String := "./assets/logo/text-logo-with-mascot.svg"
  fontsUrl : String :=
    "https://fonts.googleapis.com/css2?family=Fira+Sans:wght@400;700" ++
      "&family=Roboto+Slab:wght@800&display=swap"
  twitterHandle : Option String := some "CodeIsTheEnd"
  authorName : String := "CodeIsTheEnd"
  authorUrl : String := "https://twitter.com/CodeIsTheEnd"
  footerImage : String := "./assets/logo/mascot.svg"
  repoUrl : String := "https://github.com/PaulJuliusMartinez/jless"
  version : String := "v0.7.2"
  baseStylesheet : Path := .ofText "base.css"
  outputDir : Path := .ofText "dist"
  releasesFile : Path := .ofText "config/releases.yaml"
  navLinks : List NavLink := defaultNavLinks
  pageOutputs : List (String × String) := []
  deriving DecidableEq, Repr

/-! ## 2. Output files -/

/-- The file name configured for a page, if there is one. -/
def outputName? (key : String) : List (String × String) → Option String
  | [] => none
  | (k, name) :: rest => if k == key then some name else outputName? key rest

/-- The output file of a page: its configured name, or else the usual one, in the output
directory. -/
def SiteConfig.outputPath (site : SiteConfig) (key usual : String) : Path :=
  site.outputDir.join (.ofText ((outputName? key site.pageOutputs).getD usual))

end StaticSite
