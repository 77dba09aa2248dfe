/-
StaticSite.Pages.Changelog — the page of the releases.

One division per release: its version, its paragraphs and sections, and
where its programs are to be found.
-/
import StaticSite.Page.CodeBlock
import StaticSite.Page.Skeleton
import StaticSite.Release.Basic

namespace StaticSite.Changelog

open StaticSite.Markup StaticSite.Text

/-! ## 1. The frame -/

/-- The style of the page. -/
def css : String :=
  "code \x7b\n" ++
  "  position: relative;\n" ++
  "  top: -2px;\n" ++
  "  display: inline-block;\n" ++
  "  border: 1px solid black;\n" ++
  "  border-radius: 4px;\n" ++
  "  margin: 0 2px;\n" ++
  "  padding: 2px 4px;\n" ++
  "  background-color: #eeeeee;\n" ++
  "  font-size: 16px;\n" ++
  "\x7d\n" ++
  "\n" ++
  "footer \x7b\n" ++
  "  margin-top: 24px;\n" ++
  "\x7d\n"

/-- The frame of the page. -/
def frame : PageFrame where
  key := "releases"
  filename := "releases.html"
  titleSuffix := "Releases"
  path := "/releases.html"
  extraCss := css
  footerImage := some "./assets/logo/mascot-peanut-butter-jelly-sandwich.svg"

/-! ## 2. Programs -/

/-- Where the program of a version for a target is to be found. -/
def downloadUrl (site : SiteConfig) (version target : String) : String :=
  site.repoUrl ++ "/releases/download/" ++ version ++ "/" ++
    site.siteName ++ "-" ++ version ++ "-" ++ target ++ ".zip"

/-- The lines of one platform: its name after a hash sign, then its addresses. -/
def platformLines (site : SiteConfig) (version : String) (platform : String × List String) :
    List (Option String) :=
  some ("# " ++ platform.1) ::
    platform.2.map fun target => some (downloadUrl site version target)

/-- The lines of all platforms, with an empty line between neighbours. -/
def binaryLines (site : SiteConfig) (version : String) : Binaries → List (Option String)
  | [] => []
  | [platform] => platformLines site version platform
  | platform :: next :: rest =>
    platformLines site version platform ++ none :: binaryLines site version (next :: rest)

/-- The programs of a release, if it has any platform. -/
def binaries (site : SiteConfig) (release : Release) : String :=
  if release.binaries.isEmpty then ""
  else h4 "Binaries" ++ codeBlock (binaryLines site release.version release.binaries) none

/-! ## 3. Releases -/

/-- A section: its heading and its items. -/
def renderSection (s : ReleaseSection) : String :=
  h4 s.heading ++ ul (joinWith "\n" (s.items.map li))

/-- A release. -/
def renderRelease (site : SiteConfig) (release : Release) : String :=
  divOf "release"
    (element "h3" [("id", release.version)] release.version ++
      (concat release.intro ++ joinWith "\n" (release.sections.map renderSection)) ++
      binaries site release)

/-- The content of the page. -/
def content (site : SiteConfig) (releases : List Release) : String :=
  h2At "releases" "Releases" ++ joinWith "\n" (releases.map (renderRelease site))

end StaticSite.Changelog
