/-
StaticSite.Pages.Registry — the pages of a site.

A page is a frame with a body. The bodies that a site is built from take
what they show from its configuration; the releases are read from their
file when they are needed, unless they are given. Other pages bring their
markup with them.
-/
import StaticSite.Pages.Home
import StaticSite.Pages.UserGuide
import StaticSite.Pages.Changelog
import StaticSite.Release.Load

namespace StaticSite

open StaticSite.Text

/-! ## 1. Pages -/

/-- Where the content of a page comes from. -/
inductive PageBody where
  | home
  | userGuide
  /-- The given releases, or else those in the file that the site names. -/
  | releases (given : Option (List Release))
  | markup (html : String)
  /-- A frame that nobody has filled. -/
  | missing
  deriving DecidableEq, Repr

/-- A page: its frame and its body. -/
structure Page where
  frame : PageFrame
  body : PageBody
  deriving DecidableEq, Repr

/-- The landing page. -/
def homePage : Page := ⟨Home.frame, .home⟩

/-- The user guide. -/
def userGuidePage : Page := ⟨UserGuide.frame, .userGuide⟩

/-- The page of the releases. -/
def releasesPage : Page := ⟨Changelog.frame, .releases none⟩

/-- The page with given releases, if it is one that shows releases. -/
def Page.withReleases (page : Page) (given : Option (List Release)) : Page :=
  match page.body with
  | .releases _ => { page with body := .releases given }
  | _ => page

/-! ## 2. The registry -/

/-- The pages that every site has, in the order in which they are generated. -/
def registry : List Page := [homePage, userGuidePage, releasesPage]

/-- The keys of pages. -/
def pageKeys (pages : List Page) : List String :=
  pages.map fun page => page.frame.key

/-- The page with a key, among the given ones. -/
def findPage? (key : String) : List Page → Option Page
  | [] => none
  | page :: rest => if page.frame.key == key then some page else findPage? key rest

/-- The wording for a key that no page has. -/
def unknownPageMessage (key : String) : String :=
  "Unknown page '" ++ key ++ "'. Known pages: " ++ joinWith ", " (pageKeys registry)

/-! ## 3. Content -/

/-- Why a page has no content. -/
inductive ContentError where
  | missing
  | releases (e : LoadError ReleaseError)
  deriving DecidableEq, Repr

/-- The content of a page of a site. -/
def Page.content (page : Page) (site : SiteConfig) (fs : FileSystem) :
    Except ContentError String :=
  match page.body with
  | .home => .ok (Home.content site)
  | .userGuide => .ok (UserGuide.content site)
  | .releases (some given) => .ok (Changelog.content site given)
  | .releases none =>
    match loadReleases fs site.releasesFile with
    | .error e => .error (.releases e)
    | .ok releases => .ok (Changelog.content site releases)
  | .markup html => .ok html
  | .missing => .error .missing

end StaticSite
