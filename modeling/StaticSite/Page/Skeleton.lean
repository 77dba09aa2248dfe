/-
StaticSite.Page.Skeleton — the document around the content of a page.

All pages share the head with its metadata, the header with the links of
the site, and the footer with its author. A page adds a title, a path, a
style of its own, a picture for the footer, and its content.
-/
import StaticSite.Config.Basic
import StaticSite.Markup.Tags

namespace StaticSite

open StaticSite.Markup StaticSite.Text

/-! ## 1. What a page adds -/

/-- What tells one page of a site from another, but for its content. -/
structure PageFrame where
  /-- The name that the page has in commands and in the table of output files. -/
  key : String := "base"
  /-- The usual name of the output file. -/
  filename : String := "index.html"
  titleSuffix : String := "A Command-Line JSON Viewer"
  /-- The address of the page below the address of the site. -/
  path : String := ""
  extraCss : String := ""
  footerImage : Option String := none
  deriving DecidableEq, Repr

namespace PageFrame

/-- The title of a page. -/
def title (frame : PageFrame) (site : SiteConfig) : String :=
  site.siteName ++ " - " ++ frame.titleSuffix

/-- The picture in the footer: the page's own, or else the site's. -/
def footerPicture (frame : PageFrame) (site : SiteConfig) : String :=
  match frame.footerImage with
  | some source => if source.isEmpty then site.footerImage else source
  | none => site.footerImage

/-! ## 2. The head -/

/-- The tag that names the creator, on a line of its own, if the site has a handle. -/
def creatorTag : Option String → String
  | none => ""
  | some handle =>
    if handle.isEmpty then ""
    else "<meta name=\"twitter:creator\" content=\"@" ++ escapeHead handle ++ "\" />\n"

/-- The metadata of a document with a title and an address below that of its site, up to the
style. -/
def headTags (site : SiteConfig) (title path : String) : String :=
  let title := escapeHead title
  "<meta charset=\"utf-8\">\n" ++
  "<meta name=\"viewport\" content=\"width=device-width, initial-scale=1.0\">\n" ++
  "<title>" ++ title ++ "</title>\n" ++
  "<meta name=\"twitter:card\" content=\"summary_large_image\" />\n" ++
  creatorTag site.twitterHandle ++
  "<meta property=\"og:type\" content=\"website\" />\n" ++
  "<meta property=\"og:url\" content=\"" ++ escapeHead site.baseUrl ++ escapeHead path ++
    "\" />\n" ++
  "<meta property=\"og:title\" content=\"" ++ title ++ "\" />\n" ++
  "<meta property=\"og:description\" content=\"" ++ escapeHead site.description ++ "\" />\n" ++
  "<meta property=\"og:image\" content=\"" ++ escapeHead site.socialImage ++ "\" />\n" ++
  "<link rel=\"icon\" href=\"" ++ escapeHead site.favicon ++ "\" type=\"image/svg+xml\">\n" ++
  "<link rel=\"preconnect\" href=\"https://fonts.googleapis.com\">\n" ++
  "<link rel=\"preconnect\" href=\"https://fonts.gstatic.com\" crossorigin>\n" ++
  "<link href=\"" ++ escapeHead site.fontsUrl ++ "\" rel=\"stylesheet\">"

/-- A head: its metadata, then a style. -/
def styledHead (site : SiteConfig) (title path style : String) : String :=
  element "head" [] (headTags site title path ++ "\n" ++ element "style" [] style)

/-- The head of a document: its style is the shared one and then the page's own. -/
def head (frame : PageFrame) (site : SiteConfig) (css : String) : String :=
  styledHead site (frame.title site) frame.path (css ++ frame.extraCss)

/-! ## 3. Header and footer -/

/-- One link of the header. -/
def navAnchor (link : NavLink) : String :=
  a link.href (escape link.label)

/-- The banner with the tagline, and the links of the site. -/
def header (site : SiteConfig) : String :=
  element "header" [] (imgAt "text-logo-with-mascot" site.bannerImage ++ h2 (escape site.tagline)) ++
    element "nav" [] (joinWith "\n" (site.navLinks.map navAnchor)) ++ "\n"

/-- A picture and the author. -/
def pictureFooter (site : SiteConfig) (picture : String) : String :=
  element "footer" []
    (img picture ++
      element "div" [("style", "margin-top: 24px")]
        ("Created by " ++ a site.authorUrl site.authorName))

/-- The footer of a document. -/
def footer (frame : PageFrame) (site : SiteConfig) : String :=
  pictureFooter site (frame.footerPicture site)

end PageFrame

/-! ## 4. The document -/

/-- What a page puts into its document. -/
structure PageParts where
  title : String
  path : String
  extraCss : String
  content : String
  footerPicture : String
  deriving DecidableEq, Repr

/-- A whole document with its five parts. -/
def PageParts.document (parts : PageParts) (site : SiteConfig) (css : String) : String :=
  "<!DOCTYPE html>\n" ++
    element "html" []
      (PageFrame.styledHead site parts.title parts.path (css ++ parts.extraCss) ++
        element "body" []
          (PageFrame.header site ++ parts.content ++
            PageFrame.pictureFooter site parts.footerPicture))

namespace PageFrame

/-- The parts of the document around some content. -/
def parts (frame : PageFrame) (site : SiteConfig) (content : String) : PageParts :=
  ⟨frame.title site, frame.path, frame.extraCss, content, frame.footerPicture site⟩

/-- A whole document around its content. -/
def document (frame : PageFrame) (site : SiteConfig) (css content : String) : String :=
  (frame.parts site content).document site css

end PageFrame

end StaticSite
