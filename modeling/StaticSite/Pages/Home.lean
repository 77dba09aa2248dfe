/-
StaticSite.Pages.Home — the landing page.

What the program is, a tour of its features, and how it is installed.
-/
import StaticSite.Page.CodeBlock
import StaticSite.Page.Skeleton

namespace StaticSite.Home

open StaticSite.Markup StaticSite.Text

/-! ## 1. The frame -/

/-- The style of the landing page. -/
def css : String :=
  "#jless-recording \x7b\n" ++
  "  margin: 0 auto;\n" ++
  "  max-width: min(540px, 100%);\n" ++
  "\x7d\n" ++
  "\n" ++
  "#jless-recording \x7b\n" ++
  "  display: block;\n" ++
  "  margin-bottom: 0.5em;\n" ++
  "\x7d\n" ++
  "\n" ++
  ".text-and-mascot \x7b\n" ++
  "  display: flex;\n" ++
  "  justify-content: space-between;\n" ++
  "  align-items: center;\n" ++
  "\x7d\n" ++
  "\n" ++
  ".text-and-mascot img \x7b\n" ++
  "  width: 30%;\n" ++
  "  padding: 16px;\n" ++
  "\x7d\n" ++
  "\n" ++
  "#installation-table \x7b\n" ++
  "  border-collapse: collapse;\n" ++
  "  width: 100%;\n" ++
  "\x7d\n" ++
  "\n" ++
  "#installation-table tbody td \x7b\n" ++
  "  border: 1px solid black;\n" ++
  "  border-radius: 4px;\n" ++
  "  padding: 4px 8px;\n" ++
  "\x7d\n" ++
  "\n" ++
  "#installation-table code \x7b\n" ++
  "  font-size: 16px;\n" ++
  "\x7d\n" ++
  "\n" ++
  "@media (max-width: 540px) \x7b\n" ++
  "  .text-and-mascot \x7b\n" ++
  "    flex-wrap: wrap;\n" ++
  "    justify-content: center;\n" ++
  "  \x7d\n" ++
  "\n" ++
  "  .text-and-mascot img \x7b\n" ++
  "    order: 5;\n" ++
  "    width: 180px;\n" ++
  "    padding: 0 16px;\n" ++
  "  \x7d\n" ++
  "\x7d\n"

/-- The frame of the landing page. -/
def frame : PageFrame where
  key := "home"
  filename := "index.html"
  extraCss := css

/-! ## 2. Features -/

/-- A feature: what is said about it, and its picture. -/
structure Feature where
  copy : String
  image : String
  deriving DecidableEq, Repr

/-- The features in the order of the tour. -/
def featureList : List Feature :=
  [⟨"jless will pretty print your JSON and apply syntax highlighting.\n" ++
      "Use it when exploring external APIs, or debugging request payloads.\n",
    "./assets/logo/mascot-indentation.svg"⟩,
   ⟨"Expand and collapse Objects and Arrays to grasp the high- and low-level\n" ++
      "structure of a JSON document. jless has a large suite of vim-inspired\n" ++
      "commands that make exploring data a breeze.\n",
    "./assets/logo/mascot-rocks-collapsing.svg"⟩,
   ⟨"jless supports full text regular-expression based search. Quickly find\n" ++
      "the data you're looking for in long String values, or jump between\n" ++
      "values for the same Object key.\n",
    "./assets/logo/mascot-searching.svg"⟩]

/-- Features one below the other, the pictures to the right and to the left in turn. -/
def featureRows (pictureFirst : Bool) : List Feature → String
  | [] => ""
  | feature :: rest =>
    let copy := p feature.copy
    let picture := img feature.image
    divOf "text-and-mascot" (if pictureFirst then picture ++ copy else copy ++ picture) ++
      featureRows (!pictureFirst) rest

/-- The tour of the features; the first picture is to the right. -/
def features : String :=
  featureRows false featureList

/-! ## 3. Installation -/

/-- A way to install the program. Where the tool has no name of its own, the system is the
link, across both columns. -/
structure PackageManager where
  os : String
  command : String
  link : String
  tool : Option String
  deriving DecidableEq, Repr

/-- The ways to install the program, in the order of the table. -/
def packageManagers : List PackageManager :=
  [⟨"macOS", "brew install jless", "https://formulae.brew.sh/formula/jless", some "HomeBrew"⟩,
   ⟨"macOS", "sudo port install jless", "https://ports.macports.org/port/jless/",
    some "MacPorts"⟩,
   ⟨"Linux", "brew install jless", "https://formulae.brew.sh/formula/jless", some "HomeBrew"⟩,
   ⟨"Arch Linux", "pacman -S jless", "https://archlinux.org/packages/community/x86_64/jless/",
    none⟩,
   ⟨"Void Linux", "sudo xbps-install jless",
    "https://github.com/void-linux/void-packages/tree/master/srcpkgs/jless", none⟩,
   ⟨"NetBSD", "pkgin install jless", "https://pkgsrc.se/textproc/jless/", none⟩,
   ⟨"FreeBSD", "pkg install jless", "https://freshports.org/textproc/jless/", none⟩]

/-- The system and the tool of a row of the table. -/
def leadingCells (manager : PackageManager) : String :=
  let wide := element "td" [("colspan", "2")] (a manager.link manager.os)
  match manager.tool with
  | none => wide
  | some tool => if tool.isEmpty then wide else td manager.os ++ td (a manager.link tool)

/-- A row of the table. -/
def packageRow (manager : PackageManager) : String :=
  tr (leadingCells manager ++ td (code manager.command))

/-- How the program is installed. -/
def installation (site : SiteConfig) : String :=
  h2 "Installation" ++
  p ("jless currently supports macOS and Linux and can be installed using\n" ++
    "various package managers.\n") ++
  element "table" [("id", "installation-table")]
    (element "thead" [] (tr (th "OS" ++ th "Package Manager" ++ th "Command")) ++
      element "tbody" [] (concat (packageManagers.map packageRow))) ++
  p ("If you have a Rust toolchain installed, you can also " ++
    "install directly from source using cargo:" ++
    codeBlock [some "cargo install jless"] (some shellPrompt)) ++
  p ("Binaries for various architectures are also available on " ++
    a (site.repoUrl ++ "/releases") "GitHub" ++ ".\n")

/-! ## 4. The content -/

/-- The content of the landing page. -/
def content (site : SiteConfig) : String :=
  p ("jless is a command-line JSON viewer designed for reading, exploring,\n" ++
    "and searching through JSON data.\n") ++
  imgAt "jless-recording" "./assets/jless-recording.gif" ++
  features ++
  installation site ++
  p ("Check out the " ++ a "./user-guide.html" "user guide" ++ " to learn\n" ++
    "about the full functionality of jless.\n")

end StaticSite.Home
