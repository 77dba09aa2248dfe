/-
StaticSite.Pages.UserGuide — the user guide.

How the program is started, its commands, and the two modes of display.
-/
import StaticSite.Page.CodeBlock
import StaticSite.Page.Skeleton
import StaticSite.Pages.Commands
import StaticSite.Text.Blank

namespace StaticSite.UserGuide

open StaticSite.Markup StaticSite.Text StaticSite.Commands

/-! ## 1. The frame -/

/-- The style of the user guide. -/
def css : String :=
  "code \x7b\n" ++
  "  position: relative;\n" ++
  "  top: -2px;\n" ++
  "  display: inline-block;\n" ++
  "  border: 1px solid black;\n" ++
  "  border-radius: 4px;\n" ++
  "  margin: 0 2px;\n" ++
  "  padding: 2px 4px;\n" ++
  "  background-color: #eeeeee;\n" ++
  "  font-size: 16px;\n" ++
  "\x7d\n"

/-- The frame of the user guide. -/
def frame : PageFrame where
  key := "user-guide"
  filename := "user-guide.html"
  titleSuffix := "User Guide"
  path := "/user-guide.html"
  extraCss := css
  footerImage := some "./assets/logo/mascot-rocket.svg"

/-! ## 2. Usage -/

/-- The last two parts of an address, without slashes at its end: the owner and the name of
a repository. -/
def repoSlug (url : String) : String :=
  let parts := splitOn (· == '/') (dropEndWhile (· == '/') url.toList)
  String.ofList (joinLists ['/'] (parts.drop (parts.length - 2)))

/-- A link to the query tool. -/
def queryToolLink : String := a queryToolUrl "jq"

/-- How the program is started. -/
def basicUsage (site : SiteConfig) : String :=
  h2At "usage" "Usage" ++
  p "jless can read files directly, or read JSON data from standard input:" ++
  codeBlock
    [some ("curl https://api.github.com/repos/" ++ repoSlug site.repoUrl ++ "/commits -o commits.json"),
     some "jless commits.json",
     some "cat commits.json | jless"]
    (some shellPrompt) ++
  p ("jless can handle newline-delimited JSON, so feel free to pipe in the\n" ++
    "output from " ++ queryToolLink ++ " or some dense log files.\n") ++
  p ("jless can also handle YAML data, either automatically by detecting\n" ++
    "the file extension, or by explicitly passing the " ++ code "--yaml" ++ " flag.\n" ++
    "If you frequently view YAML data, we suggest the following alias:\n") ++
  codeBlock [some "alias yless=\"jless --yaml\""] (some shellPrompt)

/-! ## 3. Commands -/

/-- Copying and printing. -/
def copyingAndPrinting : String :=
  h3At "copying-and-printing" "Copying and Printing" ++
  p ("You can copy various parts of the JSON file to your clipboard using\n" ++
    "one of the following " ++ code "y" ++ " commands.\n") ++
  p ("Alternatively, you can print out values using " ++ code "p" ++ ". This is useful\n" ++
    "for viewing long string values all at once, or if the clipboard functionality\n" ++
    "is not working; mouse-tracking will be temporarily disabled, allowing you\n" ++
    "to use your terminal's native clipboard capabilities to select and copy\n" ++
    "the desired text.\n") ++
  commandList copyCommands "\n"

/-- Where the syntax of patterns is described. -/
def patternSyntaxUrl : String := "https://docs.rs/regex/latest/regex/index.html#syntax"

/-- A link to the syntax of patterns. -/
def patternLink : String := a patternSyntaxUrl "documentation of the underlying regex engine:"

/-- Examples of patterns. -/
def searchExamples : List String :=
  [code "/[1, 2, 3]" ++ " matches an array: " ++ code "[1, 2, 3]",
   code "/\\[bch\\]at" ++ " matches " ++ code "bat" ++ ", " ++ code "cat" ++ " or " ++ code "hat",
   code "/\x7b\x7d" ++ " matches an empty object " ++ code "\x7b\x7d",
   code "/(ha)\\\x7b2,3\\\x7d" ++ " matches " ++ code "haha" ++ " or " ++ code "hahaha"]

/-- Searching. -/
def search : String :=
  h3At "search" "Search" ++
  p "jless supports full-text search over the input JSON." ++
  commandList searchCommands "" ++
  p ("Searching uses \"smart case\" by default. If the input pattern doesn't\n" ++
    "contain any capital letters, a case insensitive search will be\n" ++
    "performed. If there are any capital letters, it will be case\n" ++
    "sensitive. You can force a case-sensitive search by appending\n" ++
    code "/s" ++ " to your query.\n") ++
  p ("A trailing slash will be removed from a pattern; to search for a\n" ++
    "pattern ending in " ++ code "/" ++ " (or " ++ code "/s" ++ "), just add\n" ++
    "another " ++ code "/" ++ " to the end.\n") ++
  p ("Search patterns are interpreted as mostly standard regular\n" ++
    "expressions, with one exception. Because JSON data contains many\n" ++
    "square and curly brackets (" ++ code "[]\x7b\x7d" ++ "), these characters do\n" ++
    "<i>not</i> take on their usual meanings (specifying characters\n" ++
    "classes and repetition counts respectively) and are instead\n" ++
    "interpreted literally.\n") ++
  p ("To use character classes or repetition counts, escape these\n" ++
    "characters with a backslash.\n") ++
  p "Some examples:" ++
  ul (concat (searchExamples.map li)) ++
  p ("For exhaustive documentation of the supported regular expression\n" ++
    "syntax, check out the\n" ++
    patternLink ++ ".\n")

/-- A document as the reader may have formatted it. -/
def prettyExample : String :=
  "\x7b\n" ++
  "  \"a\": 1,\n" ++
  "  \"b\": true,\n" ++
  "  \"c\": [\n" ++
  "    null,\n" ++
  "    \x7b\x7d,\n" ++
  "    [],\n" ++
  "  \"hello\"\n" ++
  "  ]\n" ++
  "\x7d\n"

/-- What is searched. -/
def searchInput : String :=
  h3At "search-input" "Search Input" ++
  p ("The search is <i>not</i> performed over the original input, but over a\n" ++
    "single-line pretty formatted version of the input JSON. Consider the\n" ++
    "following two ways to format an equivalent JSON blob:\n") ++
  codeBlock
    [some "\x7b\"a\":1,\"b\":true,\"c\":[null,\x7b\x7d,[],\"hello\"]\x7d",
     none,
     some prettyExample]
    none ++
  p "jless will create an internal representation formatted as follows:\n" ++
  codeBlock [some "\x7b \"a\": 1, \"b\": true, \"c\": [null, \x7b\x7d, [], \"hello\"] \x7d"] none ++
  p ("(No spaces inside empty objects or arrays, one space inside objects\n" ++
    "with values, no spaces inside array square brackets, no space between\n" ++
    "an object key and ':', one space after the ':', and one space after\n" ++
    "commas separating object entries and array elements.)\n") ++
  p ("Searching will be performed over this internal representation so that\n" ++
    "patterns can include multiple elements without worrying about newlines\n" ++
    "or the exact input format.\n") ++
  p ("When the input is newline-delimited JSON, an actual newline will\n" ++
    "separate each top-level JSON element in the internal representation.\n")

/-! ## 4. Modes -/

/-- The two modes of display. -/
def modes : String :=
  h3At "data-mode-vs-line-mode" "Data Mode vs. Line Mode" ++
  p ("jless starts in \"data\" mode, which displays the JSON data in a more\n" ++
    "streamlined fashion: no closing delimiters for objects or arrays, no\n" ++
    "trailing commas, no quotes around object keys that are valid\n" ++
    "identifiers in JavaScript. It also shows single-line previews of\n" ++
    "objects and arrays, and array indexes before array elements. Note that\n" ++
    "when using full-text search, object keys will still be surrounded by\n" ++
    "quotes.\n") ++
  p ("By pressing " ++ code "m" ++ ", you can switch jless to \"line\" mode, which\n" ++
    "displays the input as pretty printed JSON.\n") ++
  p ("In line mode you can press " ++ code "%" ++ " when focused on an open or\n" ++
    "close delimiter of an object or array to jump to its matching pair.\n")

/-- The flags for line numbers: short form, long form, and what they do. -/
def lineNumberFlags : List (String × String × String) :=
  [("-n", "--line-numbers", "Show absolute line numbers."),
   ("-N", "--no-line-numbers", "Don't show absolute line numbers."),
   ("-r", "--relative-line-numbers", "Show relative line numbers."),
   ("-R", "--no-relative-line-numbers", "Don't show relative line numbers.")]

/-- The settings for line numbers, and what they do. -/
def lineNumberSettings : List (String × String) :=
  [(":set number", "Show absolute line numbers."),
   (":set nonumber", "Don't show absolute line numbers."),
   (":set number!", "Toggle whether showing absolute line numbers."),
   (":set relativenumber", "Show relative line numbers."),
   (":set norelativenumber", "Don't show relative line numbers."),
   (":set relativenumber!", "Toggle whether showing relative line numbers.")]

/-- The flags for line numbers as a list. -/
def lineNumberFlagList : String :=
  ul (concat (lineNumberFlags.map fun (short, long, help) =>
    li (code short ++ ", " ++ code long ++ " " ++ help ++ "\n")))

/-- The settings for line numbers as a list. -/
def lineNumberSettingList : String :=
  ul (joinWith "\n" (lineNumberSettings.map fun (setting, help) =>
    li (code setting ++ " " ++ help ++ "\n")))

/-- Line numbers. -/
def lineNumbers : String :=
  h3At "line-numbers" "Line Numbers" ++
  p ("jless supports displaying line numbers, and does so by default. The line\n" ++
    "numbers do not reflect the position of a node in the original input, but\n" ++
    "rather what line the node would appear on if the original input were\n" ++
    "pretty printed.\n") ++
  p ("jless also supports relative line numbers. When this is enabled, the\n" ++
    "number displayed next to each line will indicate how many lines away it\n" ++
    "is from the currently focused line. This makes it easier to use the\n" ++
    code "j" ++ " and " ++ code "k" ++ " commands with specified counts.\n") ++
  p "The appearance of line numbers can be configured via command line flags:\n" ++
  lineNumberFlagList ++
  p "As well as at runtime:" ++
  lineNumberSettingList ++
  p ("When just using relative line numbers, \"0\" will be displayed next to the\n" ++
    "currently focused line. When both flags are set, the absolute line\n" ++
    "number will be displayed next to the focused lines, and all other line\n" ++
    "numbers will be relative. This matches vim's behavior.\n")

/-! ## 5. The content -/

/-- The command reference. -/
def commands : String :=
  h2At "commands" "Commands" ++
  p ("jless has a large suite of vim-inspired commands. Commands prefixed by\n" ++
    "<i>count</i> may be preceded by a number " ++ count ++ ", which will\n" ++
    "perform a command a given number of times.\n") ++
  commandList utilCommands "" ++
  h3At "moving" "Moving" ++
  commandList movementCommands "" ++
  h3At "scrolling" "Scrolling" ++
  commandList scrollingCommands "" ++
  copyingAndPrinting ++
  search ++
  searchInput ++
  modes ++
  lineNumbers

/-- The content of the user guide. -/
def content (site : SiteConfig) : String :=
  basicUsage site ++ commands

end StaticSite.UserGuide
