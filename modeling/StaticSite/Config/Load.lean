/-
StaticSite.Config.Load — a configuration out of a value.

The value is a mapping with the entries `site`, `paths`, `nav_links` and
`pages`, all of them optional. A text that is missing, null or blank leaves
the default. The faults are looked for in that order, and the first one
decides the error. A value that has no text is a fault where its text is
asked for.
-/
import StaticSite.Config.Basic
import StaticSite.Value.Text

namespace StaticSite

open StaticSite.Text

/-! ## 1. Faults -/

/-- What is wrong with a configuration. -/
inductive ConfigError where
  /-- The whole value is not a mapping. -/
  | notMapping
  /-- The value of `site` is a scalar that has no parts, or a text or list that seems to
  hold the handle. -/
  | siteNotSearchable
  /-- A value that should be a mapping cannot be asked for its fields. -/
  | notFields
  | navLinksNotList
  | navLinkIncomplete (index : Nat)
  | navLinkBlank (index : Nat)
  | pagesNotMapping
  | noText (e : Value.TextError)
  deriving DecidableEq, Repr

/-- The wording of the faults that have one. -/
def ConfigError.message : ConfigError → Option String
  | .notMapping => some "Top-level YAML structure must be a mapping."
  | .siteNotSearchable => none
  | .notFields => none
  | .noText _ => none
  | .navLinksNotList => some "'nav_links' must be a list of \x7blabel, href\x7d mappings."
  | .navLinkIncomplete index =>
    some ("Navigation link #" ++ String.ofList (Number.natText index) ++
      " must define 'label' and 'href'.")
  | .navLinkBlank index =>
    some ("Navigation link #" ++ String.ofList (Number.natText index) ++
      " needs a non-empty label and href.")
  | .pagesNotMapping => some "'pages' must map page keys to output filenames."

/-- The kinds of errors that faults are raised as: a value of the wrong type, one without the
attribute that is asked for, one that is no use, and a configuration that says what it cannot. -/
inductive ErrorKind where
  | type
  | attribute
  | value
  | config
  deriving DecidableEq, Repr

/-- The kind of error that a fault is raised as. -/
def ConfigError.kind : ConfigError → ErrorKind
  | .notMapping | .siteNotSearchable => .type
  | .notFields => .attribute
  | .noText _ => .value
  | .navLinksNotList | .navLinkIncomplete _ | .navLinkBlank _ | .pagesNotMapping => .config

/-- A text, or the fault that there is none. -/
def ConfigError.ofText {α : Type} : Except Value.TextError α → Except ConfigError α
  | .ok a => .ok a
  | .error e => .error (.noText e)

/-! ## 2. Links of the header -/

/-- A link, from the entry at an index. -/
def NavLink.ofValue (index : Nat) (v : Value) : Except ConfigError NavLink :=
  match v.entries? with
  | none => .error (.navLinkIncomplete index)
  | some entries =>
    match Value.field? "label" entries, Value.field? "href" entries with
    | some label, some href =>
      match ConfigError.ofText label.stripped?, ConfigError.ofText href.stripped? with
      | .error e, _ => .error e
      | _, .error e => .error e
      | .ok (some label), .ok (some href) => .ok ⟨label, href⟩
      | _, _ => .error (.navLinkBlank index)
    | _, _ => .error (.navLinkIncomplete index)

/-- The links, from the entries from an index on. -/
def NavLink.ofEntries (index : Nat) : List Value → Except ConfigError (List NavLink)
  | [] => .ok []
  | entry :: rest =>
    match NavLink.ofValue index entry with
    | .error e => .error e
    | .ok link =>
      match NavLink.ofEntries (index + 1) rest with
      | .error e => .error e
      | .ok links => .ok (link :: links)

/-- The links of a site: the usual ones for null, else those of the list. -/
def navLinksOf : Value → Except ConfigError (List NavLink)
  | .null => .ok defaultNavLinks
  | v =>
    match v.items? with
    | some entries => NavLink.ofEntries 0 entries
    | none => .error .navLinksNotList

/-! ## 3. Names of output files -/

/-- The file name that an entry gives: a text, or the `output` of a mapping. -/
def outputNameOf (v : Value) : Except ConfigError (Option String) :=
  match v with
  | .string _ => ConfigError.ofText v.stripped?
  | _ =>
    match v.entries?.bind (Value.field? "output") with
    | some output => ConfigError.ofText output.stripped?
    | none => .ok none

/-- The table with a name put under a key: in the place of that key, or at the end. -/
def putOutputName (key name : String) : List (String × String) → List (String × String)
  | [] => [(key, name)]
  | (k, old) :: rest =>
    if k == key then (k, name) :: rest else (k, old) :: putOutputName key name rest

/-- The table of the entries that give a name, put in one after the other. -/
def addOutputNames (table : List (String × String)) :
    List (Value × Value) → Except ConfigError (List (String × String))
  | [] => .ok table
  | (key, payload) :: rest =>
    match outputNameOf payload with
    | .error e => .error e
    | .ok none => addOutputNames table rest
    | .ok (some name) =>
      match ConfigError.ofText key.text with
      | .error e => .error e
      | .ok key => addOutputNames (putOutputName key name table) rest

/-- The table of output files. -/
def pageOutputsOf (v : Value) : Except ConfigError (List (String × String)) :=
  if v.isVoid then .ok []
  else
    match v.entries? with
    | some entries => addOutputNames [] entries
    | none => .error .pagesNotMapping

/-! ## 4. The site -/

/-- Does the text hold the other one somewhere? -/
def holdsText (part : List Char) : List Char → Bool
  | [] => part.isEmpty
  | c :: s => part.isPrefixOf (c :: s) || holdsText part s

/-- The name of the handle's field. -/
def handleField : String := "twitter_handle"

/-- Can the value be searched for the handle's field, and is it not there? -/
def lacksHandle : Value → Bool
  | .string s => !holdsText handleField.toList s.toList
  | .list items => !items.any (Value.sameKey (.string handleField))
  | .fixedList items => !items.any (Value.sameKey (.string handleField))
  | .set members => !members.any (Value.sameKey (.string handleField))
  | .tied _ v => lacksHandle v
  | _ => false

/-- The fields of a mapping that may be left out, where a void value counts as no fields. A
value that is no mapping is first searched for the handle if `searched` is set. -/
def fieldsOf (searched : Bool) (v : Value) : Except ConfigError (List (Value × Value)) :=
  if v.isVoid then .ok []
  else
    match v.entries? with
    | some entries => .ok entries
    | none => .error (if searched && !lacksHandle v then .siteNotSearchable else .notFields)

/-- The text of a field, or the default if it is missing, null or blank. -/
def textField (entries : List (Value × Value)) (name default : String) :
    Except ConfigError String :=
  match Value.field? name entries with
  | some v => (ConfigError.ofText v.stripped?).map (·.getD default)
  | none => .ok default

/-- A handle without the sign in front of it. -/
def dropAt (s : String) : String :=
  match s.toList with
  | '@' :: rest => String.ofList rest
  | _ => s

/-- The handle: the default if there is no such field, none if it is null or blank. -/
def handleOf (entries : List (Value × Value)) (default : Option String) :
    Except ConfigError (Option String) :=
  match Value.field? handleField entries with
  | some v => (ConfigError.ofText v.stripped?).map (·.map dropAt)
  | none => .ok default

/-- The value of a top-level entry, null if there is none. -/
def entryOf (name : String) (entries : List (Value × Value)) : Value :=
  (Value.field? name entries).getD .null

/-- The configuration with the texts of `site`. -/
def SiteConfig.withSite (base : SiteConfig) (site : List (Value × Value)) :
    Except ConfigError SiteConfig := do
  .ok {
    base with
    twitterHandle := ← handleOf site base.twitterHandle
    siteName := ← textField site "name" base.siteName
    tagline := ← textField site "tagline" base.tagline
    baseUrl := stripTrailingSlashes (← textField site "base_url" base.baseUrl)
    description := ← textField site "description" base.description
    socialImage := ← textField site "social_image" base.socialImage
    favicon := ← textField site "favicon" base.favicon
    bannerImage := ← textField site "banner_image" base.bannerImage
    fontsUrl := ← textField site "fonts_url" base.fontsUrl
    authorName := ← textField site "author_name" base.authorName
    authorUrl := ← textField site "author_url" base.authorUrl
    footerImage := ← textField site "footer_image" base.footerImage
    repoUrl := stripTrailingSlashes (← textField site "repo_url" base.repoUrl)
    version := ← textField site "version" base.version }

/-- The configuration with the files of `paths`. -/
def SiteConfig.withPaths (base : SiteConfig) (paths : List (Value × Value)) :
    Except ConfigError SiteConfig := do
  .ok {
    base with
    baseStylesheet := .ofText (← textField paths "base_stylesheet" base.baseStylesheet.text)
    outputDir := .ofText (← textField paths "output_dir" base.outputDir.text)
    releasesFile := .ofText (← textField paths "releases" base.releasesFile.text) }

/-- The configuration that the top-level entries spell. -/
def SiteConfig.ofEntries (entries : List (Value × Value)) : Except ConfigError SiteConfig := do
  let site ← fieldsOf true (entryOf "site" entries)
  let config ← SiteConfig.withSite {} site
  let paths ← fieldsOf false (entryOf "paths" entries)
  let config ← config.withPaths paths
  let navLinks ← navLinksOf (entryOf "nav_links" entries)
  let pageOutputs ← pageOutputsOf (entryOf "pages" entries)
  .ok { config with navLinks, pageOutputs }

/-- The configuration that a value spells; a void value spells the default one. -/
def SiteConfig.ofValue (v : Value) : Except ConfigError SiteConfig :=
  if v.isVoid then SiteConfig.ofEntries []
  else
    match v.entries? with
    | some entries => SiteConfig.ofEntries entries
    | none => .error .notMapping

end StaticSite
