/-
StaticSite.Proofs.Config.Spelling — a configuration written as a mapping.

A mapping spells a configuration when every key has its value in the section
and under the name that belong to it (`SiteConfig.IsSpelledBy`). Any of the
keys may be left out. A text is left out as well when it is null or blank,
but a handle is not: a site without a handle is spelled by a null or blank
one. The order of the entries, and entries of other names, do not matter.

`SiteConfig.written` is such a mapping for every configuration and every
choice of keys (`isSpelledBy_written`).
-/
import Mathlib.Data.List.Forall2
import StaticSite.Config.Load

namespace StaticSite

open StaticSite.Text

/-! ## 1. Keys -/

/-- The keys of a configuration whose values are texts. -/
inductive TextKey where
  | siteName
  | tagline
  | baseUrl
  | description
  | socialImage
  | favicon
  | bannerImage
  | fontsUrl
  | authorName
  | authorUrl
  | footerImage
  | repoUrl
  | version
  | baseStylesheet
  | outputDir
  | releasesFile
  deriving DecidableEq

/-- The keys of a configuration. -/
inductive SiteKey where
  | text (k : TextKey)
  | handle
  | navLinks
  | pageOutputs
  deriving DecidableEq

/-- The name of a text's entry. -/
def TextKey.name : TextKey → String
  | .siteName => "name"
  | .tagline => "tagline"
  | .baseUrl => "base_url"
  | .description => "description"
  | .socialImage => "social_image"
  | .favicon => "favicon"
  | .bannerImage => "banner_image"
  | .fontsUrl => "fonts_url"
  | .authorName => "author_name"
  | .authorUrl => "author_url"
  | .footerImage => "footer_image"
  | .repoUrl => "repo_url"
  | .version => "version"
  | .baseStylesheet => "base_stylesheet"
  | .outputDir => "output_dir"
  | .releasesFile => "releases"

/-- Is the text the path of a file, with its entry in the section of those? -/
def TextKey.isPath : TextKey → Bool
  | .baseStylesheet | .outputDir | .releasesFile => true
  | _ => false

namespace SiteConfig

/-- The value of a key that is a text. -/
def textOf (c : SiteConfig) : TextKey → String
  | .siteName => c.siteName
  | .tagline => c.tagline
  | .baseUrl => c.baseUrl
  | .description => c.description
  | .socialImage => c.socialImage
  | .favicon => c.favicon
  | .bannerImage => c.bannerImage
  | .fontsUrl => c.fontsUrl
  | .authorName => c.authorName
  | .authorUrl => c.authorUrl
  | .footerImage => c.footerImage
  | .repoUrl => c.repoUrl
  | .version => c.version
  | .baseStylesheet => c.baseStylesheet.text
  | .outputDir => c.outputDir.text
  | .releasesFile => c.releasesFile.text

/-- The configuration with the values of another one for some keys. -/
def replaced (c base : SiteConfig) (out : SiteKey → Bool) : SiteConfig where
  siteName := if out (.text .siteName) then base.siteName else c.siteName
  tagline := if out (.text .tagline) then base.tagline else c.tagline
  baseUrl := if out (.text .baseUrl) then base.baseUrl else c.baseUrl
  description := if out (.text .description) then base.description else c.description
  socialImage := if out (.text .socialImage) then base.socialImage else c.socialImage
  favicon := if out (.text .favicon) then base.favicon else c.favicon
  bannerImage := if out (.text .bannerImage) then base.bannerImage else c.bannerImage
  fontsUrl := if out (.text .fontsUrl) then base.fontsUrl else c.fontsUrl
  twitterHandle := if out .handle then base.twitterHandle else c.twitterHandle
  authorName := if out (.text .authorName) then base.authorName else c.authorName
  authorUrl := if out (.text .authorUrl) then base.authorUrl else c.authorUrl
  footerImage := if out (.text .footerImage) then base.footerImage else c.footerImage
  repoUrl := if out (.text .repoUrl) then base.repoUrl else c.repoUrl
  version := if out (.text .version) then base.version else c.version
  baseStylesheet := if out (.text .baseStylesheet) then base.baseStylesheet else c.baseStylesheet
  outputDir := if out (.text .outputDir) then base.outputDir else c.outputDir
  releasesFile := if out (.text .releasesFile) then base.releasesFile else c.releasesFile
  navLinks := if out .navLinks then base.navLinks else c.navLinks
  pageOutputs := if out .pageOutputs then base.pageOutputs else c.pageOutputs

end SiteConfig

/-! ## 2. Spelling -/

/-- An entry that is null or blank. -/
def IsBlankEntry (field : Option Value) : Prop :=
  field = some .null ∨ ∃ s, field = some (.string s) ∧ allBlank s.toList = true

/-- The entry of a text: the text, or if it is left out, none or a blank one. -/
def SpellsText (out : Bool) (s : String) (field : Option Value) : Prop :=
  if out then field = none ∨ IsBlankEntry field else field = some (.string s)

/-- The entry of a handle: the handle, a blank entry for no handle, no entry if it is left out. -/
def SpellsHandle (out : Bool) (handle : Option String) (field : Option Value) : Prop :=
  if out then field = none
  else
    match handle with
    | some handle => field = some (.string handle)
    | none => IsBlankEntry field

/-- The entry of a link: a mapping with its label and its address. -/
def SpellsLink (link : NavLink) (v : Value) : Prop :=
  ∃ fields, v.entries? = some fields ∧
    Value.field? "label" fields = some (.string link.label) ∧
    Value.field? "href" fields = some (.string link.href)

/-- The entry of the links: a list of them, none or null if they are left out. -/
def SpellsLinks (out : Bool) (links : List NavLink) (field : Option Value) : Prop :=
  if out then field = none ∨ field = some .null
  else ∃ v items, field = some v ∧ v.items? = some items ∧ List.Forall₂ SpellsLink links items

/-- The entry of an output file under its key: the name, or a mapping that holds it. -/
def SpellsOutput (output : String × String) (entry : Value × Value) : Prop :=
  entry.1 = .string output.1 ∧
    (entry.2 = .string output.2 ∨ ∃ fields, entry.2.entries? = some fields ∧
      Value.field? "output" fields = some (.string output.2))

/-- The entry of the output files: a mapping of them, none or null if they are left out. -/
def SpellsOutputs (out : Bool) (outputs : List (String × String)) (field : Option Value) : Prop :=
  if out then field = none ∨ field = some .null
  else ∃ v entries, field = some v ∧ v.entries? = some entries ∧
    List.Forall₂ SpellsOutput outputs entries

/-- A section of the mapping. One without fields need not be there. -/
def HasSection (entries : List (Value × Value)) (name : String) (fields : List (Value × Value)) :
    Prop :=
  (∃ v, Value.field? name entries = some v ∧ v.entries? = some fields) ∨
    (fields = [] ∧ (Value.field? name entries = none ∨ Value.field? name entries = some .null))

/-- The value is a mapping that spells the configuration, except for the keys that are left
out. -/
def SiteConfig.IsSpelledBy (c : SiteConfig) (out : SiteKey → Bool) (v : Value) : Prop :=
  ∃ entries site paths, v.entries? = some entries ∧ HasSection entries "site" site ∧
    HasSection entries "paths" paths ∧
    (∀ k, SpellsText (out (.text k)) (c.textOf k)
      (Value.field? k.name (if k.isPath then paths else site))) ∧
    SpellsHandle (out .handle) c.twitterHandle (Value.field? handleField site) ∧
    SpellsLinks (out .navLinks) c.navLinks (Value.field? "nav_links" entries) ∧
    SpellsOutputs (out .pageOutputs) c.pageOutputs (Value.field? "pages" entries)

/-! ## 3. Writing -/

/-- The entries under some names, without the names that have no value. -/
def namedEntries (fields : List (String × Option Value)) : List (Value × Value) :=
  fields.filterMap fun field => field.2.map (Value.string field.1, ·)

theorem field?_namedEntries_cons (n name : String) (v : Option Value)
    (rest : List (String × Option Value)) :
    Value.field? name (namedEntries ((n, v) :: rest)) =
      (if n == name then v else none).or (Value.field? name (namedEntries rest)) := by
  cases v with
  | none => simp [namedEntries]
  | some v =>
    have hfirst : Value.field? name (namedEntries ((n, some v) :: rest)) =
        if n == name then some v else Value.field? name (namedEntries rest) := by
      rw [Value.field?, namedEntries, List.filterMap_cons, Option.map_some, Value.findKey,
        Value.sameKey]
      rfl
    rw [hfirst]
    split
    · rfl
    · rfl

theorem field?_namedEntries_of_not_mem {fields : List (String × Option Value)} {name : String}
    (h : name ∉ fields.map Prod.fst) : Value.field? name (namedEntries fields) = none := by
  induction fields with
  | nil => rfl
  | cons field rest ih =>
    rw [List.map_cons, List.mem_cons, not_or] at h
    rw [field?_namedEntries_cons, ih h.2, if_neg (by simpa using Ne.symm h.1), Option.or_none]

theorem field?_namedEntries {fields : List (String × Option Value)} {name : String}
    {value : Option Value} (hnames : (fields.map Prod.fst).Nodup) (h : (name, value) ∈ fields) :
    Value.field? name (namedEntries fields) = value := by
  induction fields with
  | nil => cases h
  | cons field rest ih =>
    rw [List.map_cons, List.nodup_cons] at hnames
    rw [field?_namedEntries_cons]
    rcases List.mem_cons.mp h with rfl | hrest
    · rw [field?_namedEntries_of_not_mem hnames.1, if_pos (beq_self_eq_true name), Option.or_none]
    · have hother : field.1 ≠ name := by
        rintro rfl
        exact hnames.1 (List.mem_map.mpr ⟨_, hrest, rfl⟩)
      rw [if_neg (by simpa using hother), Option.none_or, ih hnames.2 hrest]

/-- The texts of a site, in the order of their entries. -/
def TextKey.inSite : List TextKey :=
  [.siteName, .tagline, .baseUrl, .description, .socialImage, .favicon, .bannerImage, .fontsUrl,
    .authorName, .authorUrl, .footerImage, .repoUrl, .version]

/-- The paths of a site, in the order of their entries. -/
def TextKey.inPaths : List TextKey :=
  [.baseStylesheet, .outputDir, .releasesFile]

namespace SiteConfig

variable (c : SiteConfig) (out : SiteKey → Bool) (blank : TextKey → Option Value)

/-- The name of a text with the value that is written for it. -/
def textEntry (k : TextKey) : String × Option Value :=
  (k.name, if out (.text k) then blank k else some (.string (c.textOf k)))

/-- The name of the handle with the value that is written for it. -/
def handleEntry : String × Option Value :=
  (handleField, if out .handle then none else some ((c.twitterHandle.map .string).getD .null))

/-- The names at the top with the values that are written for them. -/
def sectionEntries : List (String × Option Value) :=
  [("site", some (.map (namedEntries
      (c.handleEntry out :: TextKey.inSite.map (c.textEntry out blank))))),
    ("paths", some (.map (namedEntries (TextKey.inPaths.map (c.textEntry out blank))))),
    ("nav_links", if out .navLinks then none else
      some (.list (c.navLinks.map fun link =>
        .map [(.string "label", .string link.label), (.string "href", .string link.href)]))),
    ("pages", if out .pageOutputs then none else
      some (.map (c.pageOutputs.map fun output => (.string output.1, .string output.2))))]

/-- The configuration as a mapping. A key that is left out has no entry there, but a text has the
one that is given for it, if any. -/
def written : Value :=
  .map (namedEntries (c.sectionEntries out blank))

theorem sectionEntries_nodup : ((c.sectionEntries out blank).map Prod.fst).Nodup :=
  show ["site", "paths", "nav_links", "pages"].Nodup by decide

theorem siteEntries_nodup :
    ((c.handleEntry out :: TextKey.inSite.map (c.textEntry out blank)).map Prod.fst).Nodup :=
  show (handleField :: TextKey.inSite.map TextKey.name).Nodup by decide

theorem pathEntries_nodup :
    ((TextKey.inPaths.map (c.textEntry out blank)).map Prod.fst).Nodup :=
  show (TextKey.inPaths.map TextKey.name).Nodup by decide

variable {c out blank}

/-- Writing spells the configuration, whatever is left out. -/
theorem isSpelledBy_written (hblank : ∀ k, blank k = none ∨ IsBlankEntry (blank k)) :
    c.IsSpelledBy out (c.written out blank) := by
  have hsections := c.sectionEntries_nodup out blank
  refine ⟨_, _, _, rfl, .inl ⟨_, field?_namedEntries hsections (.head _), rfl⟩,
    .inl ⟨_, field?_namedEntries hsections (.tail _ (.head _)), rfl⟩, ?texts, ?handle, ?links,
    ?outputs⟩
  case texts =>
    intro k
    have hentry : Value.field? k.name
        (if k.isPath then namedEntries (TextKey.inPaths.map (c.textEntry out blank)) else
          namedEntries (c.handleEntry out :: TextKey.inSite.map (c.textEntry out blank))) =
        (c.textEntry out blank k).2 := by
      split
      · have hk : k ∈ TextKey.inPaths := by cases k <;> first | contradiction | decide
        exact field?_namedEntries (c.pathEntries_nodup out blank) (List.mem_map_of_mem hk)
      · have hk : k ∈ TextKey.inSite := by cases k <;> first | contradiction | decide
        exact field?_namedEntries (c.siteEntries_nodup out blank)
          (List.mem_cons_of_mem _ (List.mem_map_of_mem hk))
    rw [hentry, textEntry]
    cases hk : out (.text k) with
    | false => simp [SpellsText]
    | true => simpa [SpellsText] using hblank k
  case handle =>
    rw [field?_namedEntries (c.siteEntries_nodup out blank) (.head _), SpellsHandle.eq_def]
    cases out .handle with
    | true => rfl
    | false =>
      cases c.twitterHandle with
      | some s => rfl
      | none => exact .inl rfl
  case links =>
    rw [field?_namedEntries hsections (.tail _ (.tail _ (.head _))), SpellsLinks]
    cases out .navLinks with
    | true => exact .inl rfl
    | false =>
      refine ⟨_, _, rfl, rfl, ?_⟩
      rw [List.forall₂_map_right_iff, List.forall₂_same]
      exact fun link _ => ⟨_, rfl, rfl, rfl⟩
  case outputs =>
    rw [field?_namedEntries hsections (.tail _ (.tail _ (.tail _ (.head _)))), SpellsOutputs]
    cases out .pageOutputs with
    | true => exact .inl rfl
    | false =>
      refine ⟨_, _, rfl, rfl, ?_⟩
      rw [List.forall₂_map_right_iff, List.forall₂_same]
      exact fun output _ => ⟨rfl, .inl rfl⟩

end SiteConfig

end StaticSite
