/-
StaticSite.Release.Load — release notes out of a value.

The value is a mapping with the entries `releases` and `binaries`. Prose is
written in Markdown and turned into markup here. The programs of the whole
file are read first; then the releases are read one after the other, each
in the order of its fields. The first fault decides the error.
-/
import StaticSite.Config.Load
import StaticSite.Release.Basic
import StaticSite.Markdown.ToHtml
import StaticSite.Files.DataFile

namespace StaticSite

open StaticSite.Text

/-! ## 1. Faults -/

/-- What is wrong with release notes. -/
inductive ReleaseError where
  /-- The whole value is not a mapping. -/
  | notMapping
  | releasesNotList
  | noVersion (index : Nat)
  /-- A scalar stands where paragraphs or sections should. -/
  | noParts
  | sectionIncomplete (version : String)
  | binariesNotMapping (context : String)
  | targetsNotList (context platform : String)
  | noText (e : Value.TextError)
  deriving DecidableEq, Repr

/-- The wording of the faults that have one. -/
def ReleaseError.message : ReleaseError → Option String
  | .notMapping => some "Top-level release notes structure must be a mapping."
  | .releasesNotList => some "'releases' must be a list."
  | .noVersion index =>
    some ("Release #" ++ String.ofList (Number.natText index) ++
      " must be a mapping with a 'version'.")
  | .noParts => none
  | .noText _ => none
  | .sectionIncomplete version =>
    some ("Release " ++ version ++ " has a section without 'heading' and 'items'.")
  | .binariesNotMapping context =>
    some ("'" ++ context ++ "' must map platforms to lists of target triples.")
  | .targetsNotList context platform =>
    some ("'" ++ context ++ "' entry for " ++ platform ++ " must list target triples.")

/-- The kind of error that a fault is raised as. -/
def ReleaseError.kind : ReleaseError → ErrorKind
  | .noParts => .type
  | .noText _ => .value
  | .notMapping | .releasesNotList | .noVersion _ | .sectionIncomplete _ | .binariesNotMapping _
  | .targetsNotList _ _ => .config

/-- The text of a value, or the fault that there is none. -/
def noteText (v : Value) : Except ReleaseError String :=
  match v.text with
  | .ok s => .ok s
  | .error e => .error (.noText e)

/-- The texts of values, or the fault of the first one that has none. -/
def noteTexts : List Value → Except ReleaseError (List String)
  | [] => .ok []
  | v :: rest =>
    match noteText v with
    | .error e => .error e
    | .ok s =>
      match noteTexts rest with
      | .error e => .error e
      | .ok ss => .ok (s :: ss)

/-! ## 2. Programs -/

/-- The table with targets put under a platform: in the place of that platform, or at the
end. -/
def putTargets (platform : String) (targets : List String) : Binaries → Binaries
  | [] => [(platform, targets)]
  | (p, old) :: rest =>
    if p == platform then (p, targets) :: rest else (p, old) :: putTargets platform targets rest

/-- The targets that a value lists; a text is a single target. -/
def targetsOf? : Value → Option (List Value)
  | .string target => some [.string target]
  | v => v.items?

/-- The table with the targets of the entries put in one after the other. -/
def addTargets (context : String) (table : Binaries) :
    List (Value × Value) → Except ReleaseError Binaries
  | [] => .ok table
  | (platform, targets) :: rest =>
    match noteText platform, targetsOf? targets with
    | .error e, _ => .error e
    | .ok platform, none => .error (.targetsNotList context platform)
    | .ok platform, some targets =>
      match noteTexts targets with
      | .error e => .error e
      | .ok targets => addTargets context (putTargets platform targets table) rest

/-- The programs that a value spells, none for null. The context names the value in errors. -/
def binariesOf (context : String) : Value → Except ReleaseError Binaries
  | .null => .ok []
  | v =>
    match v.entries? with
    | some entries => addTargets context [] entries
    | none => .error (.binariesNotMapping context)

/-! ## 3. Prose -/

/-- What a value holds: the members of a list or a set, the characters of a text, the numbers
of bytes, the keys of a mapping. -/
def Value.parts? : Value → Option (List Value)
  | .fixedList items => some items
  | .string s => some (s.toList.map fun c => .string (String.singleton c))
  | .bytes content => some (content.map fun b => .int b.toNat)
  | v => v.items? <|> v.members? <|> v.entries?.map (·.map Prod.fst)

/-- What a value can be taken apart into, nothing for a void one. Other values cannot be taken
apart. -/
def membersOf (v : Value) : Except ReleaseError (List Value) :=
  if v.isVoid then .ok []
  else
    match v.parts? with
    | some parts => .ok parts
    | none => .error .noParts

/-- The paragraphs before the sections. Blank ones are left out. -/
def introOf (v : Value) : Except ReleaseError (List String) :=
  match membersOf v with
  | .error e => .error e
  | .ok members =>
    match noteTexts members with
    | .error e => .error e
    | .ok texts => .ok ((texts.map Markdown.toHtml).filter fun html => !html.isEmpty)

/-- A section of the release with the version. -/
def sectionOf (version : String) (v : Value) : Except ReleaseError ReleaseSection :=
  let entries := v.entries?.getD []
  match Value.field? "heading" entries, (Value.field? "items" entries).bind Value.items? with
  | some heading, some items =>
    match noteText heading, noteTexts items with
    | .ok heading, .ok items => .ok ⟨heading, items.map Markdown.toInlineHtml⟩
    | .error e, _ => .error e
    | _, .error e => .error e
  | _, _ => .error (.sectionIncomplete version)

/-- The sections of the release with the version. -/
def sectionsOf (version : String) : List Value → Except ReleaseError (List ReleaseSection)
  | [] => .ok []
  | v :: rest =>
    match sectionOf version v with
    | .error e => .error e
    | .ok s =>
      match sectionsOf version rest with
      | .error e => .error e
      | .ok ss => .ok (s :: ss)

/-! ## 4. Releases -/

/-- The value of a field, null if there is none. -/
def noteField (name : String) (entries : List (Value × Value)) : Value :=
  (Value.field? name entries).getD .null

/-- The version of the entry at an index: text without blank characters at its ends, out of
a value that is not void. -/
def versionOf (index : Nat) (entries : List (Value × Value)) : Except ReleaseError String :=
  let v := noteField "version" entries
  if v.isVoid then .error (.noVersion index)
  else
    match noteText v with
    | .ok s => .ok (strip s)
    | .error e => .error e

/-- The release that the fields of an entry spell. It has the programs of the whole file,
unless it names its own. -/
def Release.ofFields (index : Nat) (usual : Binaries) (entries : List (Value × Value)) :
    Except ReleaseError Release := do
  let version ← versionOf index entries
  let intro ← introOf (noteField "intro" entries)
  let members ← membersOf (noteField "sections" entries)
  let sections ← sectionsOf version members
  let binaries ←
    match Value.field? "binaries" entries with
    | some own => binariesOf (version ++ " binaries") own
    | none => .ok usual
  .ok { version, intro, sections, binaries }

/-- The release of the entry at an index. -/
def Release.ofValue (index : Nat) (usual : Binaries) (v : Value) : Except ReleaseError Release :=
  match v.entries? with
  | some entries => Release.ofFields index usual entries
  | none => .error (.noVersion index)

/-- The releases of the entries from an index on. -/
def releasesFrom (usual : Binaries) (index : Nat) :
    List Value → Except ReleaseError (List Release)
  | [] => .ok []
  | entry :: rest =>
    match Release.ofValue index usual entry with
    | .error e => .error e
    | .ok release =>
      match releasesFrom usual (index + 1) rest with
      | .error e => .error e
      | .ok releases => .ok (release :: releases)

/-- The releases that top-level entries spell. -/
def releasesOfEntries (entries : List (Value × Value)) : Except ReleaseError (List Release) :=
  match binariesOf "binaries" (noteField "binaries" entries) with
  | .error e => .error e
  | .ok usual =>
    let notes := noteField "releases" entries
    if notes.isVoid then .ok []
    else
      match notes.items? with
      | some items => releasesFrom usual 0 items
      | none => .error .releasesNotList

/-- The releases that a value spells; a void value spells none. -/
def releasesOf (v : Value) : Except ReleaseError (List Release) :=
  if v.isVoid then releasesOfEntries []
  else
    match v.entries? with
    | some entries => releasesOfEntries entries
    | none => .error .notMapping

/-! ## 5. Files -/

/-- The releases that a file spells. -/
def loadReleases (fs : FileSystem) (p : Path) : Except (LoadError ReleaseError) (List Release) :=
  fs.loadData releasesOf p

/-- The wording for a file of release notes that does not exist. -/
def missingNotesMessage (p : Path) : String :=
  "Release notes file '" ++ p.text ++ "' not found."

end StaticSite
