/-
StaticSite.Session.Step — the steps of a session.

A step changes the state and gives an answer. A step that fails gives the
reason for its answer, and the session goes on.
-/
import StaticSite.Session.Basic

namespace StaticSite.Session

open StaticSite.Text

/-! ## 1. Steps -/

/-- A page to be made: a registered one by its key, or one of its own. -/
inductive PageSource where
  | registered (key : String) (releases : Option (List Release))
  | custom (page : Page)

/-- A step. Names stand for stylesheets, sites and pages. -/
inductive Step where
  | write (p : Path) (bytes : ByteArray)
  | makeDirectory (p : Path)
  | delete (p : Path)
  | list
  | read (p : Path)
  | mode (path : String)
  | writeText (p : Path) (text : RawText)
  | stylesheet (name : String) (p : Path)
  | css (name : String)
  | site (name : String) (site : SiteConfig)
  | loadSite (name : String) (p : Path)
  | changeSite (name : String) (change : SiteConfig → SiteConfig)
  | addLink (name : String) (link : NavLink)
  | links (name : String)
  | outputPath (name key usual : String)
  | loadReleases (p : Path)
  | page (name : String) (source : PageSource) (site : String)
  | title (name : String)
  | content (name : String)
  | header (name : String)
  | render (name sheet : String)
  | generate (name sheet : String) (p : Path)

/-! ## 2. Answers -/

/-- Why a step fails. -/
inductive StepError where
  | unknown (name : String)
  | file (e : FileError)
  | notText
  | write (e : WriteError)
  | page (e : PageError)
  | config (e : LoadError ConfigError)
  | releases (e : LoadError ReleaseError)
  deriving DecidableEq, Repr

/-- What a step answers. -/
inductive Answer where
  | done
  | text (s : String)
  | path (p : Path)
  | paths (ps : List String)
  | mode (m : Nat)
  | site (site : SiteConfig)
  | links (links : List NavLink)
  | releases (releases : List Release)
  | title (title picture : String)
  | failed (e : StepError)
  deriving DecidableEq, Repr

/-! ## 3. Listing -/

/-- How a location below another one is listed: its path from there, a directory with a
slash at its end. -/
def listed? (here : Location) (entry : Location × Entry) : Option String :=
  match Path.dropParts? here entry.1 with
  | none | some [] => none
  | some parts =>
    match entry.2 with
    | .directory => some (joinWith "/" parts ++ "/")
    | .file _ _ => some (joinWith "/" parts)

/-- All that lies below the working directory, in the order of its characters. -/
def listing (fs : FileSystem) : List String :=
  (fs.entries.filterMap (listed? (fs.startOf ⟨.relative, []⟩))).mergeSort fun a b => decide (a ≤ b)

/-! ## 4. Running -/

/-- The state with files that were changed, perhaps only in part. -/
def State.withSomeFiles (st : State) (changed : FileSystem × Option FileError) : State × Answer :=
  ({ st with files := changed.1 },
    match changed.2 with
    | none => .done
    | some e => .failed (.file e))

/-- The text of a file, with its line ends as they are. -/
def fileText (fs : FileSystem) (p : Path) : Answer :=
  match fs.readBytes p with
  | .error e => .failed (.file e)
  | .ok bytes =>
    match decodeUtf8 bytes with
    | none => .failed .notText
    | some s => .text s

/-- The page that a source stands for, or the key that no page has. -/
def PageSource.resolve : PageSource → Except String Page
  | .custom page => .ok page
  | .registered key releases =>
    match findPage? key registry with
    | none => .error key
    | some page => .ok (page.withReleases releases)

/-- The answer from the page under a name and its site. -/
def State.withPage (st : State) (name : String) (answer : Page → SiteConfig → Answer) : Answer :=
  match find? name st.pages with
  | none => .failed (.unknown name)
  | some made => answer made.page (st.siteAt made.site)

/-- The state after a step, and its answer. -/
def State.step (st : State) : Step → State × Answer
  | .write p bytes => st.withSomeFiles (st.files.writePlain p bytes)
  | .makeDirectory p => st.withSomeFiles (st.files.makeDirectories p)
  | .delete p => st.withSomeFiles (st.files.delete p)
  | .list => (st, .paths (listing st.files))
  | .read p => (st, fileText st.files p)
  | .mode path =>
    match st.files.mode path with
    | .error e => (st, .failed (.file e))
    | .ok m => (st, .mode m)
  | .writeText p text =>
    let written := st.files.writeText p text
    ({ st with files := written.1 },
      match written.2 with
      | some e => .failed (.write e)
      | none => .path p)
  | .stylesheet name p => ({ st with sheets := put name (.unread p) st.sheets }, .done)
  | .css name =>
    match find? name st.sheets with
    | none => (st, .failed (.unknown name))
    | some sheet =>
      let (sheet, text) := sheet.text st.files
      ({ st with sheets := put name sheet st.sheets },
        match text with
        | .error e => .failed (.page (.stylesheet e))
        | .ok text => .text text)
  | .site name site => (st.addSite name site, .done)
  | .loadSite name p =>
    match SiteConfig.load st.files p with
    | .error e => (st, .failed (.config e))
    | .ok site => (st.addSite name site, .site site)
  | .changeSite name change =>
    match find? name st.siteNumbers with
    | none => (st, .failed (.unknown name))
    | some n => (st.changeSite n change, .done)
  | .addLink name link =>
    match find? name st.siteNumbers with
    | none => (st, .failed (.unknown name))
    | some n => (st.changeSite n fun site => { site with navLinks := site.navLinks ++ [link] }, .done)
  | .links name =>
    match find? name st.siteNumbers with
    | none => (st, .failed (.unknown name))
    | some n => (st, .links (st.siteAt n).navLinks)
  | .outputPath name key usual =>
    match find? name st.siteNumbers with
    | none => (st, .failed (.unknown name))
    | some n => (st, .path ((st.siteAt n).outputPath key usual))
  | .loadReleases p =>
    match StaticSite.loadReleases st.files p with
    | .error e => (st, .failed (.releases e))
    | .ok releases => (st, .releases releases)
  | .page name source site =>
    match find? site st.siteNumbers with
    | none => (st, .failed (.unknown site))
    | some n =>
      match source.resolve with
      | .error key => (st, .failed (.unknown key))
      | .ok page => ({ st with pages := put name ⟨page, n⟩ st.pages }, .done)
  | .title name =>
    (st, st.withPage name fun page site =>
      .title (page.frame.title site) (page.frame.footerPicture site))
  | .content name =>
    (st, st.withPage name fun page site =>
      match page.content site st.files with
      | .error e => .failed (.page (.content e))
      | .ok html => .text html)
  | .header name => (st, st.withPage name fun _ site => .text (PageFrame.header site))
  | .render name sheetName =>
    match find? name st.pages, find? sheetName st.sheets with
    | none, _ => (st, .failed (.unknown name))
    | _, none => (st, .failed (.unknown sheetName))
    | some entry, some sheet =>
      let (sheet, document) := entry.page.render (st.siteAt entry.site) sheet st.files
      ({ st with sheets := put sheetName sheet st.sheets },
        match document with
        | .error e => .failed (.page e)
        | .ok html => .text html)
  | .generate name sheetName p =>
    match find? name st.pages, find? sheetName st.sheets with
    | none, _ => (st, .failed (.unknown name))
    | _, none => (st, .failed (.unknown sheetName))
    | some entry, some sheet =>
      let made := entry.page.generate (st.siteAt entry.site) sheet st.files p
      ({ st with files := made.files, sheets := put sheetName made.sheet st.sheets },
        match made.failure with
        | some e => .failed (.page e)
        | none => .path p)

/-- The answers to some steps, one after the other. -/
def State.run (st : State) : List Step → List Answer
  | [] => []
  | s :: rest =>
    let (st, answer) := st.step s
    answer :: st.run rest

end StaticSite.Session
