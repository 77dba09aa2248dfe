/-
StaticSite.Generate.Run — a run over the pages of a site.

A run reads the configuration, creates the output directory and generates
the pages one after the other, all with the same stylesheet. A page whose
files cannot be read or written does not keep the others from being
generated; the first such failure is the error of the run. Any other
failure ends the run at once.

Each page is reported on. The report shows where the file of the page is, as
seen from the working directory. When that directory has been taken away, an
absolute path cannot be shown: the run ends there, whatever became of the
page.
-/
import StaticSite.Config.File
import StaticSite.Generate.Document

namespace StaticSite

/-! ## 1. Requests and reports -/

/-- What a run is asked for. An empty key asks for all pages, as no key does. -/
structure RunRequest where
  page : Option String := none
  config : Path := .ofText "config/site.yaml"
  outputDir : Option Path := none
  deriving DecidableEq, Repr

/-- What became of a page. -/
inductive PageReport where
  | wrote (p : Path)
  | failed (p : Path) (resource : Unavailable)
  deriving DecidableEq, Repr

/-- Why a page ends a run. -/
inductive RunAbort where
  | page (e : PageError)
  /-- The path of its file cannot be shown. -/
  | unshown
  deriving DecidableEq, Repr

/-- Why a run fails. -/
inductive RunError where
  | config (e : LoadError ConfigError)
  | unknownPage (key : String)
  | outputDir (e : FileError)
  /-- Some page's files could not be read or written; this was the first. -/
  | unavailable (resource : Unavailable)
  /-- A page ended the run. -/
  | aborted (cause : RunAbort)
  deriving DecidableEq, Repr

/-- What comes of a run: the files afterwards, a report on each page that was tried and did
not end the run, and why the run failed, if it did. -/
structure RunResult where
  files : FileSystem
  reports : List PageReport
  failure : Option RunError

/-! ## 2. Reporting on a page -/

/-- The directory that relative paths start from, as a path, if it is still there. -/
def FileSystem.herePath? (fs : FileSystem) : Option Path :=
  if fs.isAdrift then none else some ⟨.absolute, fs.here⟩

/-- A path as it is shown. A relative one is shown as it is, an absolute one as seen from the
directory that relative paths start from. -/
def FileSystem.shown? (fs : FileSystem) (p : Path) : Option String :=
  if p.isAbsolute then fs.herePath?.map p.shortText else some p.text

/-- The path of the file that a report is about. -/
def PageReport.path : PageReport → Path
  | .wrote p => p
  | .failed p _ => p

/-- The line of a report, if its path can be shown. -/
def PageReport.line? (fs : FileSystem) (report : PageReport) : Option String :=
  (fs.shown? report.path).map fun shown =>
    match report with
    | .wrote _ => "wrote " ++ shown
    | .failed _ resource =>
      "failed " ++ shown ++ ": " ++ resource.path.text ++ ": " ++ resource.cause.reason

/-- Does a report say that a page was written? -/
def PageReport.isSuccess : PageReport → Bool
  | .wrote _ => true
  | .failed _ _ => false

/-- What is to be said of a page, or why the run ends with it. -/
def PageReport.of (p : Path) : Option PageError → Except RunAbort PageReport
  | none => .ok (.wrote p)
  | some e =>
    match e.resource? with
    | some resource => .ok (.failed p resource)
    | none => .error (.page e)

/-- The report on a page, or why the run ends without one. -/
def FileSystem.reportOn (fs : FileSystem) (p : Path) (failure : Option PageError) :
    Except RunAbort PageReport :=
  match PageReport.of p failure, fs.shown? p with
  | .error cause, _ => .error cause
  | .ok _, none => .error .unshown
  | .ok report, some _ => .ok report

/-! ## 3. The pages of a run -/

/-- What comes of some pages: as for a run, but with a failure only if it ended the run. -/
structure PagesResult where
  files : FileSystem
  reports : List PageReport
  abort : Option RunAbort

/-- The result with one more report in front. -/
def PagesResult.withReport (report : PageReport) (result : PagesResult) : PagesResult :=
  { result with reports := report :: result.reports }

/-- Generates pages one after the other. -/
def generatePages (site : SiteConfig) (sheet : Stylesheet) (fs : FileSystem) :
    List Page → PagesResult
  | [] => ⟨fs, [], none⟩
  | page :: rest =>
    let p := site.outputPath page.frame.key page.frame.filename
    let made := page.generate site sheet fs p
    match made.files.reportOn p made.failure with
    | .ok report => (generatePages site made.sheet made.files rest).withReport report
    | .error cause => ⟨made.files, [], some cause⟩

/-- The failure of the first page that could not be read or written. -/
def firstFailure? : List PageReport → Option Unavailable
  | [] => none
  | .wrote _ :: rest => firstFailure? rest
  | .failed _ resource :: _ => some resource

/-- The failure of a run, after its pages. -/
def PagesResult.failure? (result : PagesResult) : Option RunError :=
  match result.abort with
  | some cause => some (.aborted cause)
  | none => (firstFailure? result.reports).map RunError.unavailable

/-! ## 4. The run -/

/-- The pages that a request asks for, if there are such pages. -/
def requestedPages (key : Option String) : Except RunError (List Page) :=
  match key with
  | none => .ok registry
  | some key =>
    if key.isEmpty then .ok registry
    else
      match findPage? key registry with
      | some page => .ok [page]
      | none => .error (.unknownPage key)

/-- The configuration of a run: its own output directory counts before the configured one. -/
def runSite (fs : FileSystem) (request : RunRequest) : Except RunError SiteConfig :=
  match SiteConfig.load fs request.config with
  | .error e => .error (.config e)
  | .ok site => .ok { site with outputDir := request.outputDir.getD site.outputDir }

/-- A run over the files. -/
def generateSite (fs : FileSystem) (request : RunRequest) : RunResult :=
  match runSite fs request with
  | .error e => ⟨fs, [], some e⟩
  | .ok site =>
    match requestedPages request.page with
    | .error e => ⟨fs, [], some e⟩
    | .ok pages =>
      match fs.makeDirectories site.outputDir with
      | (fs, some e) => ⟨fs, [], some (.outputDir e)⟩
      | (fs, none) =>
        let result := generatePages site (.unread site.baseStylesheet) fs pages
        ⟨result.files, result.reports, result.failure?⟩

/-! ## 5. What a run prints -/

/-- The lines on the pages that were written, as paths are shown in a file system. -/
def RunResult.wroteLines (fs : FileSystem) (result : RunResult) : List String :=
  (result.reports.filter PageReport.isSuccess).filterMap (PageReport.line? fs)

/-- The lines on the pages that could not be read or written. -/
def RunResult.errorLines (fs : FileSystem) (result : RunResult) : List String :=
  (result.reports.filter fun report => !report.isSuccess).filterMap (PageReport.line? fs)

/-- The output of a run. -/
def RunResult.stdout (fs : FileSystem) (result : RunResult) : String :=
  Text.asLines (result.wroteLines fs)

/-- The output of a run on errors. -/
def RunResult.stderr (fs : FileSystem) (result : RunResult) : String :=
  Text.asLines (result.errorLines fs)

end StaticSite
