/-
StaticSite.Proofs.Generate.Resuming — a run on the files that another run has left.

A run that starts where another one has ended sees new directories and new
files of pages. As long as no page was written over the configuration
(`outputsApart`), it loads the same site again, finds the output directory
in its place, and comes to its pages (`generateSite_resumed`).
-/
import StaticSite.Proofs.Generate.Frame

namespace StaticSite

open FileSystem

/-! ## 1. Paths that no page is written to -/

/-- Do two paths lead to the same location? -/
def FileSystem.leadsToSame (fs : FileSystem) (p q : Path) : Bool :=
  match fs.resolve p, fs.resolve q with
  | .ok l, .ok m => l == m
  | _, _ => false

theorem FileSystem.not_leadsToSame {fs : FileSystem} {p q : Path} {l : Location}
    (h : fs.leadsToSame p q = false) (hp : fs.resolve p = .ok l) : fs.resolve q ≠ .ok l := by
  intro hq
  rw [leadsToSame, hp, hq] at h
  simp at h

/-- Does the file of every requested page lie apart from where some paths lead? The paths may
depend on the site, and are followed once its output directory has been created. -/
def outputsApart (fs : FileSystem) (request : RunRequest) (paths : SiteConfig → List Path) :
    Bool :=
  match runSite fs request, requestedPages request.page with
  | .ok site, .ok pages =>
    pages.all fun page => (paths site).all fun p =>
      !(fs.prepared site).leadsToSame (page.target site) p
  | _, _ => true

/-- A working directory with a configuration and a stylesheet. -/
def smallSystem (config : String) : FileSystem :=
  (((FileSystem.empty ["w"]).put ["w", "config"] .directory).put ["w", "config", "site.yaml"]
    (.file (Text.encodeUtf8 config))).put ["w", "base.css"] (.file .empty)

/-- The configuration of a site whose user guide goes to a directory that is not there. -/
def straySite : SiteConfig :=
  { pageOutputs := [("user-guide", "m/x")] }

/-- The files of such a site, without release notes. -/
def strayFiles : FileSystem :=
  smallSystem "pages: \x7buser-guide: m/x\x7d"

/-- The locations of the files of some pages, once the output directory has been created. -/
def IsTarget (fs : FileSystem) (site : SiteConfig) (pages : List Page) (l : Location) : Prop :=
  ∃ page ∈ pages, (fs.prepared site).resolve (page.target site) = .ok l

theorem outputsApart_leadsOff {fs : FileSystem} {request : RunRequest}
    {paths : SiteConfig → List Path} {site : SiteConfig} {pages : List Page}
    (h : outputsApart fs request paths = true) (hsite : runSite fs request = .ok site)
    (hpages : requestedPages request.page = .ok pages) {p : Path} (hp : p ∈ paths site) :
    (fs.prepared site).LeadsOff (IsTarget fs site pages) p := by
  simp only [outputsApart, hsite, hpages, List.all_eq_true, Bool.not_eq_true'] at h
  rintro l hl ⟨page, hpage, htarget⟩
  exact not_leadsToSame (h page hpage p hp) htarget hl

/-! ## 2. Paths shown once more -/

section

variable {a b : FileSystem}

theorem FileSystem.shown?_congr (hhere : b.here = a.here) (hstanding : b.standing = a.standing)
    (p : Path) : b.shown? p = a.shown? p := by
  rw [shown?, shown?, herePath?, herePath?, isAdrift, isAdrift, hhere, hstanding]

theorem FileSystem.shown?_prepared (fs : FileSystem) (site : SiteConfig) (p : Path) :
    (fs.prepared site).shown? p = fs.shown? p :=
  have hkept := (makeDirectories_adds fs site.outputDir).kept
  shown?_congr hkept.here hkept.standing p

theorem FileSystem.AgreesOff.shown?_eq {S : Location → Prop} (h : AgreesOff S a b) (p : Path) :
    b.shown? p = a.shown? p :=
  shown?_congr h.here h.standing p

/-- Where all paths are shown the same, all pages have the same reports. -/
theorem FileSystem.reportOn_congr (h : ∀ p, b.shown? p = a.shown? p) (p : Path)
    (failure : Option PageError) : b.reportOn p failure = a.reportOn p failure := by
  rw [reportOn, reportOn, h]

theorem PageReport.line?_congr (h : ∀ p, b.shown? p = a.shown? p) (report : PageReport) :
    report.line? b = report.line? a := by
  rw [line?, line?, h]

end

/-! ## 3. The site once more -/

theorem runSite_ok_iff {fs : FileSystem} {request : RunRequest} {site : SiteConfig} :
    runSite fs request = .ok site ↔
      ∃ loaded, SiteConfig.load fs request.config = .ok loaded ∧
        site = { loaded with outputDir := request.outputDir.getD loaded.outputDir } := by
  rw [runSite]
  cases SiteConfig.load fs request.config <;> simp [eq_comm]

theorem runSite_ok_mono {a b : FileSystem} {request : RunRequest} {site : SiteConfig}
    (hread : ∀ bytes, a.readBytes request.config = .ok bytes →
      b.readBytes request.config = .ok bytes)
    (h : runSite a request = .ok site) : runSite b request = .ok site := by
  rw [runSite_ok_iff] at h ⊢
  obtain ⟨loaded, hload, hsite⟩ := h
  exact ⟨loaded, loadData_ok_mono hread hload, hsite⟩

theorem runSite_prepared {fs : FileSystem} {request : RunRequest} {site : SiteConfig}
    (h : runSite fs request = .ok site) : runSite (fs.prepared site) request = .ok site :=
  runSite_ok_mono (fun _ => (makeDirectories_adds fs site.outputDir).kept.readBytes_ok) h

/-- The site stays the same when files change that its configuration is not one of. -/
theorem runSite_resumed {S : Location → Prop} {fs b : FileSystem} {request : RunRequest}
    {site : SiteConfig} (hsite : runSite fs request = .ok site)
    (hagrees : AgreesOff S (fs.prepared site) b)
    (hconfig : (fs.prepared site).LeadsOff S request.config) : runSite b request = .ok site :=
  runSite_ok_mono (fun _ => hagrees.readBytes_ok hconfig) (runSite_prepared hsite)

/-! ## 4. The run once more -/

/-- The output directory is there already, and nothing has to be created. -/
theorem makeDirectories_resumed {S : Location → Prop} {fs b : FileSystem} {site : SiteConfig}
    (hmade : (fs.makeDirectories site.outputDir).2 = none)
    (hagrees : AgreesOff S (fs.prepared site) b) :
    b.makeDirectories site.outputDir = (b, none) :=
  makeDirectories_of_isDirectory
    (hagrees.keepsDirectories.isDirectory ((makeDirectories_none_iff fs site.outputDir).mp hmade))

/-- A run on the files of another one, with the same configuration and output directory, is the
loop over its own pages on these files. -/
theorem generateSite_resumed {S : Location → Prop} {fs b : FileSystem} {key : Option String}
    {request : RunRequest} {site : SiteConfig} {pages : List Page}
    (hsite : runSite fs request = .ok site)
    (hmade : (fs.makeDirectories site.outputDir).2 = none)
    (hagrees : AgreesOff S (fs.prepared site) b)
    (hconfig : (fs.prepared site).LeadsOff S request.config)
    (hpages : requestedPages key = .ok pages) :
    generateSite b { request with page := key } = (generateFrom site b b pages).toRun := by
  have hdir := makeDirectories_resumed hmade hagrees
  have hprepared : b.prepared site = b := by rw [prepared, hdir]
  have hsite' : runSite b { request with page := key } = .ok site :=
    runSite_resumed hsite hagrees hconfig
  rw [generateSite_of_directory hsite' hpages (by rw [hdir]), hprepared]

end StaticSite
