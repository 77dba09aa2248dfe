/-
StaticSite.Proofs.Generate.Frame — what a run changes, and what it leaves alone.

A location looks the same after a run as before it, with two exceptions:
the output directory and its ancestors may be new, and a place that the
path of a requested page leads to may hold the whole document of that page
(`OnlyOutputs`). This holds wherever the run ends: the loop over the pages
changes the files by one whole document at a time (`generateFrom_entry`),
and all that happens before it is the creation of directories. In turn, a
page that is reported as written leads to a document
(`generateFrom_wrote`).
-/
import StaticSite.Proofs.Generate.Pages

namespace StaticSite

open FileSystem

/-! ## 1. The loop -/

/-- A page changes nothing outside the place that its path leads to. -/
theorem Page.stepFrom_agreesOff {S : Location → Prop} {page : Page} {site : SiteConfig}
    {start fs : FileSystem} (hS : ∀ l, fs.resolve (page.target site) = .ok l → S l) :
    AgreesOff S fs (page.stepFrom site start fs).1 := by
  rcases page.stepFrom_cases site start fs with ⟨text, l, -, hplace, hstep⟩ | ⟨e, hstep⟩
  · rw [hstep]
    exact .put_file (get?_writePlace hplace) (hS l (resolve_writePlace hplace)) _
  · rw [hstep]
    exact .refl S fs

/-- The loop changes nothing outside the places that the paths of its pages lead to. -/
theorem generateFrom_agreesOff {S : Location → Prop} {site : SiteConfig}
    {start fs : FileSystem} {pages : List Page}
    (hS : ∀ page ∈ pages, ∀ l, fs.resolve (page.target site) = .ok l → S l) :
    AgreesOff S fs (generateFrom site start fs pages).files := by
  induction pages generalizing fs with
  | nil => exact .refl S fs
  | cons page rest ih =>
    have hstep : AgreesOff S fs (page.stepFrom site start fs).1 :=
      Page.stepFrom_agreesOff (hS page List.mem_cons_self)
    have hrest : AgreesOff S (page.stepFrom site start fs).1
        (generateFrom site start (page.stepFrom site start fs).1 rest).files :=
      ih fun other hother l hl =>
        hS other (List.mem_cons_of_mem page hother) l (hstep.resolve_ok_iff.mpr hl)
    cases hs : page.stepFrom site start fs with
    | mk after failure =>
      rw [hs] at hstep hrest
      cases hr : after.reportOn (page.target site) failure with
      | error cause =>
        rw [generateFrom_of_abort hs hr]
        exact hstep
      | ok report =>
        rw [generateFrom_of_report hs hr]
        exact hstep.trans hrest

/-- The pages before a page that the loop comes to, and the document and the place that the page
then has. -/
structure WritesAt (site : SiteConfig) (start fs : FileSystem) (pages front : List Page)
    (page : Page) (text : String) (l : Location) : Prop where
  split : ∃ rest, pages = front ++ page :: rest
  reached : (generateFrom site start fs front).abort = none
  document : page.documentIn site start (generateFrom site start fs front).files = .ok text
  place : (generateFrom site start fs front).files.writePlace? (page.target site) = some l

/-- What a page further on writes is written by the same page after one more page in front. -/
theorem WritesAt.cons {site : SiteConfig} {start fs after : FileSystem}
    {first : Page} {report : PageReport} {rest front : List Page} {page : Page} {text : String}
    {l : Location}
    (hfront : ∀ pages, generateFrom site start fs (first :: pages) =
      (generateFrom site start after pages).withReport report)
    (h : WritesAt site start after rest front page text l) :
    WritesAt site start fs (first :: rest) (first :: front) page text l := by
  obtain ⟨⟨last, rfl⟩, hreached, hdocument, hplace⟩ := h
  refine ⟨⟨last, rfl⟩, ?_, ?_, ?_⟩
  · rw [hfront]
    exact hreached
  · rw [hfront]
    exact hdocument
  · rw [hfront]
    exact hplace

/-- After the loop a location holds the document of a page that was written there. -/
def IsWritten (site : SiteConfig) (start fs : FileSystem) (pages : List Page) (l : Location) :
    Prop :=
  ∃ front page text, WritesAt site start fs pages front page text l ∧
    (generateFrom site start fs pages).files.get? l = some (.file (Text.encodeUtf8 text))

theorem IsWritten.cons {site : SiteConfig} {start fs after : FileSystem} {first : Page}
    {report : PageReport} {rest : List Page} {l : Location}
    (hfront : ∀ pages, generateFrom site start fs (first :: pages) =
      (generateFrom site start after pages).withReport report)
    (h : IsWritten site start after rest l) : IsWritten site start fs (first :: rest) l := by
  obtain ⟨front, page, text, hwrites, hget⟩ := h
  refine ⟨first :: front, page, text, hwrites.cons hfront, ?_⟩
  rw [hfront]
  exact hget

/-- What the first page writes stays, or makes room for what a later page writes. -/
theorem isWritten_of_place {site : SiteConfig} {start fs : FileSystem} {page : Page}
    {rest : List Page} {text : String} {l : Location}
    (hdocument : page.documentIn site start fs = .ok text)
    (hplace : fs.writePlace? (page.target site) = some l)
    (hrest : (generateFrom site start (fs.put l (.file (Text.encodeUtf8 text))) rest).files.get? l =
        (fs.put l (.file (Text.encodeUtf8 text))).get? l ∨
      IsWritten site start (fs.put l (.file (Text.encodeUtf8 text))) rest l) :
    IsWritten site start fs (page :: rest) l := by
  have hs := Page.stepFrom_of_place hdocument hplace
  have hput := get?_put_self (get?_writePlace hplace) (.file (Text.encodeUtf8 text))
  cases hr : (fs.put l (.file (Text.encodeUtf8 text))).reportOn (page.target site) none with
  | error cause =>
    refine ⟨[], page, text, ⟨⟨rest, rfl⟩, rfl, hdocument, hplace⟩, ?_⟩
    rw [generateFrom_of_abort hs hr]
    exact hput
  | ok report =>
    rcases hrest with hsame | hlater
    · refine ⟨[], page, text, ⟨⟨rest, rfl⟩, rfl, hdocument, hplace⟩, ?_⟩
      rw [generateFrom_of_report hs hr]
      exact hsame.trans hput
    · exact hlater.cons fun _ => generateFrom_of_report hs hr

/-- After the loop a location is as it was, or holds the document of a page that was written
there. -/
theorem generateFrom_entry (site : SiteConfig) (start fs : FileSystem) (pages : List Page)
    (l : Location) :
    (generateFrom site start fs pages).files.get? l = fs.get? l ∨
      IsWritten site start fs pages l := by
  induction pages generalizing fs with
  | nil => exact Or.inl rfl
  | cons page rest ih =>
    rcases page.stepFrom_cases site start fs with ⟨text, place, hdocument, hplace, hs⟩ | ⟨e, hs⟩
    · by_cases hl : l = place
      · subst hl
        exact Or.inr (isWritten_of_place hdocument hplace (ih _))
      · have hother := get?_put_of_ne fs hl (.file (Text.encodeUtf8 text))
        cases hr : (fs.put place (.file (Text.encodeUtf8 text))).reportOn (page.target site)
            none with
        | error cause =>
          rw [generateFrom_of_abort hs hr]
          exact Or.inl hother
        | ok report =>
          rcases ih (fs.put place (.file (Text.encodeUtf8 text))) with hsame | hwritten
          · rw [generateFrom_of_report hs hr]
            exact Or.inl (hsame.trans hother)
          · exact Or.inr (hwritten.cons fun _ => generateFrom_of_report hs hr)
    · cases hr : fs.reportOn (page.target site) (some e) with
      | error cause =>
        rw [generateFrom_of_abort hs hr]
        exact Or.inl rfl
      | ok report =>
        rcases ih fs with hsame | hwritten
        · rw [generateFrom_of_report hs hr]
          exact Or.inl hsame
        · exact Or.inr (hwritten.cons fun _ => generateFrom_of_report hs hr)

/-- A page that is reported as written leads to a document. -/
theorem generateFrom_wrote {site : SiteConfig} {start fs : FileSystem} {pages : List Page}
    {p : Path} (h : .wrote p ∈ (generateFrom site start fs pages).reports) :
    ∃ l, fs.resolve p = .ok l ∧ IsWritten site start fs pages l := by
  induction pages generalizing fs with
  | nil => cases h
  | cons page rest ih =>
    cases hs : page.stepFrom site start fs with
    | mk after failure =>
      cases hr : after.reportOn (page.target site) failure with
      | error cause =>
        rw [generateFrom_of_abort hs hr] at h
        cases h
      | ok report =>
        have hstep : AgreesOff (fun _ => True) fs (page.stepFrom site start fs).1 :=
          Page.stepFrom_agreesOff fun _ _ => trivial
        rw [hs] at hstep
        rw [generateFrom_of_report hs hr] at h
        rcases List.mem_cons.mp h with hfirst | hrest
        · obtain ⟨hpath, hsuccess⟩ := PageReport.path_of (FileSystem.reportOn_eq_ok_iff.mp hr).1
          rw [← hfirst] at hpath hsuccess
          obtain rfl : p = page.target site := hpath
          -- the report says that there was no error, so the page was put in its place
          have hnone : failure = none := hsuccess.mp rfl
          rcases page.stepFrom_cases site start fs with
            ⟨text, place, hdocument, hplace, -⟩ | ⟨e, hs'⟩
          · exact ⟨place, resolve_writePlace hplace,
              isWritten_of_place hdocument hplace (generateFrom_entry site start _ rest place)⟩
          · rw [hs', hnone] at hs
            cases hs
        · obtain ⟨l, hl, hwritten⟩ := ih hrest
          exact ⟨l, hstep.resolve_ok_iff.mpr hl,
            hwritten.cons fun _ => generateFrom_of_report hs hr⟩

/-! ## 2. The run -/

/-- The text is the document of one of the pages, made when the loop over the pages came to it:
from the stylesheet as it was at the start, and from the files as the pages before it left them. -/
def IsDocumentOf (site : SiteConfig) (start : FileSystem) (pages : List Page) (page : Page)
    (text : String) : Prop :=
  ∃ front rest, pages = front ++ page :: rest ∧
    (generatePages site (.unread site.baseStylesheet) start front).abort = none ∧
    page.documentIn site start
      (generatePages site (.unread site.baseStylesheet) start front).files = .ok text

/-- A location is where the path of one of the pages leads to, and holds the document of that page
as a whole. -/
def HoldsDocument (site : SiteConfig) (pages : List Page) (before after : FileSystem)
    (l : Location) : Prop :=
  ∃ page text, IsDocumentOf site (before.prepared site) pages page text ∧
    after.resolve (page.target site) = .ok l ∧
    after.get? l = some (.file (Text.encodeUtf8 text))

/-- What a run over pages of a site may make of the files. A location is as it was, or is a new
directory on the way to the output directory, or holds the document of a page. -/
structure OnlyOutputs (site : SiteConfig) (pages : List Page) (before after : FileSystem) :
    Prop where
  here : after.here = before.here
  standing : after.standing = before.standing
  entry : ∀ l, after.get? l = before.get? l ∨
    (before.get? l = none ∧ after.get? l = some .directory ∧
      ∃ q : Path, q.IsOnWayTo site.outputDir ∧ after.resolve q = .ok l) ∨
    (before.get? l ≠ some .directory ∧ HoldsDocument site pages before after l)

/-- Creating the output directory is within what a run may do. -/
theorem onlyOutputs_prepared (site : SiteConfig) (pages : List Page) (fs : FileSystem) :
    OnlyOutputs site pages fs (fs.prepared site) := by
  have hadds := makeDirectories_adds fs site.outputDir
  refine ⟨hadds.kept.here, hadds.kept.standing, fun l => ?_⟩
  cases hl : fs.get? l with
  | some entry => exact Or.inl (hadds.kept.entry l entry hl)
  | none =>
    rcases hadds.added l hl with hnone | ⟨hdir, hway⟩
    · exact Or.inl hnone
    · exact Or.inr (Or.inl ⟨rfl, hdir, hway⟩)

section

variable {site : SiteConfig} {pages : List Page} {fs : FileSystem} {l : Location}

/-- The loop leaves all directories where they are. -/
theorem generateFrom_agrees (site : SiteConfig) (start : FileSystem) (pages : List Page) :
    AgreesOff (fun _ => True) start (generateFrom site start start pages).files :=
  generateFrom_agreesOff fun _ _ _ _ => trivial

/-- Where the loop after the preparation has written there was no directory before. -/
theorem not_directory_of_isWritten
    (h : IsWritten site (fs.prepared site) (fs.prepared site) pages l) :
    fs.get? l ≠ some .directory := by
  obtain ⟨front, page, text, hwrites, -⟩ := h
  intro hdir
  have hkept := (makeDirectories_adds fs site.outputDir).kept.entry l _ hdir
  exact get?_writePlace hwrites.place
    (((generateFrom_agrees site (fs.prepared site) front).directory l).mp hkept)

theorem holdsDocument_of_isWritten
    (h : IsWritten site (fs.prepared site) (fs.prepared site) pages l) :
    HoldsDocument site pages fs
      (generateFrom site (fs.prepared site) (fs.prepared site) pages).files l := by
  obtain ⟨front, page, text, ⟨⟨rest, hsplit⟩, hreached, hdocument, hplace⟩, hget⟩ := h
  have hresolve : (fs.prepared site).resolve (page.target site) = .ok l :=
    (generateFrom_agrees site _ front).resolve_ok_iff.mpr (resolve_writePlace hplace)
  refine ⟨page, text, ⟨front, rest, hsplit, ?_, ?_⟩,
    (generateFrom_agrees site _ pages).resolve_ok_iff.mp hresolve, hget⟩
  · rw [generatePages_unread]
    exact hreached
  · rw [generatePages_unread]
    exact hdocument

/-- The loop over the pages is within what a run may do, too. -/
theorem onlyOutputs_generateFrom (site : SiteConfig) (pages : List Page) (fs : FileSystem) :
    OnlyOutputs site pages fs
      (generateFrom site (fs.prepared site) (fs.prepared site) pages).files := by
  obtain ⟨hhere, hstanding, -⟩ := onlyOutputs_prepared site pages fs
  have hloop := generateFrom_agrees site (fs.prepared site) pages
  refine ⟨hloop.here.trans hhere, hloop.standing.trans hstanding, fun l => ?_⟩
  rcases generateFrom_entry site (fs.prepared site) (fs.prepared site) pages l with
    hsame | hwritten
  · rw [hsame]
    have hadds := makeDirectories_adds fs site.outputDir
    cases hl : fs.get? l with
    | some entry => exact Or.inl (hadds.kept.entry l entry hl)
    | none =>
      rcases hadds.added l hl with hnone | ⟨hdir, q, hq, hresolve⟩
      · exact Or.inl hnone
      · exact Or.inr (Or.inl ⟨rfl, hdir, q, hq, hloop.resolve_ok_iff.mp hresolve⟩)
  · exact Or.inr (Or.inr ⟨not_directory_of_isWritten hwritten,
      holdsDocument_of_isWritten hwritten⟩)

end

/-- A run changes nothing but the files of its pages, each as a whole, and the directories on the
way to the output directory, however it ends; what it reports as written holds a document.
Without a configuration, or without a page of the requested key, it changes nothing at all. -/
theorem generateSite_onlyOutputs (fs : FileSystem) (request : RunRequest) :
    match runSite fs request, requestedPages request.page with
    | .ok site, .ok pages =>
      OnlyOutputs site pages fs (generateSite fs request).files ∧
        ∀ p, .wrote p ∈ (generateSite fs request).reports →
          ∃ l, (generateSite fs request).files.resolve p = .ok l ∧
            HoldsDocument site pages fs (generateSite fs request).files l
    | _, _ => (generateSite fs request).files = fs ∧ (generateSite fs request).reports = [] := by
  cases hsite : runSite fs request with
  | error e =>
    rw [generateSite_of_config_error hsite]
    exact ⟨rfl, rfl⟩
  | ok site =>
    cases hpages : requestedPages request.page with
    | error e =>
      rw [generateSite_of_unknown_page hsite hpages]
      exact ⟨rfl, rfl⟩
    | ok pages =>
      cases hmade : (fs.makeDirectories site.outputDir).2 with
      | some e =>
        rw [generateSite_of_no_directory hsite hpages hmade]
        exact ⟨onlyOutputs_prepared site pages fs, fun p hp => by cases hp⟩
      | none =>
        rw [generateSite_of_directory hsite hpages hmade]
        refine ⟨onlyOutputs_generateFrom site pages fs, fun p hp => ?_⟩
        obtain ⟨l, hl, hwritten⟩ := generateFrom_wrote hp
        exact ⟨l, (generateFrom_agrees site _ pages).resolve_ok_iff.mp hl,
          holdsDocument_of_isWritten hwritten⟩

end StaticSite
