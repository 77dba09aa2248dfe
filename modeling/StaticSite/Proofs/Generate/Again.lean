/-
StaticSite.Proofs.Generate.Again — a run repeated.

The second of two equal runs starts from what the first one has left. As
long as no page was written over a file that the run reads, it reads the
same texts, comes to the same documents and finds the same places for
them: both runs do the same list of writes (`generateFrom_alike`). Doing a
list of writes a second time changes nothing, whether or not some of them
go to one place (`putFiles_again`).
-/
import StaticSite.Proofs.Generate.Resuming

namespace StaticSite

namespace FileSystem

/-! ## 1. Lists of writes -/

/-- The files with new ones put at some locations, one after the other. -/
def putFiles (fs : FileSystem) : List (Location × ByteArray) → FileSystem
  | [] => fs
  | (l, bytes) :: rest => putFiles (fs.put l (.file bytes)) rest

/-- No write goes to a directory. -/
def TakesFiles (fs : FileSystem) (writes : List (Location × ByteArray)) : Prop :=
  ∀ write ∈ writes, fs.get? write.1 ≠ some .directory

theorem takesFiles_nil (fs : FileSystem) : fs.TakesFiles [] :=
  fun _ hwrite => absurd hwrite List.not_mem_nil

theorem TakesFiles.tail {fs : FileSystem} {l : Location} {bytes : ByteArray}
    {rest : List (Location × ByteArray)} (h : fs.TakesFiles ((l, bytes) :: rest)) :
    (fs.put l (.file bytes)).TakesFiles rest := by
  intro write hwrite hdir
  have hl : fs.get? l ≠ some .directory := h (l, bytes) List.mem_cons_self
  have hput : AgreesOff (Eq l) fs (fs.put l (.file bytes)) := .put_file hl rfl bytes
  exact h write (List.mem_cons_of_mem _ hwrite) ((hput.directory write.1).mpr hdir)

theorem takesFiles_cons {fs : FileSystem} {l : Location} {bytes : ByteArray}
    {rest : List (Location × ByteArray)} (hl : fs.get? l ≠ some .directory)
    (h : (fs.put l (.file bytes)).TakesFiles rest) : fs.TakesFiles ((l, bytes) :: rest) := by
  have hput : AgreesOff (Eq l) fs (fs.put l (.file bytes)) := .put_file hl rfl bytes
  intro write hwrite
  rcases List.mem_cons.mp hwrite with rfl | hrest
  · exact hl
  · exact fun hdir => h write hrest ((hput.directory write.1).mp hdir)

/-- Writes change nothing but the locations they go to. -/
theorem get?_putFiles_of_not_mem {fs : FileSystem} {writes : List (Location × ByteArray)}
    {l : Location} (h : ∀ write ∈ writes, write.1 ≠ l) :
    (fs.putFiles writes).get? l = fs.get? l := by
  induction writes generalizing fs with
  | nil => rfl
  | cons write rest ih =>
    obtain ⟨k, bytes⟩ := write
    have hk : l ≠ k := (h (k, bytes) List.mem_cons_self).symm
    rw [putFiles, ih fun write hwrite => h write (List.mem_cons_of_mem _ hwrite),
      get?_put_of_ne fs hk]

/-- Writes to directories stay out of the question while writes are done. -/
theorem takesFiles_putFiles {fs : FileSystem} {writes more : List (Location × ByteArray)}
    (hwrites : fs.TakesFiles writes) (hmore : fs.TakesFiles more) :
    (fs.putFiles writes).TakesFiles more := by
  induction writes generalizing fs with
  | nil => exact hmore
  | cons write rest ih =>
    obtain ⟨l, bytes⟩ := write
    have hput : AgreesOff (Eq l) fs (fs.put l (.file bytes)) :=
      .put_file (hwrites (l, bytes) List.mem_cons_self) rfl bytes
    exact ih hwrites.tail fun write hwrite hdir =>
      hmore write hwrite ((hput.directory write.1).mpr hdir)

/-- After some writes a location looks the same in two file systems, if one of the writes went
there or it looked the same before. -/
theorem get?_putFiles_agree {a b : FileSystem} {writes : List (Location × ByteArray)}
    {l : Location} (ha : a.TakesFiles writes) (hb : b.TakesFiles writes)
    (h : (∃ write ∈ writes, write.1 = l) ∨ a.get? l = b.get? l) :
    (a.putFiles writes).get? l = (b.putFiles writes).get? l := by
  induction writes generalizing a b with
  | nil =>
    rcases h with ⟨write, hwrite, -⟩ | hsame
    · cases hwrite
    · exact hsame
  | cons write rest ih =>
    obtain ⟨k, bytes⟩ := write
    refine ih ha.tail hb.tail ?_
    by_cases hk : l = k
    · subst hk
      right
      rw [get?_put_self (ha (l, bytes) List.mem_cons_self),
        get?_put_self (hb (l, bytes) List.mem_cons_self)]
    · rcases h with ⟨write, hwrite, hl⟩ | hsame
      · rcases List.mem_cons.mp hwrite with rfl | hrest
        · exact absurd hl.symm hk
        · exact Or.inl ⟨write, hrest, hl⟩
      · right
        rw [get?_put_of_ne a hk, get?_put_of_ne b hk, hsame]

/-- The same writes once more change nothing. -/
theorem putFiles_again {fs : FileSystem} {writes : List (Location × ByteArray)}
    (h : fs.TakesFiles writes) (l : Location) :
    ((fs.putFiles writes).putFiles writes).get? l = (fs.putFiles writes).get? l := by
  apply get?_putFiles_agree (takesFiles_putFiles h h) h
  by_cases hmem : ∃ write ∈ writes, write.1 = l
  · exact Or.inl hmem
  · right
    apply get?_putFiles_of_not_mem
    intro write hwrite hl
    exact hmem ⟨write, hwrite, hl⟩

end FileSystem

open FileSystem

/-! ## 2. One page on two file systems -/

section

variable {S : Location → Prop} {site : SiteConfig} {startA startB a b : FileSystem}

/-- A page has the same content where its releases are the same, or has none both times. -/
theorem Page.content_alike (hagrees : AgreesOff S a b)
    (hreleases : a.LeadsOff S site.releasesFile) (page : Page) :
    (∃ html, page.content site a = .ok html ∧ page.content site b = .ok html) ∨
      ∃ e e', page.content site a = .error e ∧ page.content site b = .error e' := by
  obtain ⟨frame, body⟩ := page
  cases body with
  | home => exact Or.inl ⟨_, rfl, rfl⟩
  | userGuide => exact Or.inl ⟨_, rfl, rfl⟩
  | markup html => exact Or.inl ⟨html, rfl, rfl⟩
  | missing => exact Or.inr ⟨_, _, rfl, rfl⟩
  | releases given =>
    cases given with
    | some given => exact Or.inl ⟨_, rfl, rfl⟩
    | none =>
      cases ha : loadReleases a site.releasesFile with
      | ok releases =>
        have hb : loadReleases b site.releasesFile = .ok releases :=
          loadData_ok_mono (fun _ => hagrees.readBytes_ok hreleases) ha
        exact Or.inl ⟨Changelog.content site releases, by simp only [content, ha],
          by simp only [content, hb]⟩
      | error e =>
        cases hb : loadReleases b site.releasesFile with
        | ok releases =>
          have ha' : loadReleases a site.releasesFile = .ok releases :=
            loadData_ok_mono
              (fun _ => hagrees.symm.readBytes_ok (hagrees.leadsOff hreleases)) hb
          rw [ha] at ha'
          cases ha'
        | error e' =>
          exact Or.inr ⟨.releases e, .releases e', by simp only [content, ha],
            by simp only [content, hb]⟩

/-- A page has the same document where it reads the same, or has none both times; then a run
goes on after both or after neither. -/
theorem Page.documentIn_alike (hstart : AgreesOff S startA startB)
    (hcss : startA.LeadsOff S site.baseStylesheet) (hagrees : AgreesOff S a b)
    (hreleases : a.LeadsOff S site.releasesFile) (page : Page) :
    (∃ text, page.documentIn site startA a = .ok text ∧
        page.documentIn site startB b = .ok text) ∨
      ∃ e e', page.documentIn site startA a = .error e ∧
        page.documentIn site startB b = .error e' ∧
        (e.resource?.isSome = true ↔ e'.resource?.isSome = true) := by
  rcases hstart.readText_agrees hcss with ⟨css, hA, hB⟩ | ⟨e, e', hA, hB, hgoes⟩
  · rcases page.content_alike hagrees hreleases with ⟨html, ha, hb⟩ | ⟨e, e', ha, hb⟩
    · refine Or.inl ⟨page.frame.document site css html, ?_, ?_⟩
      · simp only [documentIn, hA, ha]
      · simp only [documentIn, hB, hb]
    · refine Or.inr ⟨.content e, .content e', ?_, ?_, Iff.rfl⟩
      · simp only [documentIn, hA, ha]
      · simp only [documentIn, hB, hb]
  · refine Or.inr ⟨.stylesheet e, .stylesheet e', ?_, ?_, hgoes⟩
    · simp only [documentIn, hA]
    · simp only [documentIn, hB]

/-- A page does the same write to both file systems, or fails in both; then a run goes on after
both or after neither. -/
theorem Page.stepFrom_alike (hstart : AgreesOff S startA startB)
    (hcss : startA.LeadsOff S site.baseStylesheet) (hagrees : AgreesOff S a b)
    (hreleases : a.LeadsOff S site.releasesFile) (page : Page) :
    (∃ l bytes, a.writePlace? (page.target site) = some l ∧
        page.stepFrom site startA a = (a.put l (.file bytes), none) ∧
        page.stepFrom site startB b = (b.put l (.file bytes), none)) ∨
      ∃ e e', page.stepFrom site startA a = (a, some e) ∧
        page.stepFrom site startB b = (b, some e') ∧
        (e.resource?.isSome = true ↔ e'.resource?.isSome = true) := by
  rcases page.documentIn_alike hstart hcss hagrees hreleases with
    ⟨text, ha, hb⟩ | ⟨e, e', ha, hb, hgoes⟩
  · have hplace := hagrees.writePlace?_eq (page.target site)
    cases hl : a.writePlace? (page.target site) with
    | some l =>
      rw [hl] at hplace
      exact Or.inl ⟨l, Text.encodeUtf8 text, rfl, stepFrom_of_place ha hl,
        stepFrom_of_place hb hplace⟩
    | none =>
      rw [hl] at hplace
      obtain ⟨e, hstep, hvalid⟩ := stepFrom_of_no_place ha hl
      obtain ⟨e', hstep', hvalid'⟩ := stepFrom_of_no_place hb hplace
      exact Or.inr ⟨.output e, .output e', hstep, hstep', hvalid.trans hvalid'.symm⟩
  · exact Or.inr ⟨e, e', stepFrom_of_error ha, stepFrom_of_error hb, hgoes⟩

/-! ## 3. The loop on two file systems -/

/-- Two pages that fail alike are both reported as failed, or both end their runs. -/
theorem reportOn_alike (hshown : ∀ p, b.shown? p = a.shown? p) (p : Path) {e e' : PageError}
    (hgoes : e.resource?.isSome = true ↔ e'.resource?.isSome = true) :
    (∃ report report', a.reportOn p (some e) = .ok report ∧ b.reportOn p (some e') = .ok report' ∧
        report.isSuccess = false ∧ report'.isSuccess = false) ∨
      ∃ cause cause', a.reportOn p (some e) = .error cause ∧
        b.reportOn p (some e') = .error cause' := by
  rw [reportOn, reportOn, hshown]
  cases he : e.resource? <;> cases he' : e'.resource? <;> cases a.shown? p <;>
    simp_all [PageReport.of, PageReport.isSuccess]

/-- The loop does the same writes to both file systems, and reports on the same of them. -/
theorem generateFrom_alike (hstart : AgreesOff S startA startB)
    (hcss : startA.LeadsOff S site.baseStylesheet) (hagrees : AgreesOff S a b)
    (hreleases : a.LeadsOff S site.releasesFile) {pages : List Page}
    (hS : ∀ page ∈ pages, ∀ l, a.resolve (page.target site) = .ok l → S l) :
    ∃ writes, a.TakesFiles writes ∧
      (generateFrom site startA a pages).files = a.putFiles writes ∧
      (generateFrom site startB b pages).files = b.putFiles writes ∧
      (generateFrom site startB b pages).reports.filter PageReport.isSuccess =
        (generateFrom site startA a pages).reports.filter PageReport.isSuccess := by
  induction pages generalizing a b with
  | nil => exact ⟨[], takesFiles_nil a, rfl, rfl, rfl⟩
  | cons page rest ih =>
    have hrest : ∀ other ∈ rest, ∀ l, a.resolve (other.target site) = .ok l → S l :=
      fun other hother => hS other (List.mem_cons_of_mem page hother)
    rcases page.stepFrom_alike hstart hcss hagrees hreleases with
      ⟨l, bytes, hplace, hsa, hsb⟩ | ⟨e, e', hsa, hsb, hgoes⟩
    · have hfile : a.get? l ≠ some .directory := get?_writePlace hplace
      have hput : AgreesOff S a (a.put l (.file bytes)) :=
        .put_file hfile (hS page List.mem_cons_self l (resolve_writePlace hplace)) bytes
      have hboth := hagrees.put_both hfile bytes
      have hsame := reportOn_congr hboth.shown?_eq (page.target site) none
      cases hr : (a.put l (.file bytes)).reportOn (page.target site) none with
      | error cause =>
        rw [generateFrom_of_abort hsa hr, generateFrom_of_abort hsb (hsame.trans hr)]
        exact ⟨[(l, bytes)], takesFiles_cons hfile (takesFiles_nil _), rfl, rfl, rfl⟩
      | ok report =>
        obtain ⟨writes, htakes, ha, hb, hreports⟩ := ih hboth (hput.leadsOff hreleases)
          fun other hother k hk => hrest other hother k (hput.resolve_ok_iff.mpr hk)
        rw [generateFrom_of_report hsa hr, generateFrom_of_report hsb (hsame.trans hr)]
        refine ⟨(l, bytes) :: writes, takesFiles_cons hfile htakes, ha, hb, ?_⟩
        simp only [PagesResult.withReport, List.filter_cons, hreports]
    · rcases reportOn_alike hagrees.shown?_eq (page.target site) hgoes with
        ⟨report, report', hra, hrb, hfails, hfails'⟩ | ⟨cause, cause', hra, hrb⟩
      · obtain ⟨writes, htakes, ha, hb, hreports⟩ := ih hagrees hreleases hrest
        rw [generateFrom_of_report hsa hra, generateFrom_of_report hsb hrb]
        refine ⟨writes, htakes, ha, hb, ?_⟩
        simpa only [PagesResult.withReport, List.filter_cons, hfails, hfails', if_false,
          Bool.false_eq_true] using hreports
      · rw [generateFrom_of_abort hsa hra, generateFrom_of_abort hsb hrb]
        exact ⟨[], takesFiles_nil a, rfl, rfl, rfl⟩

/-- The loop on the files that it has left itself leaves them as they are. -/
theorem generateFrom_again {start : FileSystem} (hcss : start.LeadsOff S site.baseStylesheet)
    (hreleases : start.LeadsOff S site.releasesFile) {pages : List Page}
    (hS : ∀ page ∈ pages, ∀ l, start.resolve (page.target site) = .ok l → S l) :
    SameView (generateFrom site start start pages).files
        (generateFrom site (generateFrom site start start pages).files
          (generateFrom site start start pages).files pages).files ∧
      (generateFrom site (generateFrom site start start pages).files
          (generateFrom site start start pages).files pages).reports.filter
          PageReport.isSuccess =
        (generateFrom site start start pages).reports.filter PageReport.isSuccess := by
  have hfirst : AgreesOff S start (generateFrom site start start pages).files :=
    generateFrom_agreesOff hS
  have hsecond : AgreesOff (fun _ => True) (generateFrom site start start pages).files
      (generateFrom site (generateFrom site start start pages).files
        (generateFrom site start start pages).files pages).files :=
    generateFrom_agreesOff fun _ _ _ _ => trivial
  obtain ⟨writes, htakes, hfiles, hfiles', hreports⟩ :=
    generateFrom_alike hfirst hcss hfirst hreleases hS
  refine ⟨⟨hsecond.here, hsecond.standing, fun l => ?_⟩, hreports⟩
  rw [hfiles', hfiles]
  exact putFiles_again htakes l

end

/-! ## 4. The run on its own files -/

/-- A run whose pages are written apart from the files that it reads can be repeated: the second
run leaves all as it is, and reports the same pages as written. -/
theorem generateSite_again (fs : FileSystem) (request : RunRequest)
    (h : outputsApart fs request (fun site =>
      [request.config, site.baseStylesheet, site.releasesFile]) = true) :
    SameView (generateSite fs request).files
        (generateSite (generateSite fs request).files request).files ∧
      (generateSite (generateSite fs request).files request).wroteLines
          (generateSite fs request).files =
        (generateSite fs request).wroteLines fs := by
  cases hsite : runSite fs request with
  | error e =>
    rw [generateSite_of_config_error hsite, generateSite_of_config_error hsite]
    exact ⟨.refl fs, rfl⟩
  | ok site =>
    cases hpages : requestedPages request.page with
    | error e =>
      rw [generateSite_of_unknown_page hsite hpages, generateSite_of_unknown_page hsite hpages]
      exact ⟨.refl fs, rfl⟩
    | ok pages =>
      cases hmade : (fs.makeDirectories site.outputDir).2 with
      | some e =>
        obtain ⟨hsame, hfails⟩ := makeDirectories_again fs site.outputDir
        obtain ⟨e', he'⟩ : ∃ e', ((fs.prepared site).makeDirectories site.outputDir).2 = some e' :=
          Option.ne_none_iff_exists'.mp fun hnone => by simp [hfails.mp hnone] at hmade
        have hprepared : (fs.prepared site).prepared site = fs.prepared site := hsame
        rw [generateSite_of_no_directory hsite hpages hmade,
          generateSite_of_no_directory (runSite_prepared hsite) hpages he', hprepared]
        exact ⟨.refl (fs.prepared site), rfl⟩
      | none =>
        have hapart := fun p => outputsApart_leadsOff (p := p) h hsite hpages
        have hfirst : AgreesOff (IsTarget fs site pages) (fs.prepared site)
            (generateFrom site (fs.prepared site) (fs.prepared site) pages).files :=
          generateFrom_agreesOff fun page hpage l hl => ⟨page, hpage, hl⟩
        obtain ⟨hview, hreports⟩ := generateFrom_again (hapart site.baseStylesheet (by simp))
          (hapart site.releasesFile (by simp)) fun page hpage l hl => ⟨page, hpage, hl⟩
        have hsecond : generateSite
            (generateFrom site (fs.prepared site) (fs.prepared site) pages).toRun.files request =
              _ :=
          generateSite_resumed hsite hmade hfirst (hapart request.config (by simp)) hpages
        rw [generateSite_of_directory hsite hpages hmade, hsecond]
        refine ⟨hview, ?_⟩
        have hlines : PageReport.line?
            (generateFrom site (fs.prepared site) (fs.prepared site) pages).files =
              PageReport.line? fs :=
          funext <| PageReport.line?_congr fun p =>
            (hfirst.shown?_eq p).trans (shown?_prepared fs site p)
        rw [RunResult.wroteLines, RunResult.wroteLines]
        exact congrArg₂ List.filterMap hlines hreports

theorem generateSite_again_small :
    (generateSite (smallSystem "\x7b\x7d") {}).wroteLines (smallSystem "\x7b\x7d") =
        ["wrote dist/index.html", "wrote dist/user-guide.html"] ∧
      outputsApart (smallSystem "\x7b\x7d") {} (fun site =>
        [.ofText "config/site.yaml", site.baseStylesheet, site.releasesFile]) = true ∧
      SameView (generateSite (smallSystem "\x7b\x7d") {}).files
        (generateSite (generateSite (smallSystem "\x7b\x7d") {}).files {}).files ∧
      (generateSite (generateSite (smallSystem "\x7b\x7d") {}).files {}).wroteLines
          (generateSite (smallSystem "\x7b\x7d") {}).files =
        (generateSite (smallSystem "\x7b\x7d") {}).wroteLines (smallSystem "\x7b\x7d") :=
  ⟨by decide +kernel, by decide +kernel,
    generateSite_again (smallSystem "\x7b\x7d") {} (by decide +kernel)⟩

end StaticSite
