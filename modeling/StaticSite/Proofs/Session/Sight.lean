/-
StaticSite.Proofs.Session.Sight — what the answers about a page are made from.

A session is asked about a page in four ways: for its title, its header, its
content, and its document with a stylesheet (`Question`). The answer is made
from the page, the values that its site has at the moment, the releases if
the page has to look for them, and the text of the stylesheet
(`Question.answer`, `step_question`).

The page, the values of its site and the stylesheet are a session's `Sight`
of the two names. A step changes it by an `Event`: a page is made under the
name, the site of the page is changed, a stylesheet is put under its name, or
the file of the stylesheet is read. Every other step leaves it as it is, also
one that gives the name of the page's site to another site (`sight_step`).
This needs that the numbers of sites in a session are numbers of its sites
(`State.IsLinked`), which holds from its start on.
-/
import StaticSite.Proofs.Session.SharedSheet

namespace StaticSite

/-! ## 1. Content and stylesheets, by what is found -/

theorem FileSystem.readBytes_congr {a b : FileSystem} {p : Path} (h : a.stat p = b.stat p) :
    a.readBytes p = b.readBytes p := by
  rw [readBytes, readBytes, h]

theorem FileSystem.readText_congr {a b : FileSystem} {p : Path} (h : a.stat p = b.stat p) :
    a.readText p = b.readText p := by
  rw [readText, readText, readBytes_congr h]

theorem loadReleases_congr {a b : FileSystem} {p : Path} (h : a.stat p = b.stat p) :
    loadReleases a p = loadReleases b p := by
  simp only [loadReleases, FileSystem.loadData, FileSystem.readData, h,
    FileSystem.readBytes_congr h]

namespace Page

/-- The releases that a page finds in the file of its site, if it looks for them. -/
def found? (page : Page) (site : SiteConfig) (fs : FileSystem) :
    Option (Except (LoadError ReleaseError) (List Release)) :=
  match page.body with
  | .releases none => some (loadReleases fs site.releasesFile)
  | _ => none

/-- The content of a page that has found some releases. -/
def contentFrom (page : Page) (site : SiteConfig) :
    Option (Except (LoadError ReleaseError) (List Release)) → Except ContentError String
  | some (.error e) => .error (.releases e)
  | some (.ok releases) => (page.withReleases (some releases)).content site (.empty [])
  | none => page.content site (.empty [])

theorem content_eq (page : Page) (site : SiteConfig) (fs : FileSystem) :
    page.content site fs = page.contentFrom site (page.found? site fs) := by
  obtain ⟨frame, body⟩ := page
  cases body with
  | releases given =>
    cases given with
    | some given => rfl
    | none =>
      simp only [content, found?]
      cases loadReleases fs site.releasesFile <;> rfl
  | _ => rfl

/-- What a page finds depends on what is at the path of the releases, and on nothing else. -/
theorem found?_congr {page : Page} {site : SiteConfig} {a b : FileSystem}
    (h : page.body = .releases none → a.stat site.releasesFile = b.stat site.releasesFile) :
    page.found? site a = page.found? site b := by
  rw [found?, found?]
  split
  · rename_i hbody
    rw [loadReleases_congr (h hbody)]
  · rfl

/-- The document of a page that has found some releases and has got the text of a stylesheet. -/
def documentFrom (page : Page) (site : SiteConfig)
    (releases : Option (Except (LoadError ReleaseError) (List Release))) :
    Except ReadError String → Except PageError String
  | .error e => .error (.stylesheet e)
  | .ok css =>
    match page.contentFrom site releases with
    | .error e => .error (.content e)
    | .ok content => .ok (page.frame.document site css content)

theorem documentWith_eq (page : Page) (site : SiteConfig) (fs : FileSystem)
    (css : Except ReadError String) :
    page.documentWith site fs css = page.documentFrom site (page.found? site fs) css := by
  cases css with
  | error e => rfl
  | ok css =>
    cases hcontent : page.contentFrom site (page.found? site fs) <;>
      simp only [documentWith, documentFrom, content_eq, hcontent]

end Page

namespace Stylesheet

/-- What a stylesheet finds in its file, if it has not read it before. -/
def found? (sheet : Stylesheet) (fs : FileSystem) : Option (Except ReadError String) :=
  match sheet.cached with
  | some _ => none
  | none => some (fs.readText sheet.path)

/-- The text of a stylesheet that has found something in its file. -/
def textFrom (sheet : Stylesheet) (found : Option (Except ReadError String)) :
    Except ReadError String :=
  match sheet.cached with
  | some css => .ok css
  | none => found.getD (.error .notText)

/-- The stylesheet after it has found something in its file. -/
def readBy (sheet : Stylesheet) : Option (Except ReadError String) → Stylesheet
  | some (.ok css) => ⟨sheet.path, some css⟩
  | _ => sheet

/-- A stylesheet that still has no text has read none. -/
theorem readBy_of_cached_eq_none {sheet : Stylesheet}
    {found : Option (Except ReadError String)} (h : (sheet.readBy found).cached = none) :
    sheet.readBy found = sheet := by
  unfold readBy at h ⊢
  split at h
  · cases h
  · rfl

theorem text_eq (sheet : Stylesheet) (fs : FileSystem) :
    sheet.text fs = (sheet.readBy (sheet.found? fs), sheet.textFrom (sheet.found? fs)) := by
  obtain ⟨path, cached⟩ := sheet
  cases cached with
  | some css => rfl
  | none =>
    rw [text, textFrom, found?]
    simp only [Option.getD_some]
    cases fs.readText path <;> rfl

theorem found?_congr {sheet : Stylesheet} {a b : FileSystem}
    (h : sheet.cached = none → a.stat sheet.path = b.stat sheet.path) :
    sheet.found? a = sheet.found? b := by
  rw [found?, found?]
  split
  · rfl
  · rename_i hunread
    rw [FileSystem.readText_congr (h hunread)]

end Stylesheet

namespace Session

/-! ## 2. Questions -/

/-- What a session can be asked about a page. -/
inductive Question where
  | title
  | header
  | content
  | document
  deriving DecidableEq

/-- The step that asks, for the document with a stylesheet. -/
def Question.step (name sheet : String) : Question → Step
  | .title => .title name
  | .header => .header name
  | .content => .content name
  | .document => .render name sheet

/-- The answer about a page, from the values of its site, the releases that it finds and the text
of the stylesheet. -/
def Question.answer (page : Page) (site : SiteConfig)
    (releases : Option (Except (LoadError ReleaseError) (List Release)))
    (css : Except ReadError String) : Question → Answer
  | .title => .title (page.frame.title site) (page.frame.footerPicture site)
  | .header => .text (PageFrame.header site)
  | .content => .ofText ((page.contentFrom site releases).mapError .content)
  | .document => .ofText (page.documentFrom site releases css)

/-- The question that a step asks about a page, or about its document with a stylesheet. -/
def Step.question? (name sheet : String) : Step → Option Question
  | .title other => if other = name then some .title else none
  | .header other => if other = name then some .header else none
  | .content other => if other = name then some .content else none
  | .render other style => if other = name ∧ style = sheet then some .document else none
  | _ => none

theorem question?_eq_some_iff {name sheet : String} {s : Step} {q : Question} :
    s.question? name sheet = some q ↔ s = q.step name sheet := by
  cases s <;> cases q <;> simp [Step.question?, Question.step]

/-! ## 3. Numbers of sites -/

theorem find?_put {α : Type} (name other : String) (a : α) (table : List (String × α)) :
    find? name (put other a table) = if other = name then some a else find? name table := by
  split
  · rename_i h
    rw [h, find?_put_self]
  · rename_i h
    exact find?_put_of_ne h a table

/-- All numbers in a session are numbers of its sites. -/
structure State.IsLinked (st : State) : Prop where
  names : ∀ name n, find? name st.siteNumbers = some n → n < st.sites.length
  pages : ∀ name made, find? name st.pages = some made → made.site < st.sites.length

/-- Is a step about sites and the pages over them, and not about files and stylesheets? -/
def Step.isAboutSites : Step → Bool
  | .site _ _ | .loadSite _ _ | .changeSite _ _ | .addLink _ _ | .page _ _ _ => true
  | _ => false

namespace State

theorem step_of_not_isAboutSites (st : State) {s : Step} (hs : s.isAboutSites = false) :
    (st.step s).1.sites = st.sites ∧ (st.step s).1.siteNumbers = st.siteNumbers ∧
      (st.step s).1.pages = st.pages := by
  cases s <;> simp only [Step.isAboutSites, Bool.true_eq_false] at hs
  all_goals
    dsimp only [step, withSomeFiles]
    repeat' split
  all_goals exact ⟨rfl, rfl, rfl⟩

theorem isLinked_start (files : FileSystem) : (State.start files).IsLinked where
  names := by rintro name n ⟨⟩
  pages := by rintro name made ⟨⟩

variable {st : State}

theorem IsLinked.addSite (hst : st.IsLinked) (name : String) (site : SiteConfig) :
    (st.addSite name site).IsLinked := by
  have hlength : (st.addSite name site).sites.length = st.sites.length + 1 :=
    List.length_append
  refine ⟨fun other n hn => ?_, fun other made hmade => ?_⟩
  · rw [hlength]
    simp only [State.addSite, find?_put] at hn
    split at hn
    · cases hn
      exact Nat.lt_succ_self _
    · exact Nat.lt_succ_of_lt (hst.names other n hn)
  · rw [hlength]
    exact Nat.lt_succ_of_lt (hst.pages other made hmade)

theorem IsLinked.changeSite (hst : st.IsLinked) (n : Nat) (change : SiteConfig → SiteConfig) :
    (st.changeSite n change).IsLinked := by
  have hlength : (st.changeSite n change).sites.length = st.sites.length := List.length_set
  refine ⟨fun other n hn => ?_, fun other made hmade => ?_⟩
  · rw [hlength]
    exact hst.names other n hn
  · rw [hlength]
    exact hst.pages other made hmade

/-- Loading adds a site, or changes nothing. -/
theorem step_loadSite (st : State) (name : String) (p : Path) :
    (st.step (.loadSite name p)).1 = st ∨
      ∃ site, (st.step (.loadSite name p)).1 = st.addSite name site := by
  simp only [State.step]
  split
  · exact .inl rfl
  · exact .inr ⟨_, rfl⟩

theorem IsLinked.step (hst : st.IsLinked) (s : Step) : (st.step s).1.IsLinked := by
  cases hs : s.isAboutSites with
  | false =>
    obtain ⟨hsites, hnumbers, hpages⟩ := step_of_not_isAboutSites st hs
    refine ⟨?_, ?_⟩
    · rw [hsites, hnumbers]
      exact hst.names
    · rw [hsites, hpages]
      exact hst.pages
  | true =>
    cases s <;> simp only [Step.isAboutSites, Bool.false_eq_true] at hs
    case site name site => exact hst.addSite name site
    case loadSite name p =>
      rcases step_loadSite st name p with h | ⟨site, h⟩ <;> rw [h]
      · exact hst
      · exact hst.addSite name site
    case changeSite name change =>
      simp only [State.step]
      split
      · exact hst
      · exact hst.changeSite _ change
    case addLink name link =>
      simp only [State.step]
      split
      · exact hst
      · exact hst.changeSite _ fun site => { site with navLinks := site.navLinks ++ [link] }
    case page name source site =>
      simp only [State.step]
      split
      · exact hst
      · rename_i n hn
        split
        · exact hst
        · refine ⟨hst.names, fun other made hmade => ?_⟩
          simp only [find?_put] at hmade
          split at hmade
          · cases hmade
            exact hst.names site n hn
          · exact hst.pages other made hmade

end State

/-! ## 4. Sights and events -/

/-- What a session has under the names of a page and of a stylesheet: the page with the present
values of its site, and the stylesheet. -/
@[ext] structure Sight where
  shown : Option (Page × SiteConfig)
  sheet : Option Stylesheet

/-- What happens to a page and a stylesheet under their names, and what is found in their files. -/
inductive Event where
  /-- A page is put under the name, over a site with these values. -/
  | made (page : Page) (site : SiteConfig)
  /-- The site of the page is changed. -/
  | changed (change : SiteConfig → SiteConfig)
  /-- A stylesheet is put under the name. -/
  | opened (p : Path)
  /-- The stylesheet reads this in its file. -/
  | read (css : String)
  /-- A question is asked; this is found in the files, if it is looked for. -/
  | asked (q : Question) (releases : Option (Except (LoadError ReleaseError) (List Release)))
      (css : Option (Except ReadError String))

namespace Sight

/-- The event of a question: content needs the releases that the page looks for, a document also
the file of a stylesheet that has not been read. -/
def asked (sight : Sight) (files : FileSystem) (q : Question) : Event :=
  match q, sight.shown, sight.sheet with
  | .content, some (page, site), _ => .asked q (page.found? site files) none
  | .document, some (page, site), some sheet =>
    .asked q (page.found? site files) (sheet.found? files)
  | _, _, _ => .asked q none none

theorem exists_asked (sight : Sight) (files : FileSystem) (q : Question) :
    ∃ releases css, sight.asked files q = .asked q releases css := by
  unfold asked
  split <;> exact ⟨_, _, rfl⟩

/-- What is there after an event. -/
def after (sight : Sight) : Event → Sight
  | .made page site => { sight with shown := some (page, site) }
  | .changed change => { sight with shown := sight.shown.map (Prod.map id change) }
  | .opened p => { sight with sheet := some (.unread p) }
  | .read css => { sight with sheet := sight.sheet.map (·.readBy (some (.ok css))) }
  | .asked _ _ css => { sight with sheet := sight.sheet.map (·.readBy css) }

/-- The answer to an event, if it is a question. -/
def answer? (sight : Sight) (name sheetName : String) : Event → Option Answer
  | .asked q releases css =>
    match sight.shown, q, sight.sheet with
    | none, _, _ => some (.failed (.unknown name))
    | some _, .document, none => some (.failed (.unknown sheetName))
    | some (page, site), q, none => some (q.answer page site releases (.error .notText))
    | some (page, site), q, some sheet => some (q.answer page site releases (sheet.textFrom css))
  | _ => none

end Sight

namespace State

/-- The sight of a page and a stylesheet under their names. -/
def sight (st : State) (name sheet : String) : Sight :=
  ⟨(find? name st.pages).map fun made => (made.page, st.siteAt made.site), find? sheet st.sheets⟩

/-- Is the site under a name the one of the page? -/
def isSiteOf (st : State) (site page : String) : Bool :=
  match find? site st.siteNumbers, find? page st.pages with
  | some n, some made => made.site == n
  | _, _ => false

/-- The event of putting a page under the name, if there are such a page and such a site. -/
def made? (st : State) (source : PageSource) (site : String) : Option Event :=
  match find? site st.siteNumbers, source.resolve with
  | some n, .ok page => some (.made page (st.siteAt n))
  | _, _ => none

/-- The event of using the stylesheet: it reads its file if it can and has not done so. -/
def read? (st : State) (sheet : String) : Option Event :=
  match (find? sheet st.sheets).bind (·.found? st.files) with
  | some (.ok css) => some (.read css)
  | _ => none

/-- The event that a step is for a page and a stylesheet under their names. A step about other
pages, other sites, other stylesheets or files is none. -/
def event? (st : State) (name sheet : String) (s : Step) : Option Event :=
  match s.question? name sheet, s with
  | some q, _ => some ((st.sight name sheet).asked st.files q)
  | none, .page other source site => if other = name then st.made? source site else none
  | none, .changeSite site change => if st.isSiteOf site name then some (.changed change) else none
  | none, .addLink site link =>
    if st.isSiteOf site name then
      some (.changed fun site => { site with navLinks := site.navLinks ++ [link] })
    else none
  | none, .stylesheet other p => if other = sheet then some (.opened p) else none
  | none, s => (st.useOf? sheet s).bind fun _ => st.read? sheet

/-! ## 5. One step -/

variable {st : State} {name sheet : String}

theorem siteAt_addSite {n : Nat} (hn : n < st.sites.length) (other : String) (site : SiteConfig) :
    (st.addSite other site).siteAt n = st.siteAt n := by
  simp only [siteAt, addSite, List.getD_eq_getElem?_getD, List.getElem?_append_left hn]

theorem siteAt_changeSite {n : Nat} (hn : n < st.sites.length) (m : Nat)
    (change : SiteConfig → SiteConfig) :
    (st.changeSite m change).siteAt n = if n = m then change (st.siteAt n) else st.siteAt n := by
  simp only [siteAt, changeSite, List.getD_eq_getElem?_getD, List.getElem?_set]
  split
  · rename_i h
    subst h
    simp [hn]
  · rename_i h
    rw [if_neg (Ne.symm h)]

/-- A new site changes nothing for a page, whatever name it gets. -/
theorem sight_addSite (hst : st.IsLinked) (other : String) (site : SiteConfig) :
    (st.addSite other site).sight name sheet = st.sight name sheet := by
  have hpages : (st.addSite other site).pages = st.pages := rfl
  rw [sight, sight, hpages]
  cases hpage : find? name st.pages with
  | none => rfl
  | some made =>
    rw [Option.map_some, Option.map_some, siteAt_addSite (hst.pages name made hpage)]
    rfl

/-- A change of a site shows in all pages over it, and in no other page. -/
theorem sight_changeSite (hst : st.IsLinked) {other : String} {n : Nat}
    (hn : find? other st.siteNumbers = some n) (change : SiteConfig → SiteConfig) :
    (st.changeSite n change).sight name sheet =
      if st.isSiteOf other name then (st.sight name sheet).after (.changed change)
      else st.sight name sheet := by
  have hpages : (st.changeSite n change).pages = st.pages := rfl
  rw [sight, sight, hpages, isSiteOf, hn]
  cases hpage : find? name st.pages with
  | none => rfl
  | some made =>
    simp only [Option.map_some, siteAt_changeSite (hst.pages name made hpage), beq_iff_eq]
    split <;> rfl

/-- A use of the stylesheet makes it read its file, if it has not done so. -/
theorem find?_sheets_of_use {s : Step} {use : SheetUse} (huse : st.useOf? sheet s = some use) :
    find? sheet (st.step s).1.sheets =
      (find? sheet st.sheets).map fun style => style.readBy (style.found? st.files) := by
  cases hsheet : find? sheet st.sheets with
  | some style =>
    rw [(find?_step_of_use huse hsheet).1, Option.map_some, Stylesheet.text_eq]
  | none =>
    cases s <;> simp only [useOf?, reduceCtorEq] at huse
    case css other =>
      obtain ⟨rfl, -⟩ : other = sheet ∧ SheetUse.direct = use := by simpa using huse
      simp only [step, hsheet, Option.map_none]
    case render page other | generate page other p =>
      obtain ⟨rfl, made, hpage, -⟩ : other = sheet ∧ ∃ made, find? page st.pages = some made ∧
          _ = use := by simpa using huse
      simp only [step, hpage, hsheet, Option.map_none]

theorem read?_elim (st : State) (name sheet : String) :
    (st.read? sheet).elim (st.sight name sheet) (st.sight name sheet).after =
      ⟨(st.sight name sheet).shown,
        (find? sheet st.sheets).map fun style => style.readBy (style.found? st.files)⟩ := by
  rw [read?]
  cases hsheet : find? sheet st.sheets with
  | none => ext1 <;> simp [sight, hsheet]
  | some style =>
    rw [Option.bind_some, Option.map_some]
    cases hfound : style.found? st.files with
    | none => ext1 <;> simp [sight, hsheet, Stylesheet.readBy]
    | some found =>
      cases found with
      | error e => ext1 <;> simp [sight, hsheet, Stylesheet.readBy]
      | ok css => ext1 <;> simp [sight, Sight.after, hsheet]

theorem sight_of_not_isAboutSites {s : Step} (hs : s.isAboutSites = false) :
    (st.step s).1.sight name sheet =
      ⟨(st.sight name sheet).shown, find? sheet (st.step s).1.sheets⟩ := by
  obtain ⟨hsites, -, hpages⟩ := step_of_not_isAboutSites st hs
  simp only [sight, siteAt, hsites, hpages]

/-- Nothing found, nothing read. -/
theorem after_asked_none (sight : Sight) (q : Question)
    (releases : Option (Except (LoadError ReleaseError) (List Release))) :
    sight.after (.asked q releases none) = sight := by
  ext1
  · rfl
  · simp [Sight.after, Stylesheet.readBy]

/-- A question changes no file. -/
theorem files_question (st : State) (name sheet : String) (q : Question) :
    (st.step (q.step name sheet)).1.files = st.files := by
  cases q with
  | document =>
    simp only [Question.step, step]
    split <;> rfl
  | _ => rfl

/-- A question may make the stylesheet read its file, and does nothing else. -/
theorem sight_question (q : Question) :
    (st.step (q.step name sheet)).1.sight name sheet =
      (st.sight name sheet).after ((st.sight name sheet).asked st.files q) := by
  have hs : (q.step name sheet).isAboutSites = false := by cases q <;> rfl
  rw [sight_of_not_isAboutSites hs]
  cases q with
  | title | header =>
    rw [find?_step rfl rfl, Sight.asked, after_asked_none]
    · rfl
    · simp
    · simp
  | content =>
    rw [find?_step rfl rfl]
    cases hpage : find? name st.pages <;> simp [Sight.asked, sight, hpage, after_asked_none]
  | document =>
    cases hpage : find? name st.pages with
    | none =>
      have huse : st.useOf? sheet (Question.document.step name sheet) = none := by
        simp [Question.step, useOf?, hpage]
      rw [find?_step huse rfl]
      simp [Sight.asked, sight, hpage, after_asked_none]
    | some made =>
      have huse : st.useOf? sheet (Question.document.step name sheet) =
          some (.document made.page (st.siteAt made.site)) := by
        simp [Question.step, useOf?, hpage]
      rw [find?_sheets_of_use huse]
      cases hsheet : find? sheet st.sheets with
      | none => simp [Sight.asked, sight, hpage, hsheet, after_asked_none]
      | some style => simp [Sight.asked, sight, hpage, hsheet, Sight.after]

/-- A step that does not give the name of the stylesheet away is about it only if it uses it. -/
theorem sight_step_of_use {s : Step} (hs : s.isAboutSites = false)
    (hrenews : s.renews sheet = false) :
    (st.step s).1.sight name sheet =
      ((st.useOf? sheet s).bind fun _ => st.read? sheet).elim (st.sight name sheet)
        (st.sight name sheet).after := by
  rw [sight_of_not_isAboutSites hs]
  cases huse : st.useOf? sheet s with
  | none =>
    rw [find?_step huse hrenews]
    rfl
  | some use =>
    rw [find?_sheets_of_use huse, Option.bind_some, read?_elim]

/-- A step changes the sight by its event, and not at all if it is none. -/
theorem sight_step (hst : st.IsLinked) (s : Step) :
    (st.step s).1.sight name sheet =
      (st.event? name sheet s).elim (st.sight name sheet) (st.sight name sheet).after := by
  cases hq : s.question? name sheet with
  | some q =>
    obtain rfl := question?_eq_some_iff.mp hq
    simp only [event?, hq, Option.elim_some, sight_question]
  | none =>
    cases s with
    | site other site => exact sight_addSite hst other site
    | loadSite other p =>
      rcases step_loadSite st other p with h | ⟨site, h⟩ <;> rw [h]
      · rfl
      · exact sight_addSite hst other site
    | changeSite other change =>
      simp only [event?, hq, step]
      split
      · rename_i hn
        simp [isSiteOf, hn]
      · rename_i n hn
        rw [sight_changeSite hst hn]
        split <;> rfl
    | addLink other link =>
      simp only [event?, hq, step]
      split
      · rename_i hn
        simp [isSiteOf, hn]
      · rename_i n hn
        rw [sight_changeSite hst hn]
        split <;> rfl
    | page other source site =>
      simp only [event?, hq, step, made?]
      cases hn : find? site st.siteNumbers with
      | none => simp
      | some n =>
        cases source.resolve with
        | error key => simp
        | ok page =>
          simp only [sight, find?_put]
          split <;> rfl
    | stylesheet other p =>
      simp only [event?, hq, step, sight, find?_put]
      split <;> rfl
    | _ =>
      simp only [event?, hq]
      exact sight_step_of_use rfl rfl

/-- The answer to a question comes from the sight and from what is found. -/
theorem step_question (st : State) (name sheet : String) (q : Question) :
    (st.sight name sheet).answer? name sheet ((st.sight name sheet).asked st.files q) =
      some (st.step (q.step name sheet)).2 := by
  cases hpage : find? name st.pages with
  | none =>
    cases q <;> simp [Sight.asked, Sight.answer?, sight, Question.step, step, withPage, hpage]
  | some made =>
    cases q with
    | title | header =>
      cases hsheet : find? sheet st.sheets <;>
        simp [Sight.asked, Sight.answer?, sight, Question.step, step, withPage, hpage, hsheet,
          Question.answer]
    | content =>
      have hcontent := made.page.content_eq (st.siteAt made.site) st.files
      cases hsheet : find? sheet st.sheets <;>
        simp only [Sight.asked, Sight.answer?, sight, Question.step, step, withPage, hpage, hsheet,
          Question.answer, hcontent, Option.map_some] <;>
        cases made.page.contentFrom _ _ <;> rfl
    | document =>
      cases hsheet : find? sheet st.sheets with
      | none => simp [Sight.asked, Sight.answer?, sight, Question.step, step, hpage, hsheet]
      | some style =>
        simp only [Sight.asked, Sight.answer?, sight, Question.step, step, hpage, hsheet,
          Option.map_some, Page.render_documentWith, Page.documentWith_eq, Stylesheet.text_eq,
          Question.answer]
        cases made.page.documentFrom _ _ _ <;> rfl

end State

end Session

end StaticSite
