/-
StaticSite.Proofs.Session.SharedSheet — a stylesheet is read at most once with success.

A session asks a stylesheet for its text in three ways: for the text
itself, for the document of a page, and for the file of a page. Between two
uses any other steps may come: files are written and deleted, other pages
are generated, sites are changed. What a use does once it has the text, or
the reason why there is none, is `SheetUse.outcome`, which does not know of
the stylesheet. So `MadeUse.Got` says of a use in a session which text it
got.

Each step uses the stylesheet under a name (`find?_step_of_use`), puts a
new one in its place, or leaves it as it is (`find?_step`). By induction on
the steps, a stylesheet with its text gives it to every use
(`got_of_read`), and the uses of an unread one part in two: those that
found no text, and from the first that did, those that all got the same
(`sheet_read_once`).
-/
import StaticSite.Session.Step
import StaticSite.Proofs.Files.Reading

namespace StaticSite

open StaticSite.Text

/-! ## 1. A page with the text of its stylesheet -/

namespace Page

variable (page : Page) (site : SiteConfig)

/-- The document of a page, given the text of its stylesheet or the reason why there is none. -/
def documentWith (fs : FileSystem) : Except ReadError String → Except PageError String
  | .error e => .error (.stylesheet e)
  | .ok css =>
    match page.content site fs with
    | .error e => .error (.content e)
    | .ok content => .ok (page.frame.document site css content)

theorem render_documentWith (sheet : Stylesheet) (fs : FileSystem) :
    page.render site sheet fs =
      ((sheet.text fs).1, page.documentWith site fs (sheet.text fs).2) := by
  rw [render_eq]
  obtain ⟨sheet, text⟩ := sheet.text fs
  cases text with
  | error e => rfl
  | ok css =>
    simp only [documentWith]
    cases page.content site fs <;> rfl

theorem generate_documentWith (sheet : Stylesheet) (fs : FileSystem) (p : Path) :
    page.generate site sheet fs p =
      match page.documentWith site fs (sheet.text fs).2 with
      | .error e => ⟨(sheet.text fs).1, fs, some e⟩
      | .ok document =>
        ⟨(sheet.text fs).1, (fs.writeText p document).1,
          (fs.writeText p document).2.map .output⟩ := by
  rw [generate_render, render_documentWith]
  cases page.documentWith site fs (sheet.text fs).2 <;> rfl

end Page

namespace Session

/-! ## 2. Tables -/

theorem find?_put_self {α : Type} (name : String) (a : α) (table : List (String × α)) :
    find? name (put name a table) = some a := by
  induction table with
  | nil => simp [put, find?]
  | cons entry rest ih =>
    obtain ⟨n, old⟩ := entry
    by_cases h : n = name <;> simp [put, find?, h, ih]

theorem find?_put_of_ne {α : Type} {name other : String} (h : other ≠ name) (a : α)
    (table : List (String × α)) : find? name (put other a table) = find? name table := by
  induction table with
  | nil => simp [put, find?, h]
  | cons entry rest ih =>
    obtain ⟨n, old⟩ := entry
    by_cases hn : n = other
    · subst hn
      simp [put, find?, h]
    · simp [put, find?, hn, ih]

/-! ## 3. One step -/

/-- A use of a stylesheet: its text alone, the document of a page over a site, or the file of a
page. -/
inductive SheetUse where
  | direct
  | document (page : Page) (site : SiteConfig)
  | file (page : Page) (site : SiteConfig) (p : Path)

/-- The answer that is a text, or says why there is none. -/
def Answer.ofText : Except PageError String → Answer
  | .ok s => .text s
  | .error e => .failed (.page e)

/-- What a use does to the files and answers, given the text of the stylesheet or the reason why
there is none. -/
def SheetUse.outcome (use : SheetUse) (fs : FileSystem) (css : Except ReadError String) :
    FileSystem × Answer :=
  match use with
  | .direct => (fs, .ofText (css.mapError .stylesheet))
  | .document page site => (fs, .ofText (page.documentWith site fs css))
  | .file page site p =>
    match page.documentWith site fs css with
    | .error e => (fs, .failed (.page e))
    | .ok html =>
      match fs.writeText p html with
      | (fs, some e) => (fs, .failed (.page (.output e)))
      | (fs, none) => (fs, .path p)

/-- The use that a step makes of the stylesheet under a name. A step that fails before it asks
for the text makes none. -/
def State.useOf? (st : State) (name : String) : Step → Option SheetUse
  | .css sheet => if sheet = name then some .direct else none
  | .render page sheet =>
    if sheet = name then
      (find? page st.pages).map fun made => .document made.page (st.siteAt made.site)
    else none
  | .generate page sheet p =>
    if sheet = name then
      (find? page st.pages).map fun made => .file made.page (st.siteAt made.site) p
    else none
  | _ => none

/-- Does a step put a new stylesheet under the name? -/
def Step.renews (name : String) : Step → Bool
  | .stylesheet sheet _ => sheet == name
  | _ => false

variable {st : State} {name : String} {s : Step} {sheet : Stylesheet}

/-- A use asks the stylesheet over the files of its moment, and does with the answer what its
kind of use does. -/
theorem find?_step_of_use {use : SheetUse} (huse : st.useOf? name s = some use)
    (hsheet : find? name st.sheets = some sheet) :
    find? name (st.step s).1.sheets = some (sheet.text st.files).1 ∧
      ((st.step s).1.files, (st.step s).2) =
        use.outcome st.files (sheet.text st.files).2 := by
  cases s <;> simp only [State.useOf?, reduceCtorEq] at huse
  case css other =>
    obtain ⟨rfl, rfl⟩ : other = name ∧ SheetUse.direct = use := by simpa using huse
    simp only [State.step, hsheet, find?_put_self, true_and]
    cases (sheet.text st.files).2 <;> rfl
  case render page other =>
    obtain ⟨rfl, made, hpage, rfl⟩ : other = name ∧ ∃ made, find? page st.pages = some made ∧
        SheetUse.document made.page (st.siteAt made.site) = use := by simpa using huse
    simp only [State.step, hsheet, hpage, Page.render_documentWith, find?_put_self, true_and]
    rw [SheetUse.outcome]
    cases made.page.documentWith _ st.files _ <;> rfl
  case generate page other p =>
    obtain ⟨rfl, made, hpage, rfl⟩ : other = name ∧ ∃ made, find? page st.pages = some made ∧
        SheetUse.file made.page (st.siteAt made.site) p = use := by simpa using huse
    simp only [State.step, hsheet, hpage, Page.generate_documentWith, find?_put_self]
    rw [SheetUse.outcome]
    cases made.page.documentWith _ st.files _ with
    | error e => exact ⟨rfl, rfl⟩
    | ok document =>
      dsimp only
      obtain ⟨fs, failure⟩ := st.files.writeText p document
      cases failure <;> exact ⟨rfl, rfl⟩

/-- Any other step leaves the stylesheet as it is. -/
theorem find?_step (huse : st.useOf? name s = none) (hs : s.renews name = false) :
    find? name (st.step s).1.sheets = find? name st.sheets := by
  cases s with
  | stylesheet other p =>
    exact find?_put_of_ne (by simpa [Step.renews] using hs) _ _
  | css other =>
    have hother : other ≠ name := by simpa [State.useOf?] using huse
    simp only [State.step]
    split
    · rfl
    · exact find?_put_of_ne hother _ _
  | render page other | generate page other _ =>
    simp only [State.useOf?, ite_eq_right_iff, Option.map_eq_none_iff] at huse
    simp only [State.step]
    split
    · rfl
    · rfl
    · rename_i hpage _
      refine find?_put_of_ne (fun hother => ?_) _ _
      simp [huse hother] at hpage
  | _ =>
    simp only [State.step, State.withSomeFiles]
    repeat' split
    all_goals rfl

/-! ## 4. A session -/

/-- A use that was made in a session: the files before and after it, its answer, and the
stylesheet afterwards. -/
structure MadeUse where
  use : SheetUse
  before : FileSystem
  after : FileSystem
  answer : Answer
  sheet : Option Stylesheet

/-- The use got this from the stylesheet, and left it so. -/
def MadeUse.Got (made : MadeUse) (sheet : Stylesheet) (css : Except ReadError String) : Prop :=
  made.sheet = some sheet ∧ (made.after, made.answer) = made.use.outcome made.before css

/-- The uses that some steps make of the stylesheet under a name, in their order. -/
def State.uses (st : State) (name : String) : List Step → List MadeUse
  | [] => []
  | s :: rest =>
    let next := (st.step s).1
    match st.useOf? name s with
    | none => next.uses name rest
    | some use =>
      ⟨use, st.files, next.files, (st.step s).2, find? name next.sheets⟩ :: next.uses name rest

/-- A stylesheet that has its text gives it to every use, whatever the files are by then. -/
theorem got_of_read {p : Path} {css : String} {steps : List Step}
    (hsteps : ∀ s ∈ steps, s.renews name = false)
    (hsheet : find? name st.sheets = some ⟨p, some css⟩) :
    ∀ made ∈ st.uses name steps, made.Got ⟨p, some css⟩ (.ok css) := by
  induction steps generalizing st with
  | nil => simp [State.uses]
  | cons s rest ih =>
    have hs := hsteps s List.mem_cons_self
    have hrest := fun s hmem => hsteps s (List.mem_cons_of_mem _ hmem)
    cases huse : st.useOf? name s with
    | none =>
      simp only [State.uses, huse]
      exact ih hrest ((find?_step huse hs).trans hsheet)
    | some use =>
      have hgot := find?_step_of_use huse hsheet
      simp only [State.uses, huse, List.forall_mem_cons]
      exact ⟨hgot, ih hrest hgot.1⟩

/-- The text of a stylesheet is read at most once with success, whatever a session does between
its uses. Uses fail as long as the file cannot be read at their own moment, and leave the
stylesheet unread. From the first moment on at which it can be read, every use gets the text
that the file had then, with each line end a line feed. -/
theorem sheet_read_once (st : State) {name : String} {p : Path}
    (hsheet : find? name st.sheets = some (.unread p)) {steps : List Step}
    (hsteps : ∀ s ∈ steps, s.renews name = false) :
    ∃ failed served, st.uses name steps = failed ++ served ∧
      (∀ made ∈ failed, ∃ e, made.before.readText p = .error e ∧
        made.Got (.unread p) (.error e)) ∧
      ∀ first later, served = first :: later →
        ∃ bytes raw css, first.before.readBytes p = .ok bytes ∧ decodeUtf8 bytes = some raw ∧
          css = String.ofList (unifyLineEnds raw.toList) ∧
          ∀ made ∈ served, made.Got ⟨p, some css⟩ (.ok css) := by
  induction steps generalizing st with
  | nil => exact ⟨[], [], rfl, by simp, by simp⟩
  | cons s rest ih =>
    have hs := hsteps s List.mem_cons_self
    have hrest := fun s hmem => hsteps s (List.mem_cons_of_mem _ hmem)
    cases huse : st.useOf? name s with
    | none =>
      simp only [State.uses, huse]
      exact ih _ ((find?_step huse hs).trans hsheet) hrest
    | some use =>
      have hgot := find?_step_of_use huse hsheet
      simp only [State.uses, huse]
      cases hread : st.files.readText p with
      | error e =>
        rw [Stylesheet.text_unread_of_error hread] at hgot
        obtain ⟨failed, served, huses, hfailed, hserved⟩ := ih _ hgot.1 hrest
        refine ⟨_ :: failed, served, congrArg _ huses, ?_, hserved⟩
        exact List.forall_mem_cons.mpr ⟨⟨e, hread, hgot⟩, hfailed⟩
      | ok css =>
        rw [Stylesheet.text_unread_of_ok hread] at hgot
        have hlater := got_of_read hrest hgot.1
        obtain ⟨bytes, hbytes, htext⟩ := FileSystem.readText_ok_iff.mp hread
        obtain ⟨raw, hraw, hcss⟩ := textOf?_eq_some_iff.mp htext
        refine ⟨[], _, rfl, by simp, ?_⟩
        rintro first later ⟨⟩
        exact ⟨bytes, raw, css, hbytes, hraw, hcss, List.forall_mem_cons.mpr ⟨hgot, hlater⟩⟩

/-- A session with a stylesheet that has no file yet, and a page with its own content. -/
def smallSession : State :=
  { State.start (.empty []) with
    sheets := [("main", .unread (.ofText "base.css"))]
    sites := [{}]
    pages := [("about", ⟨⟨{}, .markup "<p></p>"⟩, 0⟩)] }

/-- Uses of the stylesheet before it has a file, then with one, then with the file of a page in
its place, then without a file. -/
def smallSteps : List Step :=
  [.css "main", .write (.ofText "base.css") (encodeUtf8 "a\r\nb"), .css "main",
    .generate "about" "main" (.ofText "base.css"), .css "main", .delete (.ofText "base.css"),
    .css "main"]

theorem sheet_read_once_small :
    smallSession.run smallSteps =
        [.failed (.page (.stylesheet (.access (.unavailable ⟨.ofText "base.css", .notFound⟩)))),
          .done, .text "a\nb", .path (.ofText "base.css"), .text "a\nb", .done, .text "a\nb"] ∧
      find? "main" smallSession.sheets = some (.unread (.ofText "base.css")) ∧
      (∀ s ∈ smallSteps, s.renews "main" = false) ∧
      ∃ failed served, smallSession.uses "main" smallSteps = failed ++ served ∧
        (∀ made ∈ failed, ∃ e, made.before.readText (.ofText "base.css") = .error e ∧
          made.Got (.unread (.ofText "base.css")) (.error e)) ∧
        ∀ first later, served = first :: later →
          ∃ bytes raw css, first.before.readBytes (.ofText "base.css") = .ok bytes ∧
            decodeUtf8 bytes = some raw ∧
            css = String.ofList (unifyLineEnds raw.toList) ∧
            ∀ made ∈ served, made.Got ⟨.ofText "base.css", some css⟩ (.ok css) :=
  ⟨by decide +kernel, rfl, by decide, sheet_read_once smallSession rfl (by decide)⟩

end Session

end StaticSite
