/-
StaticSite.Proofs.Release.EntryByEntry — release notes, entry by entry.

A release says what its entry says (`Release.IsFrom`): the stripped text of the
version, the paragraphs before the sections in Markdown, a section for each part
of `sections` with an item for each of its items, and its own programs, or those
of the whole file if the entry names none. An entry gives a release just if there
is one that says what it says (`Release.ofValue_ok_iff`). The entries are read in
their order, each by itself, so the notes either give one release for each of
them or fail with the fault of the first that gives none
(`releasesOf_entryByEntry`).
-/
import StaticSite.Release.Load
import StaticSite.Proofs.Config.Loading
import StaticSite.Proofs.Files.Reading
import StaticSite.Proofs.Text.Strip
import StaticSite.Proofs.Value.InOrder

namespace StaticSite

open StaticSite.Text

/-! ## 1. Texts and parts -/

/-- The value can be written, and this is its text. -/
def Value.Says (v : Value) (s : String) : Prop :=
  v.hasText = true ∧ v.shown = s

/-- What the value holds: its parts, none if it is void. -/
def Value.Holds (v : Value) (parts : List Value) : Prop :=
  (v.isVoid = true ∧ parts = []) ∨ (v.isVoid = false ∧ v.parts? = some parts)

section

variable {v : Value} {s : String} {items parts : List Value} {texts : List String}

theorem noteText_ok_iff : noteText v = .ok s ↔ v.Says s := by
  rw [noteText, Value.text, Value.Says]
  cases v.hasText <;> simp

theorem noteTexts_eq_mapM (items : List Value) : noteTexts items = items.mapM noteText := by
  induction items with
  | nil => rfl
  | cons item rest ih =>
    rw [noteTexts, List.mapM_cons, ← ih]
    cases noteText item with
    | error e => rfl
    | ok s => cases noteTexts rest <;> rfl

theorem noteTexts_ok_iff : noteTexts items = .ok texts ↔ List.Forall₂ Value.Says items texts := by
  rw [noteTexts_eq_mapM, mapM_ok_iff]
  simp only [noteText_ok_iff]

theorem membersOf_ok_iff : membersOf v = .ok parts ↔ v.Holds parts := by
  rw [membersOf, Value.Holds]
  cases v.isVoid with
  | true => simp [eq_comm]
  | false => cases v.parts? <;> simp

theorem isVoid_of_items? (h : v.items? = some items) : v.isVoid = items.isEmpty := by
  fun_induction Value.items? v with
  | case1 items =>
    cases h
    rfl
  | case2 mark v ih => exact ih h
  | case3 => cases h

theorem parts?_of_items? (h : v.items? = some items) : v.parts? = some items := by
  cases v with
  | list _ | tied _ _ => simp [Value.parts?, h]
  | _ => cases h

/-- A list holds its items. -/
theorem Value.holds_iff_of_items? (h : v.items? = some items) : v.Holds parts ↔ parts = items := by
  rw [Value.Holds, isVoid_of_items? h, parts?_of_items? h]
  cases items <;> simp [eq_comm]

end

/-! ## 2. Releases -/

/-- The paragraphs that the value holds, in Markdown, without those that are blank then. -/
def IsIntroOf (intro : List String) (v : Value) : Prop :=
  ∃ paragraphs texts, v.Holds paragraphs ∧ List.Forall₂ Value.Says paragraphs texts ∧
    intro = (texts.map Markdown.toHtml).filter fun html => !allBlank html.toList

/-- The section has the heading of the mapping, and an item in Markdown for each of its items. -/
def ReleaseSection.IsFrom (part : ReleaseSection) (v : Value) : Prop :=
  ∃ fields heading list items, v.entries? = some fields ∧
    Value.field? "heading" fields = some heading ∧ Value.field? "items" fields = some list ∧
    list.items? = some items ∧ heading.Says part.heading ∧
    ∃ texts, List.Forall₂ Value.Says items texts ∧ part.items = texts.map Markdown.toInlineHtml

/-- The release says what the fields say. It has the usual programs if they name none. -/
structure Release.IsFrom (usual : Binaries) (r : Release) (fields : List (Value × Value)) :
    Prop where
  version : ∃ v text, Value.field? "version" fields = some v ∧ v.isVoid = false ∧ v.Says text ∧
    r.version = strip text
  intro : IsIntroOf r.intro (noteField "intro" fields)
  sections : ∃ parts, (noteField "sections" fields).Holds parts ∧
    List.Forall₂ (fun v (part : ReleaseSection) => part.IsFrom v) parts r.sections
  usualBinaries : Value.field? "binaries" fields = none → r.binaries = usual
  ownBinaries : ∀ own, Value.field? "binaries" fields = some own →
    binariesOf (r.version ++ " binaries") own = .ok r.binaries

section

variable {index : Nat} {usual : Binaries} {fields : List (Value × Value)} {v : Value}
  {r : Release} {version : String} {part : ReleaseSection} {intro : List String}

/-- What is written is stripped, so it is blank only if it is empty. -/
theorem allBlank_toHtml (text : String) :
    allBlank (Markdown.toHtml text).toList = (Markdown.toHtml text).isEmpty := by
  have htrim : trim (Markdown.toHtml text).toList = (Markdown.toHtml text).toList := by
    rw [Markdown.toHtml]
    split
    · rfl
    · rw [String.toList_ofList, trim_trim]
  rw [Bool.eq_iff_iff, String.isEmpty_iff]
  constructor
  · intro hblank
    rw [← String.toList_eq_nil_iff, ← htrim, trim, dropBlank,
      List.dropWhile_eq_nil_iff.mpr (List.all_eq_true.mp hblank)]
    rfl
  · intro hempty
    rw [hempty]
    rfl

theorem introOf_eq (v : Value) :
    introOf v = membersOf v >>= fun paragraphs => noteTexts paragraphs >>= fun texts =>
      .ok ((texts.map Markdown.toHtml).filter fun html => !html.isEmpty) := by
  rw [introOf]
  cases membersOf v with
  | error e => rfl
  | ok paragraphs =>
    simp only [ok_bind]
    cases noteTexts paragraphs <;> rfl

theorem introOf_ok_iff : introOf v = .ok intro ↔ IsIntroOf intro v := by
  have hfilter : ∀ texts : List String,
      (texts.map Markdown.toHtml).filter (fun html => !allBlank html.toList) =
        (texts.map Markdown.toHtml).filter fun html => !html.isEmpty := by
    intro texts
    refine List.filter_congr fun html hhtml => ?_
    obtain ⟨text, -, rfl⟩ := List.mem_map.mp hhtml
    rw [allBlank_toHtml]
  simp only [introOf_eq, bind_ok_iff, membersOf_ok_iff, noteTexts_ok_iff, IsIntroOf, hfilter,
    Except.ok.injEq]
  constructor
  · rintro ⟨paragraphs, hparagraphs, texts, htexts, rfl⟩
    exact ⟨paragraphs, texts, hparagraphs, htexts, rfl⟩
  · rintro ⟨paragraphs, texts, hparagraphs, htexts, rfl⟩
    exact ⟨paragraphs, hparagraphs, texts, htexts, rfl⟩

theorem items?_noteField_iff {name : String} {items : List Value} :
    (noteField name fields).items? = some items ↔
      ∃ list, Value.field? name fields = some list ∧ list.items? = some items := by
  rw [noteField]
  cases Value.field? name fields with
  | none => simp [Value.items?]
  | some list => simp

/-- Both parts of a section must be there before their texts are asked for. -/
theorem sectionOf_eq (version : String) (v : Value) :
    sectionOf version v =
      match Value.field? "heading" (v.entries?.getD []),
        (noteField "items" (v.entries?.getD [])).items? with
      | some heading, some items => noteText heading >>= fun heading => noteTexts items >>=
          fun items => .ok ⟨heading, items.map Markdown.toInlineHtml⟩
      | _, _ => .error (.sectionIncomplete version) := by
  have hlist : (Value.field? "items" (v.entries?.getD [])).bind Value.items? =
      (noteField "items" (v.entries?.getD [])).items? := by
    rw [noteField]
    cases Value.field? "items" (v.entries?.getD []) <;> rfl
  unfold sectionOf
  dsimp only
  rw [hlist]
  cases Value.field? "heading" (v.entries?.getD []) with
  | none => rfl
  | some heading =>
    cases (noteField "items" (v.entries?.getD [])).items? with
    | none => rfl
    | some items =>
      dsimp only
      cases noteText heading with
      | error e => rfl
      | ok text => cases noteTexts items <;> rfl

theorem sectionOf_ok_iff : sectionOf version v = .ok part ↔ part.IsFrom v := by
  rw [sectionOf_eq]
  constructor
  · intro h
    split at h
    · rename_i heading items hheading hitems
      obtain ⟨title, htitle, h⟩ := bind_ok_iff.mp h
      obtain ⟨texts, htexts, ⟨⟩⟩ := bind_ok_iff.mp h
      cases hfields : v.entries? with
      | none =>
        rw [hfields] at hheading
        cases hheading
      | some fields =>
        rw [hfields] at hheading hitems
        obtain ⟨list, hlist, hitems⟩ := items?_noteField_iff.mp hitems
        exact ⟨fields, heading, list, items, hfields, hheading, hlist, hitems,
          noteText_ok_iff.mp htitle, texts, noteTexts_ok_iff.mp htexts, rfl⟩
    · cases h
  · rintro ⟨fields, heading, list, items, hfields, hheading, hlist, hitems, htitle, texts, htexts,
      hpart⟩
    rw [hfields, Option.getD_some, hheading, items?_noteField_iff.mpr ⟨list, hlist, hitems⟩]
    refine bind_ok_iff.mpr ⟨_, noteText_ok_iff.mpr htitle, ?_⟩
    exact bind_ok_iff.mpr ⟨texts, noteTexts_ok_iff.mpr htexts, by rw [← hpart]⟩

theorem sectionsOf_eq_mapM (version : String) (parts : List Value) :
    sectionsOf version parts = parts.mapM (sectionOf version) := by
  induction parts with
  | nil => rfl
  | cons v rest ih =>
    rw [sectionsOf, List.mapM_cons, ← ih]
    cases sectionOf version v with
    | error e => rfl
    | ok part => cases sectionsOf version rest <;> rfl

theorem isVoid_noteField_iff {name : String} :
    (noteField name fields).isVoid = false ↔
      ∃ v, Value.field? name fields = some v ∧ v.isVoid = false := by
  rw [noteField]
  cases Value.field? name fields with
  | none => simp [Value.isVoid]
  | some v => simp

theorem versionOf_eq (index : Nat) (fields : List (Value × Value)) :
    versionOf index fields =
      if (noteField "version" fields).isVoid then .error (.noVersion index)
      else noteText (noteField "version" fields) >>= fun text => .ok (strip text) := by
  unfold versionOf
  dsimp only
  split
  · rfl
  · cases noteText (noteField "version" fields) <;> rfl

theorem versionOf_ok_iff :
    versionOf index fields = .ok version ↔
      ∃ v text, Value.field? "version" fields = some v ∧ v.isVoid = false ∧ v.Says text ∧
        version = strip text := by
  rw [versionOf_eq]
  split
  · rename_i hvoid
    refine iff_of_false nofun ?_
    rintro ⟨v, text, hv, hnot, -⟩
    rw [noteField, hv, Option.getD_some, hnot] at hvoid
    cases hvoid
  · rename_i hvoid
    rw [Bool.not_eq_true, isVoid_noteField_iff] at hvoid
    obtain ⟨v, hv, hnot⟩ := hvoid
    simp only [noteField, hv, Option.getD_some, bind_ok_iff, noteText_ok_iff, Except.ok.injEq]
    constructor
    · rintro ⟨text, htext, rfl⟩
      exact ⟨v, text, rfl, hnot, htext, rfl⟩
    · rintro ⟨_, text, ⟨⟩, -, htext, rfl⟩
      exact ⟨text, htext, rfl⟩

/-- The programs of a release: those that its fields name, or else the usual ones. -/
def programsOf (usual : Binaries) (version : String) (fields : List (Value × Value)) :
    Except ReleaseError Binaries :=
  match Value.field? "binaries" fields with
  | some own => binariesOf (version ++ " binaries") own
  | none => .ok usual

theorem Release.ofFields_eq (index : Nat) (usual : Binaries) (fields : List (Value × Value)) :
    Release.ofFields index usual fields =
      versionOf index fields >>= fun version =>
      introOf (noteField "intro" fields) >>= fun intro =>
      membersOf (noteField "sections" fields) >>= fun members =>
      sectionsOf version members >>= fun sections =>
      programsOf usual version fields >>= fun binaries =>
      .ok { version, intro, sections, binaries } := by
  rw [Release.ofFields]
  unfold programsOf
  cases Value.field? "binaries" fields <;> rfl

theorem Release.ofFields_ok_iff :
    Release.ofFields index usual fields = .ok r ↔ r.IsFrom usual fields := by
  simp only [Release.ofFields_eq, bind_ok_iff, versionOf_ok_iff, introOf_ok_iff, membersOf_ok_iff,
    sectionsOf_eq_mapM, mapM_ok_iff, sectionOf_ok_iff]
  constructor
  · rintro ⟨version, hversion, intro, hintro, parts, hparts, sections, hsections, binaries,
      hbinaries, ⟨⟩⟩
    rw [programsOf] at hbinaries
    refine ⟨hversion, hintro, ⟨parts, hparts, hsections⟩, fun hnone => ?_, fun own hown => ?_⟩
    · rw [hnone] at hbinaries
      exact (Except.ok.inj hbinaries).symm
    · rw [hown] at hbinaries
      exact hbinaries
  · rintro ⟨hversion, hintro, ⟨parts, hparts, hsections⟩, husual, hown⟩
    refine ⟨_, hversion, _, hintro, parts, hparts, _, hsections, r.binaries, ?_, rfl⟩
    rw [programsOf]
    cases hbinaries : Value.field? "binaries" fields with
    | none => rw [husual hbinaries]
    | some own => exact hown own hbinaries

/-- An entry gives a release just if it is a mapping and the release says what its fields say. The
index of the entry does not matter. -/
theorem Release.ofValue_ok_iff :
    Release.ofValue index usual v = .ok r ↔
      ∃ fields, v.entries? = some fields ∧ r.IsFrom usual fields := by
  rw [Release.ofValue]
  cases v.entries? with
  | none => simp
  | some fields => simp [ofFields_ok_iff]

theorem Release.IsFrom.binaries_of_null (h : r.IsFrom usual fields)
    (hnull : Value.field? "binaries" fields = some .null) : r.binaries = [] :=
  (Except.ok.inj (h.ownBinaries .null hnull)).symm

end

/-! ## 3. All entries -/

theorem releasesFrom_eq_mapM (usual : Binaries) (index : Nat) (entries : List Value) :
    releasesFrom usual index entries =
      (entries.zipIdx index).mapM fun entry => Release.ofValue entry.2 usual entry.1 := by
  induction entries generalizing index with
  | nil => rfl
  | cons entry rest ih =>
    rw [releasesFrom, List.zipIdx_cons, List.mapM_cons, ← ih]
    cases Release.ofValue index usual entry with
    | error e => rfl
    | ok release => cases releasesFrom usual (index + 1) rest <;> rfl

theorem releasesOfEntries_eq (fields : List (Value × Value)) :
    releasesOfEntries fields = binariesOf "binaries" (noteField "binaries" fields) >>= fun usual =>
      if (noteField "releases" fields).isVoid then .ok []
      else
        match (noteField "releases" fields).items? with
        | some items => releasesFrom usual 0 items
        | none => .error .releasesNotList := by
  rw [releasesOfEntries]
  cases binariesOf "binaries" (noteField "binaries" fields) <;> rfl

theorem releasesOf_eq {v : Value} {fields : List (Value × Value)} {entries : List Value}
    (hv : v.entries? = some fields)
    (hentries : (noteField "releases" fields).items? = some entries) :
    releasesOf v = binariesOf "binaries" (noteField "binaries" fields) >>= fun usual =>
      entries.zipIdx.mapM fun entry => Release.ofValue entry.2 usual entry.1 := by
  have hfields : fields ≠ [] := by
    rintro rfl
    cases hentries
  have hvoid : v.isVoid = false := by
    rw [isVoid_of_entries? hv]
    simpa using hfields
  rw [releasesOf, if_neg (by simp [hvoid]), hv]
  simp only [releasesOfEntries_eq, isVoid_of_items? hentries, hentries, releasesFrom_eq_mapM]
  cases entries <;> rfl

/-- Notes with a list of entries give one release for each of them, in the same order: what that
entry alone gives with the programs of the whole file. If those programs are at fault, that is the
error, and otherwise that of the first entry that gives no release. A release says what its entry
says, and naming null for its programs gives it none. -/
theorem releasesOf_entryByEntry {v : Value} {fields : List (Value × Value)} {entries : List Value}
    (hv : v.entries? = some fields)
    (hentries : (noteField "releases" fields).items? = some entries) :
    (∀ fs p, FileSystem.readData fs p = .ok v →
      loadReleases fs p = (releasesOf v).mapError .content) ∧
    (∀ releases, releasesOf v = .ok releases ↔
      ∃ usual, binariesOf "binaries" (noteField "binaries" fields) = .ok usual ∧
        releases.length = entries.length ∧
        ∀ (i : Nat) (entry : Value) (release : Release), entries[i]? = some entry →
          releases[i]? = some release → Release.ofValue i usual entry = .ok release) ∧
    (∀ index usual entry release, Release.ofValue index usual entry = .ok release ↔
      ∃ own, entry.entries? = some own ∧ release.IsFrom usual own) ∧
    (∀ usual own (release : Release), release.IsFrom usual own →
      Value.field? "binaries" own = some .null → release.binaries = []) ∧
    ∀ e, releasesOf v = .error e ↔
      binariesOf "binaries" (noteField "binaries" fields) = .error e ∨
      ∃ usual, binariesOf "binaries" (noteField "binaries" fields) = .ok usual ∧
        ∃ (i : Nat) (entry : Value), entries[i]? = some entry ∧
          Release.ofValue i usual entry = .error e ∧
          ∀ j < i, ∀ before, entries[j]? = some before →
            ∃ release, Release.ofValue j usual before = .ok release := by
  refine ⟨fun fs p hread => FileSystem.loadData_of_readData hread _, fun releases => ?_,
    fun _ _ _ _ => Release.ofValue_ok_iff, fun _ _ _ h hnull => h.binaries_of_null hnull,
    fun e => ?_⟩
  · rw [releasesOf_eq hv hentries, bind_ok_iff]
    exact exists_congr fun usual => and_congr_right fun _ =>
      mapM_zipIdx_ok_iff fun i entry => Release.ofValue i usual entry
  · rw [releasesOf_eq hv hentries, bind_error_iff]
    exact or_congr_right (exists_congr fun usual => and_congr_right fun _ =>
      mapM_zipIdx_error_iff fun i entry => Release.ofValue i usual entry)

/-- Notes with usual programs. The first release names null for its own, and the second one has no
version. -/
def unversionedNotes : List (Value × Value) :=
  [(.string "binaries", .map [(.string "Linux", .string "x86_64-unknown-linux-gnu")]),
    (.string "releases", .list
      [.map [(.string "version", .string " v2 "), (.string "intro", .list [.string " "]),
          (.string "binaries", .null)],
        .map [(.string "intro", .string "Soon.")]])]

theorem releasesOf_entryByEntry_unversioned :
    (Value.map unversionedNotes).entries? = some unversionedNotes ∧
      (∃ entries, (noteField "releases" unversionedNotes).items? = some entries) ∧
      releasesOf (.map unversionedNotes) = .error (.noVersion 1) := by
  have hv : (Value.map unversionedNotes).entries? = some unversionedNotes := rfl
  obtain ⟨-, -, hone, -, herror⟩ := releasesOf_entryByEntry hv rfl
  refine ⟨hv, ⟨_, rfl⟩, (herror _).mpr (Or.inr ⟨_, rfl, 1, _, rfl, rfl, ?_⟩)⟩
  intro j hj before hbefore
  obtain rfl : j = 0 := Nat.lt_one_iff.mp hj
  cases hbefore
  refine ⟨⟨"v2", [], [], []⟩, (hone _ _ _ _).mpr ⟨_, rfl, ?_⟩⟩
  refine ⟨⟨_, " v2 ", rfl, rfl, ⟨rfl, rfl⟩, by decide⟩, ?_, ⟨[], Or.inl ⟨rfl, rfl⟩, .nil⟩,
    nofun, ?_⟩
  · exact ⟨[.string " "], [" "], (Value.holds_iff_of_items? rfl).mpr rfl,
      .cons ⟨rfl, rfl⟩ .nil, by decide +kernel⟩
  · rintro own ⟨⟩
    rfl

end StaticSite
