/-
StaticSite.Proofs.Release.VersionSpelling — versions with and without quotes.

Of two files that are alike but for quotes around a version, the one with
quotes gives the version as it is written. The other one gives what is shown
for the value that the digits stand for. So both are loaded alike just if no
digits are lost (`load_plainVersion`), for release notes and for the version
of a site. Files that hold a version and nothing else are among them
(`hasTree_notesLines`, `hasTree_configLines`).
-/
import StaticSite.Config.File
import StaticSite.Proofs.Generate.Resuming
import StaticSite.Proofs.Release.EntryByEntry
import StaticSite.Proofs.Release.Versions
import StaticSite.Proofs.Config.Loaded
import StaticSite.Proofs.Yaml.DottedScalar
import StaticSite.Proofs.Yaml.FlowFile
import StaticSite.Proofs.Yaml.OpenTree
import StaticSite.Proofs.Yaml.ReadBlock

namespace StaticSite

open StaticSite.Number StaticSite.Yaml StaticSite.Text

/-! ## 1. Files with a tree -/

/-- The file spells a document with the tree, when its aliases are replaced. -/
def FileSystem.HasTree (fs : FileSystem) (p : Path) (version : Version) (root : Node) : Prop :=
  ∃ bytes text handles document, fs.readBytes p = .ok bytes ∧ textOf? bytes = some text ∧
    readFile text.toList = .ok ⟨⟨version, handles⟩, some document⟩ ∧ document.resolve = .ok root

/-- Outside keys, by a version of the notation. -/
def outsideKeys (version : Version) : Mode :=
  ⟨version, false⟩

/-- What is loaded from a tree is made of its value. -/
theorem FileSystem.HasTree.loadData_eq {ε α : Type} {fs : FileSystem} {p : Path}
    {version : Version} {root : Node} (h : fs.HasTree p version root)
    (ofValue : Value → Except ε α) :
    fs.loadData ofValue p =
      match root.value (outsideKeys version) with
      | .error f => .error (.file (.document f.error))
      | .ok v => (ofValue v).mapError .content := by
  obtain ⟨bytes, text, handles, document, hbytes, htext, hfile, hresolve⟩ := h
  rw [FileSystem.loadData, FileSystem.readData_of_text hbytes htext, Yaml.load, hfile]
  simp only [hresolve]
  rw [show (⟨version, false⟩ : Mode) = outsideKeys version from rfl]
  cases root.value (outsideKeys version) with
  | error f => rfl
  | ok v =>
    dsimp only [Except.mapError]
    cases ofValue v <;> rfl

theorem FileSystem.HasTree.loadData_ok_iff {ε α : Type} {fs : FileSystem} {p : Path}
    {version : Version} {root : Node} (h : fs.HasTree p version root)
    {ofValue : Value → Except ε α} {a : α} :
    fs.loadData ofValue p = .ok a ↔
      ∃ v, root.value (outsideKeys version) = .ok v ∧ ofValue v = .ok a := by
  rw [h.loadData_eq]
  cases root.value (outsideKeys version) with
  | error f => simp
  | ok v => cases hvalue : ofValue v <;> simp [hvalue, Except.mapError]

/-! ## 2. Versions in a value -/

/-- A text without quotes. -/
def plainScalar (t : List Char) : Node :=
  .scalar .absent true t

/-- A text in quotes. -/
def quotedScalar (t : List Char) : Node :=
  .scalar .absent false t

theorem value_plainScalar (mode : Mode) (t : List Char) :
    (plainScalar t).value mode =
      match plainMeaning mode.version t with
      | .error e => .error ⟨0, e⟩
      | .ok meaning => atTop meaning.value? := by
  rfl

theorem value_quotedScalar (mode : Mode) (t : List Char) :
    (quotedScalar t).value mode = .ok (.string (String.ofList t)) := by
  rfl

/-- The value has a text that can be a version. -/
structure Value.IsVersion (v : Value) : Prop where
  ne_null : v ≠ .null
  shown : IsStripped v.shown

/-- A place for a version in a value that something is loaded from. What is loaded depends on the
version by its text only, and gives it back. -/
structure VersionPlace {ε α : Type} (admits : Value → Prop) (ofValue : Value → Except ε α)
    (version? : α → Option String) (K : Value → Value) : Prop where
  same : ∀ {v w}, v.IsVersion → w.IsVersion → admits v → admits w → v.text = w.text →
    ofValue (K v) = ofValue (K w)
  version : ∀ {v a}, v.IsVersion → ofValue (K v) = .ok a →
    ∃ s, v.text = .ok s ∧ version? a = some s

theorem noteField_fill {name other : String} (table : OpenTable name) (hother : other ≠ name)
    (v w : Value) : noteField other (table.fill v) = noteField other (table.fill w) := by
  rw [noteField, noteField, table.field_other hother v w]

theorem noteField_fill_self {name : String} (table : OpenTable name) (v : Value) :
    noteField name (table.fill v) = v := by
  rw [noteField, table.field_name, Option.getD_some]

theorem exists_of_forall₂_append_cons {α β : Type} {R : α → β → Prop} {first last : List α}
    {a : α} {results : List β} (h : List.Forall₂ R (first ++ a :: last) results) :
    ∃ b, results[first.length]? = some b ∧ R a b := by
  induction first generalizing results with
  | nil =>
    cases h with
    | cons hab => exact ⟨_, rfl, hab⟩
  | cons other first ih =>
    cases h with
    | cons _ hrest =>
      obtain ⟨b, hb, hab⟩ := ih hrest
      exact ⟨b, hb, hab⟩

/-! ## 3. The version of a release -/

section

variable (top : OpenTable "releases") (entry : OpenTable "version") (first last : List Value)
  (topMark listMark entryMark : Option Nat)

/-- The entry of a release, where the version is left open. -/
def entryWith (v : Value) : Value :=
  (Value.map (entry.fill v)).marked entryMark

/-- Release notes where the version of one entry is left open. -/
def notesWith (v : Value) : Value :=
  (Value.map (top.fill
    ((Value.list (first ++ entryWith entry entryMark v :: last)).marked listMark))).marked topMark

variable {top entry first last topMark listMark entryMark} {v w : Value}

theorem Release.ofValue_entryWith (hv : v.isVoid = false) (hw : w.isVoid = false)
    (htext : v.text = w.text) (index : Nat) (usual : Binaries) :
    Release.ofValue index usual (entryWith entry entryMark v) =
      Release.ofValue index usual (entryWith entry entryMark w) := by
  have hversion : versionOf index (entry.fill v) = versionOf index (entry.fill w) := by
    rw [versionOf_eq, versionOf_eq, noteField_fill_self, noteField_fill_self, hv, hw, noteText,
      noteText, htext]
  have hprograms : ∀ version,
      programsOf usual version (entry.fill v) = programsOf usual version (entry.fill w) := by
    intro version
    rw [programsOf, programsOf, entry.field_other (by decide) v w]
  simp only [Release.ofValue, entryWith, Value.entries?_marked, Value.entries?, Release.ofFields_eq,
    hversion, hprograms, noteField_fill entry (show "intro" ≠ "version" by decide) v w,
    noteField_fill entry (show "sections" ≠ "version" by decide) v w]

theorem entries?_notesWith :
    (notesWith top entry first last topMark listMark entryMark v).entries? =
      some (top.fill ((Value.list (first ++ entryWith entry entryMark v :: last)).marked listMark))
        := by
  rw [notesWith, Value.entries?_marked, Value.entries?]

theorem items?_notesWith :
    (noteField "releases" (top.fill
      ((Value.list (first ++ entryWith entry entryMark v :: last)).marked listMark))).items? =
        some (first ++ entryWith entry entryMark v :: last) := by
  rw [noteField_fill_self, Value.items?_marked, Value.items?]

/-- The releases depend on the version of an entry by its text, and one of them has it. -/
theorem versionPlace_notesWith :
    VersionPlace (fun v => v.isVoid = false) releasesOf
      (fun releases => releases[first.length]?.map Release.version)
      (notesWith top entry first last topMark listMark entryMark) where
  same {v w} _ _ hv hw htext := by
    have hbinaries : "binaries" ≠ "releases" := by decide
    rw [releasesOf_eq entries?_notesWith items?_notesWith,
      releasesOf_eq entries?_notesWith items?_notesWith, noteField_fill top hbinaries _
        ((Value.list (first ++ entryWith entry entryMark w :: last)).marked listMark)]
    simp only [List.zipIdx_append, List.zipIdx_cons, List.mapM_append, List.mapM_cons,
      Release.ofValue_entryWith hv hw htext]
  version {v releases} hv hload := by
    have hentries : (notesWith top entry first last topMark listMark entryMark v).releaseEntries =
        first ++ entryWith entry entryMark v :: last := by
      rw [Value.releaseEntries, entries?_notesWith, Option.getD_some, items?_notesWith,
        Option.getD_some]
    have hall := releasesOf_ok hload
    rw [hentries] at hall
    obtain ⟨r, hr, usual, fields, hfields, hfrom⟩ := exists_of_forall₂_append_cons hall
    rw [entryWith, Value.entries?_marked, Value.entries?, Option.some.injEq] at hfields
    subst hfields
    obtain ⟨given, s, hgiven, -, ⟨htext, hshown⟩, hversion⟩ := hfrom.version
    rw [entry.field_name, Option.some.injEq] at hgiven
    subst hgiven
    refine ⟨s, ?_, ?_⟩
    · rw [Value.text, htext, if_pos rfl, hshown]
    · rw [hr, Option.map_some, hversion, ← hshown, hv.shown.2]

end

/-! ## 4. The version of a site -/

section

variable (top : OpenTable "site") (site : OpenTable "version") (topMark siteMark : Option Nat)

/-- A configuration where the version of the site is left open. -/
def configWith (v : Value) : Value :=
  (Value.map (top.fill ((Value.map (site.fill v)).marked siteMark))).marked topMark

variable {top site topMark siteMark} {v w : Value} {c base : SiteConfig}

theorem SiteConfig.ofValue_of_entries? {fields : List (Value × Value)}
    (h : v.entries? = some fields) : SiteConfig.ofValue v = SiteConfig.ofEntries fields := by
  rw [SiteConfig.ofValue, isVoid_of_entries? h, h]
  cases fields <;> rfl

theorem ofValue_configWith :
    SiteConfig.ofValue (configWith top site topMark siteMark v) =
      SiteConfig.ofEntries (top.fill ((Value.map (site.fill v)).marked siteMark)) := by
  refine SiteConfig.ofValue_of_entries? ?_
  rw [configWith, Value.entries?_marked, Value.entries?]

theorem fieldsOf_configWith :
    fieldsOf true (entryOf "site" (top.fill ((Value.map (site.fill v)).marked siteMark))) =
      .ok (site.fill v) := by
  refine fieldsOf_of_hasSection (.inl ⟨_, top.field_name _, ?_⟩) true
  rw [Value.entries?_marked, Value.entries?]

theorem withSite_fill (hv : v ≠ .null) (hw : w ≠ .null) (htext : v.text = w.text) :
    base.withSite (site.fill v) = base.withSite (site.fill w) := by
  have hother : ∀ name default, name ≠ "version" →
      textField (site.fill v) name default = textField (site.fill w) name default := by
    intro name default hname
    rw [textField, textField, site.field_other hname v w]
  have hhandle : ∀ default, handleOf (site.fill v) default = handleOf (site.fill w) default := by
    intro default
    rw [handleOf, handleOf, site.field_other (by decide) v w]
  have hversion : ∀ default,
      textField (site.fill v) "version" default = textField (site.fill w) "version" default := by
    intro default
    rw [textField, textField, site.field_name, site.field_name]
    simp only [Value.stripped?_eq hv, Value.stripped?_eq hw, htext]
  simp only [SiteConfig.withSite, hhandle, hversion, hother "name" _ (by decide),
    hother "tagline" _ (by decide), hother "base_url" _ (by decide),
    hother "description" _ (by decide), hother "social_image" _ (by decide),
    hother "favicon" _ (by decide), hother "banner_image" _ (by decide),
    hother "fonts_url" _ (by decide), hother "author_name" _ (by decide),
    hother "author_url" _ (by decide), hother "footer_image" _ (by decide),
    hother "repo_url" _ (by decide)]

theorem version_of_withSite {fields : List (Value × Value)} (h : base.withSite fields = .ok c) :
    textField fields "version" base.version = .ok c.version := by
  iterate 13 obtain ⟨_, -, h⟩ := bind_ok_iff.mp h
  obtain ⟨version, hversion, h⟩ := bind_ok_iff.mp h
  cases h
  exact hversion

theorem version_of_ofEntries {entries fields : List (Value × Value)}
    (hfields : fieldsOf true (entryOf "site" entries) = .ok fields)
    (h : SiteConfig.ofEntries entries = .ok c) :
    textField fields "version" ({} : SiteConfig).version = .ok c.version := by
  obtain ⟨site, hsite, h⟩ := bind_ok_iff.mp h
  rw [hfields, Except.ok.injEq] at hsite
  subst hsite
  obtain ⟨config, hconfig, h⟩ := bind_ok_iff.mp h
  obtain ⟨paths, -, h⟩ := bind_ok_iff.mp h
  obtain ⟨config', hconfig', h⟩ := bind_ok_iff.mp h
  obtain ⟨navLinks, -, h⟩ := bind_ok_iff.mp h
  obtain ⟨pageOutputs, -, h⟩ := bind_ok_iff.mp h
  cases h
  obtain ⟨-, -, hsame, -⟩ := withPaths_spec hconfig'
  have hversion : config'.version = config.version := hsame .version rfl
  rw [hversion]
  exact version_of_withSite hconfig

/-- The configuration depends on the version of the site by its text, and has it. -/
theorem versionPlace_configWith :
    VersionPlace (fun _ => True) SiteConfig.ofValue (fun c => some c.version)
      (configWith top site topMark siteMark) where
  same {v w} hv hw _ _ htext := by
    rw [ofValue_configWith, ofValue_configWith, SiteConfig.ofEntries, SiteConfig.ofEntries,
      fieldsOf_configWith, fieldsOf_configWith]
    have hentry : ∀ name, name ≠ "site" →
        entryOf name (top.fill ((Value.map (site.fill v)).marked siteMark)) =
          entryOf name (top.fill ((Value.map (site.fill w)).marked siteMark)) := by
      intro name hname
      rw [entryOf, entryOf, top.field_other hname]
    simp only [ok_bind, withSite_fill hv.ne_null hw.ne_null htext, hentry "paths" (by decide),
      hentry "nav_links" (by decide), hentry "pages" (by decide)]
  version {v c} hv hload := by
    rw [ofValue_configWith] at hload
    have hversion := version_of_ofEntries fieldsOf_configWith hload
    simp only [textField, site.field_name, Value.stripped?_eq hv.ne_null, Value.text] at hversion ⊢
    cases htext : v.hasText with
    | false =>
      rw [htext] at hversion
      cases hversion
    | true =>
      rw [htext] at hversion
      simp only [if_true, Except.map, hv.shown.nonBlank?, ConfigError.ofText, Option.getD_some,
        Except.ok.injEq] at hversion
      exact ⟨v.shown, rfl, congrArg some hversion.symm⟩

end

/-! ## 5. Trees with a version -/

/-- The tree of release notes in which the version of one entry is left open. -/
structure OpenNotes where
  top : OpenMap
  list : OpenList
  entry : OpenMap

/-- The tree of a configuration in which the version of the site is left open. -/
structure OpenConfig where
  top : OpenMap
  site : OpenMap

namespace OpenNotes

variable (notes : OpenNotes) (mode : Mode)

/-- The notes with a node for the version. -/
def fill (node : Node) : Node :=
  notes.top.fill (notes.list.fill (notes.entry.fill node))

/-- The place of the entry among the others. -/
def index : Nat :=
  notes.list.before.length

/-- The open place is the version of an entry of the releases. -/
structure IsAt : Prop where
  releases : notes.top.IsAt mode "releases"
  isList : collectionType notes.list.tag .seq = .ok .seq
  version : notes.entry.IsAt mode "version"

variable {notes mode}

theorem IsAt.makes (h : notes.IsAt mode) :
    ∃ φ K, (∀ node, (notes.fill node).value mode = φ (node.value mode)) ∧ Makes φ K ∧
      VersionPlace (fun v => v.isVoid = false) releasesOf
        (fun releases => releases[notes.index]?.map Release.version) K := by
  obtain ⟨φ, entry, hentry, hφ⟩ := h.version.makes
  obtain ⟨χ, first, last, hlength, hlist, hχ⟩ := notes.list.makes h.isList mode
  obtain ⟨ψ, top, htop, hψ⟩ := h.releases.makes
  refine ⟨fun r => ψ (χ (φ r)), notesWith top entry first last _ _ _, fun node => ?_,
    (hφ.comp χ _ hχ.error hχ.ok).comp ψ _ hψ.error hψ.ok, ?_⟩
  · rw [fill, htop, hlist, hentry]
  · rw [index, ← hlength]
    exact versionPlace_notesWith

end OpenNotes

namespace OpenConfig

variable (config : OpenConfig) (mode : Mode)

/-- The configuration with a node for the version. -/
def fill (node : Node) : Node :=
  config.top.fill (config.site.fill node)

/-- The open place is the version of the site. -/
structure IsAt : Prop where
  site : config.top.IsAt mode "site"
  version : config.site.IsAt mode "version"

variable {config mode}

theorem IsAt.makes (h : config.IsAt mode) :
    ∃ φ K, (∀ node, (config.fill node).value mode = φ (node.value mode)) ∧ Makes φ K ∧
      VersionPlace (fun _ => True) SiteConfig.ofValue (fun c => some c.version) K := by
  obtain ⟨φ, site, hsite, hφ⟩ := h.version.makes
  obtain ⟨ψ, top, htop, hψ⟩ := h.site.makes
  refine ⟨fun r => ψ (φ r), configWith top site _ _, fun node => ?_,
    hφ.comp ψ _ hψ.error hψ.ok, versionPlace_configWith⟩
  rw [fill, htop, hsite]

end OpenConfig

/-! ## 6. Files with a version and nothing else -/

/-- A version as it is written: without quotes, or in quotes. -/
inductive IsVersionText (t : List Char) : List Char → Node → Prop
  | plain : IsVersionText t t (plainScalar t)
  | quoted : IsVersionText t (quotedText (String.ofList t)) (quotedScalar t)

/-- Release notes with one version. -/
def notesLines (w : List Char) : List Char :=
  "releases:\n- version: ".toList ++ (w ++ ['\n'])

/-- A configuration with a version. -/
def configLines (w : List Char) : List Char :=
  "site:\n  version: ".toList ++ (w ++ ['\n'])

/-- A mapping with one entry, whose value is left open. -/
def entryNamed (name : String) : OpenMap :=
  ⟨none, .absent, [], plainScalar name.toList, []⟩

/-- The tree of release notes with one version. -/
def bareNotes : OpenNotes :=
  ⟨entryNamed "releases", ⟨none, .absent, [], []⟩, entryNamed "version"⟩

/-- The tree of a configuration with a version. -/
def bareConfig : OpenConfig :=
  ⟨entryNamed "site", entryNamed "version"⟩

theorem isAt_bareNotes : bareNotes.IsAt (outsideKeys .v12) where
  releases := ⟨rfl, rfl, List.forall_mem_nil _⟩
  isList := rfl
  version := ⟨rfl, rfl, List.forall_mem_nil _⟩

theorem isAt_bareConfig : bareConfig.IsAt (outsideKeys .v12) where
  site := ⟨rfl, rfl, List.forall_mem_nil _⟩
  version := ⟨rfl, rfl, List.forall_mem_nil _⟩

section

variable {t w : List Char} {node : Node}

theorem isUnbroken_of_isDotted (ht : IsDotted t) : IsUnbroken false t where
  line c hc := isLineChar_of_isNumberChar (ht.chars c hc)
  word c hc s := by
    have hnumber := ht.chars c hc
    have hcolon : c ≠ ':' := ne_of_class hnumber (by decide)
    have hspace : c ≠ ' ' := ne_of_class hnumber (by decide)
    have htab : c ≠ '\t' := ne_of_class hnumber (by decide)
    simp [endsWord, isGap, hcolon, hspace, htab,
      isBreak_of_isLineChar (isLineChar_of_isNumberChar hnumber)]

/-- A version stands on one line, however it is written. -/
theorem IsVersionText.isScalarText (h : IsVersionText t w node) (ht : IsDotted t) :
    IsScalarText w ['\n'] node := by
  cases h with
  | plain =>
    have hunbroken := isUnbroken_of_isDotted ht
    obtain ⟨c, s, rfl, hc⟩ := ht.starts
    exact isScalarText_unbroken (isAlphanum_of_isDigit hc) hunbroken endsPlain_line
  | quoted =>
    have hquoted := isScalarText_quotedText (String.ofList t) ['\n']
    rwa [String.toList_ofList] at hquoted

/-- A name in front of a colon. -/
theorem isScalarText_name {name : String} (h : name.toList.all Char.isAlphanum = true)
    (hne : name.toList ≠ []) {after : List Char} (hgap : atGap after = true) :
    IsScalarText name.toList (':' :: after) (plainScalar name.toList) := by
  obtain ⟨c, s, hcs⟩ := List.exists_cons_of_ne_nil hne
  rw [hcs, List.all_eq_true] at h
  have hend : EndsPlain false (':' :: after) :=
    ⟨by simp [endsWord, hgap], fun _ _ hfound => by cases hfound⟩
  rw [hcs]
  exact isScalarText_unbroken (h c List.mem_cons_self) ((IsPlainWord.bare c s h).isUnbroken false)
    hend

variable (hw : IsScalarText w ['\n'] node)
include hw

/-- A value after a colon and a space. -/
theorem endsWith_value {depth least column : Nat} (hleast : least ≤ column + 1) :
    EndsWith ⟨.v12, defaultHandles⟩ (depth + 1) least true
      ⟨⟨' ' :: (w ++ ['\n']), column⟩, false⟩ node := by
  have hnext : Place.next ⟨⟨' ' :: (w ++ ['\n']), column⟩, false⟩ =
      ⟨⟨w ++ ['\n'], column + 1⟩, false⟩ := by
    have hspace : skipBlanks ⟨' ' :: (w ++ ['\n']), column⟩ =
        skipBlanks ⟨w ++ ['\n'], column + 1⟩ := rfl
    rw [Place.next, hspace, hw.skipBlanks]
    rfl
  exact endsWith_scalar rfl hw hleast hnext

theorem endsWith_notesLines (depth : Nat) :
    EndsWith ⟨.v12, defaultHandles⟩ (depth + 4) 0 false ⟨⟨notesLines w, 0⟩, true⟩
      (bareNotes.fill node) := by
  have hrelease : EndsWith ⟨.v12, defaultHandles⟩ (depth + 2) 1 false
      ⟨⟨" version: ".toList ++ (w ++ ['\n']), 1⟩, true⟩ ((entryNamed "version").fill node) :=
    endsWith_entry rfl (isScalarText_name (by decide) (by decide) rfl) (by decide) rfl
      (Nat.le_succ 1) rfl (endsWith_value hw (by decide))
  have hreleases : EndsWith ⟨.v12, defaultHandles⟩ (depth + 3) 1 true
      ⟨⟨"\n- version: ".toList ++ (w ++ ['\n']), 9⟩, false⟩
      (.seq .absent [(entryNamed "version").fill node]) :=
    endsWith_item rfl hrelease
  exact endsWith_entry rfl (isScalarText_name (by decide) (by decide) rfl) (by decide) rfl
    (Nat.zero_le 0) rfl hreleases

theorem endsWith_configLines (depth : Nat) :
    EndsWith ⟨.v12, defaultHandles⟩ (depth + 3) 0 false ⟨⟨configLines w, 0⟩, true⟩
      (bareConfig.fill node) := by
  have hsite : EndsWith ⟨.v12, defaultHandles⟩ (depth + 2) 1 true
      ⟨⟨"\n  version: ".toList ++ (w ++ ['\n']), 5⟩, false⟩ ((entryNamed "version").fill node) :=
    endsWith_entry rfl (isScalarText_name (by decide) (by decide) rfl) (by decide) rfl
      (Nat.le_succ 1) rfl (endsWith_value hw (by decide))
  exact endsWith_entry rfl (isScalarText_name (by decide) (by decide) rfl) (by decide) rfl
    (Nat.zero_le 0) rfl hsite

end

section

variable {t w : List Char} {node : Node} {fs : FileSystem} {p : Path}

/-- A character of a file on lines of printable characters. -/
def isFileChar (c : Char) : Bool :=
  isLineChar c || c == '\n'

theorem isAllowed_of_isFileChar {c : Char} (hc : isFileChar c = true) : isAllowed c = true := by
  rcases (Bool.or_eq_true _ _).mp hc with hline | hbreak
  · exact isAllowed_of_isLineChar hline
  · rw [beq_iff_eq.mp hbreak]
    decide

theorem all_isFileChar {first : List Char} (hfirst : first.all isFileChar = true)
    (hw : IsScalarText w ['\n'] node) : (first ++ (w ++ ['\n'])).all isFileChar = true := by
  have hword : w.all isFileChar = true := by
    rw [List.all_eq_true]
    intro c hc
    rw [isFileChar, hw.line c hc, Bool.true_or]
  rw [List.all_append, List.all_append, hfirst, hword]
  rfl

/-- A file that is its root has the tree of the root. -/
theorem hasTree_of_endsWith {c : Char} {s : List Char} {root : Node} (hc : startsScalar c = true)
    (hs : (c :: s).all isFileChar = true)
    (hroot : EndsWith ⟨.v12, defaultHandles⟩ ((c :: s).length + 2) 0 false ⟨⟨c :: s, 0⟩, true⟩ root)
    (hresolve : root.resolve = .ok root)
    (hfile : fs.readBytes p = .ok (encodeUtf8 (String.ofList (c :: s)))) :
    fs.HasTree p .v12 root := by
  have hallowed : (c :: s).all isAllowed = true := by
    rw [List.all_eq_true] at hs ⊢
    exact fun a ha => isAllowed_of_isFileChar (hs a ha)
  have hreturn : '\r' ∉ c :: s := by
    intro hmem
    have hchar := List.all_eq_true.mp hs _ hmem
    cases hchar
  have hmarker : atMarker ⟨c :: s, 0⟩ = false :=
    atMarker_start (ne_of_class hc (by decide)) (ne_of_class hc (by decide)) _ _
  refine ⟨_, _, defaultHandles, root, hfile, textOf?_encodeUtf8 hreturn, ?_, hresolve⟩
  rw [String.toList_ofList]
  exact readFile_start (isStart_of_startsScalar hc) hallowed hmarker hroot.readRoot

variable (ht : IsDotted t) (hw : IsVersionText t w node)
include ht hw

/-- Release notes with one version, however it is written, have the tree with its node. -/
theorem hasTree_notesLines
    (hfile : fs.readBytes p = .ok (encodeUtf8 (String.ofList (notesLines w)))) :
    fs.HasTree p .v12 (bareNotes.fill node) := by
  have hscalar := hw.isScalarText ht
  have hresolve : (bareNotes.fill node).resolve = .ok (bareNotes.fill node) := by
    cases hw <;> rfl
  exact hasTree_of_endsWith (by decide) (all_isFileChar (by decide) hscalar)
    (endsWith_notesLines hscalar _) hresolve hfile

/-- A configuration with a version, however it is written, has the tree with its node. -/
theorem hasTree_configLines
    (hfile : fs.readBytes p = .ok (encodeUtf8 (String.ofList (configLines w)))) :
    fs.HasTree p .v12 (bareConfig.fill node) := by
  have hscalar := hw.isScalarText ht
  have hresolve : (bareConfig.fill node).resolve = .ok (bareConfig.fill node) := by
    cases hw <;> rfl
  exact hasTree_of_endsWith (by decide) (all_isFileChar (by decide) hscalar)
    (endsWith_configLines hscalar _) hresolve hfile

end

/-! ## 7. Loaded versions -/

section

variable {t : List Char} {version : Version} {v : Value} (ht : IsDotted t)
include ht

theorem isVersion_of_plainMeaning (hv : plainMeaning version t = .ok (.value v)) :
    v.IsVersion := by
  obtain ⟨s, hshown, hne, hgraphic⟩ := ht.exists_shown hv
  refine ⟨ht.ne_null hv, ?_⟩
  rw [hshown]
  exact isStripped_ofList ⟨hne, trim_of_isGraphic hgraphic⟩

theorem isVersion_quoted : (Value.string (String.ofList t)).IsVersion where
  ne_null h := by cases h
  shown := isStripped_ofList ⟨ht.ne_nil,
    trim_of_isGraphic fun c hc => isGraphic_of_isNumberChar (ht.chars c hc)⟩

/-- A version without quotes is a value, or there is a fault. -/
theorem value_plainScalar_ok_iff :
    (plainScalar t).value (outsideKeys version) = .ok v ↔
      plainMeaning version t = .ok (.value v) := by
  have hmeaning := ht.meaning version
  rw [value_plainScalar, outsideKeys]
  generalize plainMeaning version t = meaning at hmeaning ⊢
  cases hmeaning with
  | string | integer | float => simp [Meaning.value?, atTop]
  | fault => simp

variable {ε α : Type} {admits : Value → Prop} {ofValue : Value → Except ε α}
  {version? : α → Option String} {φ : Except Fault Value → Except Fault Value}
  {K : Value → Value} {tree : Node → Node} {fs fs' : FileSystem} {p q : Path}
  (hplace : VersionPlace admits ofValue version? K) (hmakes : Makes φ K)
  (hvalue : ∀ node, (tree node).value (outsideKeys version) =
    φ (node.value (outsideKeys version)))
include hplace hmakes hvalue

theorem version_of_quoted (hquoted : fs'.HasTree q version (tree (quotedScalar t))) {a : α}
    (h : fs'.loadData ofValue q = .ok a) : version? a = some (String.ofList t) := by
  obtain ⟨w, hw, ha⟩ := hquoted.loadData_ok_iff.mp h
  rw [hvalue, value_quotedScalar] at hw
  rcases hmakes.ok with ⟨f, hf⟩ | hok
  · rw [hf] at hw
    cases hw
  · rw [hok, Except.ok.injEq] at hw
    subst hw
    obtain ⟨s, hs, hversion⟩ := hplace.version (isVersion_quoted ht) ha
    cases hs
    exact hversion

/-- Nothing is lost where the digits keep their spelling. -/
theorem loadData_eq_of_keepsSpelling (hplain : fs.HasTree p version (tree (plainScalar t)))
    (hquoted : fs'.HasTree q version (tree (quotedScalar t)))
    (hadmits : ∀ v, v.text = .ok (String.ofList t) →
      plainMeaning version t = .ok (.value v) ∨ v = .string (String.ofList t) → admits v)
    (hkeeps : keepsSpelling version t = true) :
    fs.loadData ofValue p = fs'.loadData ofValue q := by
  obtain ⟨v, hv⟩ := ht.exists_value_of_keepsSpelling hkeeps
  have htext := (ht.text_eq_iff hv).mpr hkeeps
  rw [hplain.loadData_eq, hquoted.loadData_eq, hvalue, hvalue, value_quotedScalar,
    (value_plainScalar_ok_iff ht).mpr hv]
  rcases hmakes.ok with ⟨f, hf⟩ | hok
  · rw [hf, hf]
  · have hsame : ofValue (K v) = ofValue (K (.string (String.ofList t))) :=
      hplace.same (isVersion_of_plainMeaning ht hv) (isVersion_quoted ht)
        (hadmits v htext (.inl hv)) (hadmits _ rfl (.inr rfl)) htext
    rw [hok, hok]
    simp only [hsame]

/-- A version without quotes that is loaded as it is written keeps its spelling. -/
theorem keepsSpelling_of_plain (hplain : fs.HasTree p version (tree (plainScalar t))) {a : α}
    (h : fs.loadData ofValue p = .ok a) (hversion : version? a = some (String.ofList t)) :
    keepsSpelling version t = true := by
  obtain ⟨w, hw, ha⟩ := hplain.loadData_ok_iff.mp h
  rw [hvalue] at hw
  cases hplainValue : (plainScalar t).value (outsideKeys version) with
  | error f =>
    obtain ⟨f', hf'⟩ := hmakes.error f
    rw [hplainValue, hf'] at hw
    cases hw
  | ok v =>
    rw [hplainValue] at hw
    have hv := (value_plainScalar_ok_iff ht).mp hplainValue
    rcases hmakes.ok with ⟨f, hf⟩ | hok
    · rw [hf] at hw
      cases hw
    · rw [hok, Except.ok.injEq] at hw
      subst hw
      obtain ⟨s, hs, hgiven⟩ := hplace.version (isVersion_of_plainMeaning ht hv) ha
      rw [hversion, Option.some.injEq] at hgiven
      rw [← hgiven] at hs
      exact (ht.text_eq_iff hv).mp hs

end

/-- Of two files of release notes that are alike but for quotes around the version of a release,
the one with quotes gives the version as it is written. The other one is loaded alike if no digits
are lost, and only then it gives that version; two spellings of zero are not looked at. So it is
with the version of a site in a configuration, where zero is a version too. -/
theorem load_plainVersion {t : List Char} (ht : IsDotted t) {version : Version}
    {fs fs' : FileSystem} {p q : Path} :
    (∀ notes : OpenNotes, notes.IsAt (outsideKeys version) →
      fs.HasTree p version (notes.fill (plainScalar t)) →
      fs'.HasTree q version (notes.fill (quotedScalar t)) →
      (∀ releases, loadReleases fs' q = .ok releases →
        releases[notes.index]?.map Release.version = some (String.ofList t)) ∧
      (t ≠ "0".toList → t ≠ "0.0".toList → keepsSpelling version t = true →
        loadReleases fs p = loadReleases fs' q) ∧
      ∀ releases, loadReleases fs p = .ok releases →
        releases[notes.index]?.map Release.version = some (String.ofList t) →
        keepsSpelling version t = true) ∧
    ∀ config : OpenConfig, config.IsAt (outsideKeys version) →
      fs.HasTree p version (config.fill (plainScalar t)) →
      fs'.HasTree q version (config.fill (quotedScalar t)) →
      (∀ c, SiteConfig.load fs' q = .ok c → c.version = String.ofList t) ∧
      (keepsSpelling version t = true → SiteConfig.load fs p = SiteConfig.load fs' q) ∧
      ∀ c, SiteConfig.load fs p = .ok c → c.version = String.ofList t →
        keepsSpelling version t = true := by
  constructor
  · intro notes hat hplain hquoted
    obtain ⟨φ, K, hvalue, hmakes, hplace⟩ := hat.makes
    refine ⟨fun releases h => version_of_quoted ht hplace hmakes hvalue hquoted h,
      fun hzero hpoint hkeeps => ?_,
      fun releases h hversion => keepsSpelling_of_plain ht hplace hmakes hvalue hplain h hversion⟩
    refine loadData_eq_of_keepsSpelling ht hplace hmakes hvalue hplain hquoted
      (fun v htext hv => ?_) hkeeps
    rcases hv with hv | rfl
    · rw [← Bool.not_eq_true]
      intro hvoid
      exact (ht.zero_of_isVoid hv htext hvoid).elim hzero hpoint
    · rw [Value.isVoid, ← Bool.not_eq_true, String.isEmpty_iff]
      exact (isVersion_quoted ht).shown.1
  · intro config hat hplain hquoted
    obtain ⟨φ, K, hvalue, hmakes, hplace⟩ := hat.makes
    refine ⟨fun c h => ?_, fun hkeeps => ?_, fun c h hversion => ?_⟩
    · exact Option.some.inj (version_of_quoted ht hplace hmakes hvalue hquoted h)
    · exact loadData_eq_of_keepsSpelling ht hplace hmakes hvalue hplain hquoted
        (fun _ _ _ => trivial) hkeeps
    · exact keepsSpelling_of_plain ht hplace hmakes hvalue hplain h (congrArg some hversion)

/-- A version with two points in release notes, and one without points in a configuration, need no
quotes. -/
theorem load_plainVersion_patch :
    loadReleases (smallSystem "releases:\n- version: 0.7.2\n") (.ofText "config/site.yaml") =
        loadReleases (smallSystem "releases:\n- version: \"0.7.2\"\n")
          (.ofText "config/site.yaml") ∧
      SiteConfig.load (smallSystem "site:\n  version: 12\n") (.ofText "config/site.yaml") =
        SiteConfig.load (smallSystem "site:\n  version: \"12\"\n")
          (.ofText "config/site.yaml") := by
  have hpatch : IsDotted "0.7.2".toList :=
    .point ['0'] _ (List.all_eq_true.mp (by decide)) (by decide)
      (.point ['7'] _ (List.all_eq_true.mp (by decide)) (by decide)
        (.group ['2'] (List.all_eq_true.mp (by decide)) (by decide)))
  have hnumber : IsDotted "12".toList :=
    .group ['1', '2'] (List.all_eq_true.mp (by decide)) (by decide)
  have hreleases := (load_plainVersion hpatch).1 bareNotes isAt_bareNotes
    (hasTree_notesLines hpatch .plain (readBytes_smallSystem _))
    (hasTree_notesLines hpatch .quoted (readBytes_smallSystem _))
  have hsite := (load_plainVersion hnumber).2 bareConfig isAt_bareConfig
    (hasTree_configLines hnumber .plain (readBytes_smallSystem _))
    (hasTree_configLines hnumber .quoted (readBytes_smallSystem _))
  exact ⟨hreleases.2.1 (by decide) (by decide) (by decide), hsite.2.1 (by decide)⟩

/-- A zero at the end of a version is lost without quotes. -/
theorem not_sameVersion_trailingZero :
    IsDotted "1.10".toList ∧
      loadReleases (smallSystem "releases:\n- version: 1.10\n") (.ofText "config/site.yaml") =
        .ok [⟨"1.1", [], [], []⟩] ∧
      loadReleases (smallSystem "releases:\n- version: \"1.10\"\n")
          (.ofText "config/site.yaml") = .ok [⟨"1.10", [], [], []⟩] := by
  have hversion : IsDotted "1.10".toList :=
    .point ['1'] _ (List.all_eq_true.mp (by decide)) (by decide)
      (.group ['1', '0'] (List.all_eq_true.mp (by decide)) (by decide))
  exact ⟨hversion, by decide +kernel, by decide +kernel⟩

end StaticSite
