/-
StaticSite.Proofs.Config.Shape — which values are configurations, and what is wrong with the others.

A value is a configuration if its parts have the right shape
(`Value.IsWellShaped`) and all its texts can be written
(`Value.HasItsTexts`). That is demanded part by part, in a fixed order
(`Value.demands`): the value as a whole, its `site` with the texts in it,
its `paths` with theirs, its links and its output files. So among several
faults the first part that has one decides the error
(`SiteConfig.load_shape`).
-/
import StaticSite.Proofs.Config.Demands
import StaticSite.Proofs.Config.Loaded

namespace StaticSite

/-! ## 1. Sections -/

namespace Value

/-- The value of an entry of a mapping, null if there is none. -/
def entry (v : Value) (name : String) : Value :=
  entryOf name (v.entries?.getD [])

/-- Is the value a mapping, or does it count as one without entries? -/
def IsVoidOrMapping (v : Value) : Prop :=
  v.isVoid = true ∨ ∃ entries, v.entries? = some entries

/-- Has the value parts that can be searched? Those of a text are its characters. -/
def IsSearchable : Value → Prop
  | string _ | list _ | fixedList _ | set _ => True
  | tied _ v => v.IsSearchable
  | _ => False

/-- Is the name somewhere in a text, or one of the members of a list or a set? -/
def Mentions (name : String) : Value → Prop
  | string s => name.toList <:+: s.toList
  | list items | fixedList items | set items => .string name ∈ items
  | tied _ v => v.Mentions name
  | _ => False

end Value

/-- A section is void or a mapping. If it is neither, it is searched for the handle before it is
asked for its fields. -/
def siteDemands (site : Value) : List Demand :=
  [{ met := site.IsVoidOrMapping ∨ site.IsSearchable ∧ ¬ site.Mentions handleField
     kind := .type
     error := .siteNotSearchable },
   { met := site.IsVoidOrMapping
     kind := .attribute
     error := .notFields }]

/-- A section that is not searched. -/
def pathsDemand (paths : Value) : Demand where
  met := paths.IsVoidOrMapping
  kind := .attribute
  error := .notFields

theorem holdsText_iff {part s : List Char} : holdsText part s = true ↔ part <:+: s := by
  induction s with
  | nil => simp [holdsText]
  | cons c s ih => simp [holdsText, List.infix_cons_iff, ih]

theorem Value.sameKey_string_iff {name : String} {v : Value} :
    sameKey (.string name) v = true ↔ v = .string name := by
  cases v with
  | string s => rw [sameKey, beq_iff_eq, string.injEq, eq_comm]
  | _ => simp [sameKey]

theorem lacksHandle_iff {v : Value} :
    lacksHandle v = true ↔ v.IsSearchable ∧ ¬ v.Mentions handleField := by
  have hmembers : ∀ items : List Value,
      (!items.any (Value.sameKey (.string handleField))) = true ↔
        Value.string handleField ∉ items := by
    intro items
    rw [Bool.not_eq_true', ← Bool.not_eq_true, List.any_eq_true]
    simp [Value.sameKey_string_iff]
  fun_induction lacksHandle v with
  | case1 s =>
    rw [Bool.not_eq_true', ← Bool.not_eq_true, holdsText_iff]
    simp [Value.IsSearchable, Value.Mentions]
  | case2 items | case3 items | case4 items =>
    rw [hmembers]
    simp [Value.IsSearchable, Value.Mentions]
  | case5 mark v ih => exact ih
  | case6 v =>
    -- all that is left has no parts
    cases v <;> simp_all [Value.IsSearchable]

section

variable {v : Value}

theorem fieldsOf_of_isVoidOrMapping (h : v.IsVoidOrMapping) (searched : Bool) :
    fieldsOf searched v = .ok (v.entries?.getD []) := by
  rw [fieldsOf]
  cases hvoid : v.isVoid with
  | true => simp [entries?_of_isVoid hvoid]
  | false =>
    obtain ⟨entries, hentries⟩ := h.resolve_left (by simp [hvoid])
    simp [hentries]

theorem Value.not_isVoidOrMapping (h : ¬ v.IsVoidOrMapping) :
    v.isVoid = false ∧ v.entries? = none := by
  obtain ⟨hvoid, hentries⟩ := not_or.mp h
  refine ⟨by simpa using hvoid, ?_⟩
  rw [Option.eq_none_iff_forall_ne_some]
  simpa using hentries

theorem fieldsOf_of_not (h : ¬ v.IsVoidOrMapping) (searched : Bool) :
    fieldsOf searched v =
      .error (if searched && !lacksHandle v then .siteNotSearchable else .notFields) := by
  obtain ⟨hvoid, hentries⟩ := Value.not_isVoidOrMapping h
  simp [fieldsOf, hvoid, hentries]

theorem raises_site (site : Value) : Raises (fieldsOf true site) (siteDemands site) := by
  by_cases h : site.IsVoidOrMapping
  · rw [fieldsOf_of_isVoidOrMapping h]
    exact raises_of_met (Or.inl h) (raises_of_met h ⟨_, rfl⟩)
  · rw [fieldsOf_of_not h]
    cases hlacks : lacksHandle site with
    | true => exact raises_of_met (Or.inr (lacksHandle_iff.mp hlacks)) (raises_of_unmet h rfl)
    | false =>
      refine raises_of_unmet (not_or.mpr ⟨h, fun hsearch => ?_⟩) rfl
      simp [lacksHandle_iff.mpr hsearch] at hlacks

theorem forall_met_site_iff {site : Value} :
    (∀ d ∈ siteDemands site, d.met) ↔ site.IsVoidOrMapping := by
  simp only [siteDemands, List.mem_cons, List.not_mem_nil, or_false, forall_eq_or_imp, forall_eq]
  exact ⟨And.right, fun h => ⟨Or.inl h, h⟩⟩

theorem raises_paths (paths : Value) : Raises (fieldsOf false paths) [pathsDemand paths] := by
  by_cases h : paths.IsVoidOrMapping
  · rw [fieldsOf_of_isVoidOrMapping h]
    exact raises_of_met h ⟨_, rfl⟩
  · rw [fieldsOf_of_not h]
    exact raises_of_unmet h rfl

end

/-- The names of the texts of a site, the handle first. -/
def siteNames : List String :=
  handleField :: TextKey.inSite.map TextKey.name

/-- The names of the paths of a site. -/
def pathNames : List String :=
  TextKey.inPaths.map TextKey.name

theorem raises_withSite (base : SiteConfig) (fields : List (Value × Value)) :
    Raises (base.withSite fields) (siteNames.map (textDemand fields)) := by
  -- the handle comes first, then the texts in the order of the fields
  refine raises_bind (raises_handleOf _) fun _ _ => ?_
  iterate 13 refine raises_bind (raises_textField _ _) fun _ _ => ?_
  exact ⟨_, rfl⟩

theorem raises_withPaths (base : SiteConfig) (fields : List (Value × Value)) :
    Raises (base.withPaths fields) (pathNames.map (textDemand fields)) := by
  iterate 3 refine raises_bind (raises_textField _ _) fun _ _ => ?_
  exact ⟨_, rfl⟩

/-! ## 2. Links -/

namespace Value

/-- A mapping with a label and an address. -/
def IsLinkOf (v label href : Value) : Prop :=
  ∃ fields, v.entries? = some fields ∧ field? "label" fields = some label ∧
    field? "href" fields = some href

/-- A mapping with a label and an address, neither of them blank. -/
def IsLink (v : Value) : Prop :=
  ∃ label href, v.IsLinkOf label href ∧ ¬ label.IsBlank ∧ ¬ href.IsBlank

/-- Can the label and the address be written? -/
def HasLinkTexts (v : Value) : Prop :=
  ∀ label href, v.IsLinkOf label href → label.hasText = true ∧ href.hasText = true

theorem IsLinkOf.unique {v label href label' href' : Value} (h : v.IsLinkOf label href)
    (h' : v.IsLinkOf label' href') : label' = label ∧ href' = href := by
  obtain ⟨fields, hfields, hlabel, hhref⟩ := h
  obtain ⟨fields', hfields', hlabel', hhref'⟩ := h'
  rw [hfields, Option.some.injEq] at hfields'
  subst hfields'
  rw [hlabel, Option.some.injEq] at hlabel'
  rw [hhref, Option.some.injEq] at hhref'
  exact ⟨hlabel'.symm, hhref'.symm⟩

end Value

/-- The entry of a link is a mapping with a label and an address, both can be written, and then
neither is blank. -/
def linkDemands (item : Value × Nat) : List Demand :=
  [{ met := ∃ label href, item.1.IsLinkOf label href
     kind := .config
     error := .navLinkIncomplete item.2 },
   .ofTexts item.1.HasLinkTexts,
   { met := item.1.IsLink
     kind := .config
     error := .navLinkBlank item.2 }]

/-- The entries of links are looked at one after the other. -/
def linksDemands (v : Value) : List Demand :=
  { met := v = .null ∨ ∃ items, v.items? = some items
    kind := .config
    error := .navLinksNotList } :: (v.items?.getD []).zipIdx.flatMap linkDemands

section

variable {index : Nat} {v label href : Value}

theorem Value.IsLinkOf.hasLinkTexts_iff (h : v.IsLinkOf label href) :
    v.HasLinkTexts ↔ label.hasText = true ∧ href.hasText = true := by
  constructor
  · exact fun htexts => htexts label href h
  · rintro htexts label' href' h'
    obtain ⟨rfl, rfl⟩ := h.unique h'
    exact htexts

theorem Value.IsLinkOf.isLink_iff (h : v.IsLinkOf label href) :
    v.IsLink ↔ ¬ label.IsBlank ∧ ¬ href.IsBlank := by
  constructor
  · rintro ⟨label', href', h', hblank⟩
    obtain ⟨rfl, rfl⟩ := h.unique h'
    exact hblank
  · exact fun hblank => ⟨label, href, h, hblank⟩

theorem raises_linkOf (h : v.IsLinkOf label href) :
    Raises (NavLink.ofValue index v) (linkDemands (v, index)) := by
  have htexts := h.hasLinkTexts_iff
  have hblanks := h.isLink_iff
  refine raises_of_met ⟨label, href, h⟩ ?_
  obtain ⟨fields, hfields, hlabel, hhref⟩ := h
  rw [NavLink.ofValue]
  rcases label.stripped?_cases with ⟨ltext, hl⟩ | ⟨ltext, lblank, hl⟩ | ⟨ltext, lblank, s, hl⟩
  · simp only [hfields, hlabel, hhref, hl, ConfigError.ofText]
    exact raises_of_unmet (by simp [htexts, ltext]) rfl
  all_goals
    rcases href.stripped?_cases with ⟨htext, hh⟩ | ⟨htext, hblank, hh⟩ | ⟨htext, hblank, t, hh⟩
    all_goals simp only [hfields, hlabel, hhref, hl, hh, ConfigError.ofText]
  · exact raises_of_unmet (by simp [htexts, htext]) rfl
  · refine raises_of_met (htexts.mpr ⟨ltext, htext⟩) ?_
    exact raises_of_unmet (by simp [hblanks, lblank]) rfl
  · refine raises_of_met (htexts.mpr ⟨ltext, htext⟩) ?_
    exact raises_of_unmet (by simp [hblanks, lblank]) rfl
  · exact raises_of_unmet (by simp [htexts, htext]) rfl
  · refine raises_of_met (htexts.mpr ⟨ltext, htext⟩) ?_
    exact raises_of_unmet (by simp [hblanks, hblank]) rfl
  · refine raises_of_met (htexts.mpr ⟨ltext, htext⟩) ?_
    exact raises_of_met (hblanks.mpr ⟨lblank, hblank⟩) ⟨_, rfl⟩

theorem raises_link (index : Nat) (v : Value) :
    Raises (NavLink.ofValue index v) (linkDemands (v, index)) := by
  by_cases hparts : ∃ label href, v.IsLinkOf label href
  · obtain ⟨label, href, hlink⟩ := hparts
    exact raises_linkOf hlink
  · refine raises_of_unmet hparts ?_
    rw [NavLink.ofValue]
    cases hfields : v.entries? with
    | none => rfl
    | some fields =>
      cases hlabel : Value.field? "label" fields with
      | none => simp only [hlabel]
      | some label =>
        cases hhref : Value.field? "href" fields with
        | none => simp only [hlabel, hhref]
        | some href => exact absurd ⟨label, href, fields, hfields, hlabel, hhref⟩ hparts

theorem raises_links (index : Nat) (items : List Value) :
    Raises (NavLink.ofEntries index items) ((items.zipIdx index).flatMap linkDemands) := by
  induction items generalizing index with
  | nil => exact ⟨[], rfl⟩
  | cons item rest ih =>
    have hcons : NavLink.ofEntries index (item :: rest) =
        NavLink.ofValue index item >>= fun link =>
          (NavLink.ofEntries (index + 1) rest).map (link :: ·) := by
      rw [NavLink.ofEntries]
      cases NavLink.ofValue index item with
      | error e => rfl
      | ok link => cases NavLink.ofEntries (index + 1) rest <;> rfl
    rw [hcons, List.zipIdx_cons, List.flatMap_cons]
    exact raises_bind (raises_link index item) fun link _ => (ih (index + 1)).map

theorem raises_navLinksOf (v : Value) : Raises (navLinksOf v) (linksDemands v) := by
  by_cases hnull : v = .null
  · subst hnull
    exact raises_of_met (Or.inl rfl) ⟨_, rfl⟩
  rw [navLinksOf]
  · cases hitems : v.items? with
    | none => exact raises_of_unmet (by simp [hnull, hitems]) rfl
    | some items =>
      refine raises_of_met (Or.inr ⟨items, hitems⟩) ?_
      rw [hitems, Option.getD_some]
      exact raises_links 0 items
  · exact hnull

theorem forall_met_link_iff :
    (∀ d ∈ linkDemands (v, index), d.met) ↔ v.IsLink ∧ v.HasLinkTexts := by
  have hparts : v.IsLink → ∃ label href, v.IsLinkOf label href :=
    fun ⟨label, href, h, _⟩ => ⟨label, href, h⟩
  simp only [linkDemands, List.mem_cons, List.not_mem_nil, or_false, forall_eq_or_imp, forall_eq]
  exact ⟨fun h => ⟨h.2.2, h.2.1⟩, fun h => ⟨hparts h.1, h.2, h.1⟩⟩

theorem forall_met_entries_iff {items : List Value} :
    (∀ d ∈ (items.zipIdx index).flatMap linkDemands, d.met) ↔
      ∀ item ∈ items, item.IsLink ∧ item.HasLinkTexts := by
  induction items generalizing index with
  | nil => simp
  | cons item rest ih =>
    rw [List.zipIdx_cons, List.flatMap_cons, List.forall_mem_append, forall_met_link_iff, ih,
      List.forall_mem_cons]

theorem forall_met_links_iff :
    (∀ d ∈ linksDemands v, d.met) ↔
      (v = .null ∨ ∃ items, v.items? = some items ∧ ∀ item ∈ items, item.IsLink) ∧
        ∀ items, v.items? = some items → ∀ item ∈ items, item.HasLinkTexts := by
  rw [linksDemands, List.forall_mem_cons, forall_met_entries_iff]
  cases hitems : v.items? with
  | none => simp
  | some items =>
    have hnull : v ≠ .null := by
      rintro rfl
      cases hitems
    simp [hnull, forall_and]

end

/-! ## 3. Output files -/

/-- The value that gives the name of an output file: a text itself, or the `output` of a
mapping. -/
def Value.output? : Value → Option Value
  | string s => some (string s)
  | v => v.entries?.bind (field? "output")

/-- The name of an output file can be written, and its key too, unless the name is blank. -/
def outputDemand (entry : Value × Value) : Demand :=
  .ofTexts (∀ output, entry.2.output? = some output →
    output.hasText = true ∧ (¬ output.IsBlank → entry.1.hasText = true))

/-- The table of output files is void or a mapping, and its entries are looked at one after the
other. -/
def pagesDemands (v : Value) : List Demand :=
  { met := v.IsVoidOrMapping
    kind := .config
    error := .pagesNotMapping } :: (v.entries?.getD []).map outputDemand

theorem outputNameOf_eq (v : Value) :
    outputNameOf v =
      match v.output? with
      | some output => ConfigError.ofText output.stripped?
      | none => .ok none := by
  cases v <;> rfl

theorem raises_addOutputNames (table : List (String × String)) (entries : List (Value × Value)) :
    Raises (addOutputNames table entries) (entries.map outputDemand) := by
  induction entries generalizing table with
  | nil => exact ⟨table, rfl⟩
  | cons entry rest ih =>
    obtain ⟨key, payload⟩ := entry
    rw [addOutputNames, outputNameOf_eq, List.map_cons]
    cases hpayload : payload.output? with
    | none => exact raises_of_met (by simp [outputDemand, hpayload]) (ih table)
    | some output =>
      have hmet : (outputDemand (key, payload)).met ↔
          output.hasText = true ∧ (¬ output.IsBlank → key.hasText = true) := by
        simp [outputDemand, hpayload]
      rcases output.stripped?_cases with ⟨hno, hs⟩ | ⟨htext, hblank, hs⟩ |
        ⟨htext, hblank, name, hs⟩ <;> simp only [hs, ConfigError.ofText]
      · exact raises_of_unmet (by simp [hmet, hno]) rfl
      · exact raises_of_met (hmet.mpr ⟨htext, fun h => absurd hblank h⟩) (ih table)
      · rw [Value.text]
        cases hkey : key.hasText with
        | false => exact raises_of_unmet (by simp [hmet, hblank, hkey]) rfl
        | true => exact raises_of_met (hmet.mpr ⟨htext, fun _ => hkey⟩) (ih _)

theorem raises_pageOutputsOf (v : Value) : Raises (pageOutputsOf v) (pagesDemands v) := by
  rw [pageOutputsOf]
  by_cases h : v.IsVoidOrMapping
  · refine raises_of_met h ?_
    cases hentries : v.entries? with
    | none =>
      have hvoid : v.isVoid = true := h.resolve_right (by simp [hentries])
      exact ⟨[], by simp [hvoid]⟩
    | some entries =>
      rw [isVoid_of_entries? hentries, Option.getD_some]
      cases entries with
      | nil => exact ⟨[], rfl⟩
      | cons entry rest => exact raises_addOutputNames [] (entry :: rest)
  · obtain ⟨hvoid, hentries⟩ := Value.not_isVoidOrMapping h
    exact raises_of_unmet h (by simp [hvoid, hentries])

theorem forall_met_pages_iff {v : Value} :
    (∀ d ∈ pagesDemands v, d.met) ↔
      v.IsVoidOrMapping ∧ ∀ entry ∈ v.entries?.getD [], (outputDemand entry).met := by
  rw [pagesDemands, List.forall_mem_cons, List.forall_mem_map]

/-! ## 4. Configurations -/

namespace Value

/-- The value and its parts are of the right kinds. -/
structure IsWellShaped (v : Value) : Prop where
  whole : v.IsVoidOrMapping
  site : (v.entry "site").IsVoidOrMapping
  paths : (v.entry "paths").IsVoidOrMapping
  navLinks : v.entry "nav_links" = .null ∨
    ∃ items, (v.entry "nav_links").items? = some items ∧ ∀ item ∈ items, item.IsLink
  pages : (v.entry "pages").IsVoidOrMapping

/-- Every text that is asked for can be written. -/
structure HasItsTexts (v : Value) : Prop where
  site : ∀ name ∈ siteNames, (textDemand (v.fieldsIn "site") name).met
  paths : ∀ name ∈ pathNames, (textDemand (v.fieldsIn "paths") name).met
  navLinks : ∀ items, (v.entry "nav_links").items? = some items →
    ∀ item ∈ items, item.HasLinkTexts
  pages : ∀ entry ∈ v.fieldsIn "pages", (outputDemand entry).met

/-- The value is void or a mapping. -/
def wholeDemand (v : Value) : Demand where
  met := v.IsVoidOrMapping
  kind := .type
  error := .notMapping

/-- What is demanded of a value, in this order. -/
def demands (v : Value) : List Demand :=
  v.wholeDemand ::
    [siteDemands (v.entry "site"), siteNames.map (textDemand (v.fieldsIn "site")),
      [pathsDemand (v.entry "paths")], pathNames.map (textDemand (v.fieldsIn "paths")),
      linksDemands (v.entry "nav_links"), pagesDemands (v.entry "pages")].flatten

end Value

theorem raises_ofValue (v : Value) : Raises (SiteConfig.ofValue v) v.demands := by
  by_cases hwhole : v.IsVoidOrMapping
  · have hof : SiteConfig.ofValue v = SiteConfig.ofEntries (v.entries?.getD []) := by
      rw [SiteConfig.ofValue]
      cases hvoid : v.isVoid with
      | true => simp [entries?_of_isVoid hvoid]
      | false =>
        obtain ⟨entries, hentries⟩ := hwhole.resolve_left (by simp [hvoid])
        simp [hentries]
    rw [hof]
    refine raises_of_met hwhole ?_
    refine raises_bind (raises_site _) fun site hsite => ?_
    rw [eq_of_fieldsOf hsite]
    refine raises_bind (raises_withSite _ _) fun c _ => ?_
    refine raises_bind (raises_paths _) fun paths hpaths => ?_
    rw [eq_of_fieldsOf hpaths]
    refine raises_bind (raises_withPaths _ _) fun c _ => ?_
    refine raises_bind (raises_navLinksOf _) fun links _ => ?_
    refine raises_bind (raises_pageOutputsOf _) fun outputs _ => ?_
    exact ⟨_, rfl⟩
  · obtain ⟨hvoid, hentries⟩ := Value.not_isVoidOrMapping hwhole
    exact raises_of_unmet hwhole (by simp [SiteConfig.ofValue, hvoid, hentries, Value.wholeDemand])

theorem forall_met_iff (v : Value) :
    (∀ d ∈ v.demands, d.met) ↔ v.IsWellShaped ∧ v.HasItsTexts := by
  simp only [Value.demands, List.forall_mem_cons, List.flatten_cons, List.flatten_nil,
    List.forall_mem_append, List.forall_mem_map, forall_met_site_iff, forall_met_links_iff,
    forall_met_pages_iff]
  constructor
  · rintro ⟨hwhole, hsite, hsiteTexts, ⟨hpaths, -⟩, hpathTexts, ⟨hlinks, hlinkTexts⟩,
      ⟨hpages, hpageTexts⟩, -⟩
    exact ⟨⟨hwhole, hsite, hpaths, hlinks, hpages⟩,
      ⟨hsiteTexts, hpathTexts, hlinkTexts, hpageTexts⟩⟩
  · rintro ⟨⟨hwhole, hsite, hpaths, hlinks, hpages⟩,
      ⟨hsiteTexts, hpathTexts, hlinkTexts, hpageTexts⟩⟩
    exact ⟨hwhole, hsite, hsiteTexts, ⟨hpaths, fun _ hd => absurd hd List.not_mem_nil⟩, hpathTexts,
      ⟨hlinks, hlinkTexts⟩, ⟨hpages, hpageTexts⟩, fun _ hd => absurd hd List.not_mem_nil⟩

/-- A value is loaded as a configuration just if it and its parts have the right shape and all its
texts can be written. Otherwise the first demand that is not met decides the error. -/
theorem SiteConfig.load_shape {fs : FileSystem} {p : Path} {v : Value}
    (h : fs.readData p = .ok v) :
    ((∃ c, SiteConfig.load fs p = .ok c) ↔ v.IsWellShaped ∧ v.HasItsTexts) ∧
      ∀ e, SiteConfig.load fs p = .error e ↔
        ∃ d, FirstUnmet v.demands d ∧ e = .content d.error := by
  have hload : SiteConfig.load fs p = (SiteConfig.ofValue v).mapError .content :=
    FileSystem.loadData_of_readData h _
  have hraises := raises_ofValue v
  constructor
  · rw [← forall_met_iff, ← hraises.ok_iff, hload]
    cases SiteConfig.ofValue v with
    | ok c => exact iff_of_true ⟨c, rfl⟩ ⟨c, rfl⟩
    | error fault => exact iff_of_false nofun nofun
  · intro e
    rw [hload]
    constructor
    · intro he
      cases hof : SiteConfig.ofValue v with
      | ok c =>
        rw [hof] at he
        cases he
      | error fault =>
        obtain ⟨d, hd, rfl⟩ := hraises.error_iff.mp hof
        rw [hof] at he
        cases he
        exact ⟨d, hd, rfl⟩
    · rintro ⟨d, hd, rfl⟩
      rw [hraises.error_iff.mpr ⟨d, hd, rfl⟩]
      rfl

/-- Files of a configuration whose paths, links and output files are all of the wrong kind. -/
def tangledFiles : FileSystem :=
  smallSystem "paths: [a]\nnav_links: b\npages: 1\n"

theorem SiteConfig.load_shape_tangled :
    ∃ v, tangledFiles.readData (.ofText "config/site.yaml") = .ok v ∧
      ¬ (v.IsWellShaped ∧ v.HasItsTexts) ∧
      ∃ d, FirstUnmet v.demands d ∧ d.kind = .attribute ∧ d.error = .notFields := by
  have hload : SiteConfig.load tangledFiles (.ofText "config/site.yaml") =
      .error (.content .notFields) := by decide +kernel
  obtain ⟨v, hv⟩ : ∃ v, tangledFiles.readData (.ofText "config/site.yaml") = .ok v := by
    cases hdata : tangledFiles.readData (.ofText "config/site.yaml") with
    | ok v => exact ⟨v, rfl⟩
    | error e => simp [SiteConfig.load, FileSystem.loadData, hdata] at hload
  obtain ⟨hok, herror⟩ := SiteConfig.load_shape hv
  obtain ⟨d, hfirst, hd⟩ := (herror _).mp hload
  have hnotFields : d.error = .notFields := by simpa using hd.symm
  refine ⟨v, hv, fun hshape => ?_, d, hfirst, ?_, hnotFields⟩
  · obtain ⟨c, hc⟩ := hok.mpr hshape
    rw [hload] at hc
    cases hc
  · rw [← d.raised, hnotFields]
    rfl

/-- A mapping that gives a site a number of 4301 digits for its name. -/
def hugeName : Value :=
  .map [(.string "site", .map [(.string "name", .int (.ofNat (Nat.pow 10 Number.maxDigits)))])]

/-- All its parts have the right shape, but the name cannot be written. -/
theorem SiteConfig.ofValue_hugeName :
    hugeName.IsWellShaped ∧ SiteConfig.ofValue hugeName = .error (.noText .tooManyDigits) := by
  refine ⟨⟨Or.inr ⟨_, rfl⟩, Or.inr ⟨_, rfl⟩, Or.inl rfl, Or.inl rfl, Or.inl rfl⟩, ?_⟩
  decide +kernel

end StaticSite
