/-
StaticSite.Proofs.Config.Loading — a written configuration is loaded again.

Loading changes no value that is in normal form (`SiteConfig.IsNormal`): it
only takes blank characters off the ends of texts, slashes off the ends of
the two addresses that paths are put after, and an at sign off the handle.
The defaults are in normal form, too. So a mapping loads to the configuration
that it spells, with the default for each key that is left out.
-/
import Mathlib.Data.List.TakeWhile
import StaticSite.Proofs.Config.Spelling
import StaticSite.Proofs.Text.Strip
import StaticSite.Proofs.Value.InOrder

namespace StaticSite

open StaticSite.Text

/-! ## 1. Normal form -/

/-- A text that is not empty and has no blank characters at its ends. -/
def IsStripped (s : String) : Prop :=
  s ≠ "" ∧ strip s = s

/-- A configuration whose values are as they are read from a mapping. The texts of the three
paths count among its texts. -/
structure SiteConfig.IsNormal (c : SiteConfig) : Prop where
  texts : ∀ k, IsStripped (c.textOf k)
  baseUrl : c.baseUrl.toList.getLast? ≠ some '/'
  repoUrl : c.repoUrl.toList.getLast? ≠ some '/'
  handle : ∀ handle, c.twitterHandle = some handle →
    IsStripped handle ∧ handle.toList.head? ≠ some '@'
  paths : ∀ p ∈ [c.baseStylesheet, c.outputDir, c.releasesFile], Path.ofText p.text = p
  links : ∀ link ∈ c.navLinks, IsStripped link.label ∧ IsStripped link.href
  outputKeys : (c.pageOutputs.map Prod.fst).Nodup
  outputNames : ∀ output ∈ c.pageOutputs, IsStripped output.2

/-! ## 2. Texts -/

theorem strip_of_allBlank {s : String} (h : allBlank s.toList = true) : strip s = "" := by
  have hdrop : dropBlank s.toList = [] :=
    List.dropWhile_eq_nil_iff.mpr (List.all_eq_true.mp h)
  rw [strip, trim, hdrop]
  rfl

theorem nonBlank?_of_allBlank {s : String} (h : allBlank s.toList = true) :
    Value.nonBlank? s = none := by
  simp [Value.nonBlank?, strip_of_allBlank h]

theorem IsStripped.nonBlank? {s : String} (h : IsStripped s) : Value.nonBlank? s = some s := by
  simp [Value.nonBlank?, h.1, h.2]

theorem stripped?_string (s : String) : (Value.string s).stripped? = .ok (Value.nonBlank? s) :=
  rfl

theorem IsStripped.stripped? {s : String} (h : IsStripped s) :
    (Value.string s).stripped? = .ok (some s) := by
  rw [stripped?_string, h.nonBlank?]

/-- A null or blank value is there, but has no text of its own. -/
theorem IsBlankEntry.stripped? {field : Option Value} (h : IsBlankEntry field) :
    ∃ v, field = some v ∧ v.stripped? = .ok none := by
  rcases h with rfl | ⟨s, rfl, hs⟩
  · exact ⟨.null, rfl, rfl⟩
  · exact ⟨.string s, rfl, by rw [stripped?_string, nonBlank?_of_allBlank hs]⟩

theorem dropAt_of_head? {s : String} (h : s.toList.head? ≠ some '@') : dropAt s = s := by
  rw [dropAt]
  split
  · rename_i rest hs
    simp [hs] at h
  · rfl

/-! ## 3. Fields -/

section

variable {entries : List (Value × Value)} {name s default : String} {out : Bool}

theorem textField_of_spells (h : SpellsText out s (Value.field? name entries))
    (hs : IsStripped s) (default : String) :
    textField entries name default = .ok (if out then default else s) := by
  cases out with
  | false =>
    rw [SpellsText, if_neg Bool.false_ne_true] at h
    simp only [textField, h, hs.stripped?, ConfigError.ofText, Except.map, Option.getD_some,
      Bool.false_eq_true, if_false]
  | true =>
    rw [SpellsText, if_pos rfl] at h
    rcases h with hnone | hblank
    · simp only [textField, hnone, if_true]
    · obtain ⟨v, hv, hstripped⟩ := hblank.stripped?
      simp only [textField, hv, hstripped, ConfigError.ofText, Except.map, Option.getD_none,
        if_true]

theorem handleOf_of_spells {handle : Option String}
    (h : SpellsHandle out handle (Value.field? handleField entries))
    (hhandle : ∀ s, handle = some s → IsStripped s ∧ s.toList.head? ≠ some '@')
    (default : Option String) :
    handleOf entries default = .ok (if out then default else handle) := by
  cases out with
  | true =>
    simp only [SpellsHandle, if_true] at h
    simp only [handleOf, h, if_true]
  | false =>
    simp only [SpellsHandle, Bool.false_eq_true, if_false] at h
    cases handle with
    | some s =>
      obtain ⟨hs, hat⟩ := hhandle s rfl
      simp only [handleOf, h, hs.stripped?, ConfigError.ofText, Except.map, Option.map_some,
        dropAt_of_head? hat, Bool.false_eq_true, if_false]
    | none =>
      obtain ⟨v, hv, hstripped⟩ := IsBlankEntry.stripped? h
      simp only [handleOf, hv, hstripped, ConfigError.ofText, Except.map, Option.map_none,
        Bool.false_eq_true, if_false]

theorem isVoid_of_entries? {v : Value} {fields : List (Value × Value)}
    (h : v.entries? = some fields) : v.isVoid = fields.isEmpty := by
  fun_induction Value.entries? v with
  | case1 entries | case2 entries =>
    cases h
    rfl
  | case3 mark v ih =>
    rw [Value.isVoid]
    exact ih h
  | case4 => cases h

theorem fieldsOf_of_hasSection {fields : List (Value × Value)} (h : HasSection entries name fields)
    (searched : Bool) : fieldsOf searched (entryOf name entries) = .ok fields := by
  rcases h with ⟨v, hv, hfields⟩ | ⟨rfl, hnone | hnull⟩
  · have hvoid := isVoid_of_entries? hfields
    simp only [entryOf, hv, Option.getD_some, fieldsOf, hfields, hvoid]
    cases fields <;> rfl
  · simp only [entryOf, hnone, Option.getD_none, fieldsOf, Value.isVoid, if_true]
  · simp only [entryOf, hnull, Option.getD_some, fieldsOf, Value.isVoid, if_true]

end

/-! ## 4. Links and output files -/

theorem NavLink.ofValue_of_spells {link : NavLink} {v : Value} (h : SpellsLink link v)
    (hlink : IsStripped link.label ∧ IsStripped link.href) (index : Nat) :
    NavLink.ofValue index v = .ok link := by
  obtain ⟨fields, hfields, hlabel, hhref⟩ := h
  simp only [NavLink.ofValue, hfields, hlabel, hhref, hlink.1.stripped?, hlink.2.stripped?,
    ConfigError.ofText]

theorem NavLink.ofEntries_of_spells {links : List NavLink} {items : List Value}
    (h : List.Forall₂ SpellsLink links items)
    (hlinks : ∀ link ∈ links, IsStripped link.label ∧ IsStripped link.href) (index : Nat) :
    NavLink.ofEntries index items = .ok links := by
  induction h generalizing index with
  | nil => rfl
  | cons hfirst _ ih =>
    have hrest := ih (fun link hlink => hlinks link (List.mem_cons_of_mem _ hlink)) (index + 1)
    simp only [NavLink.ofEntries, hrest,
      NavLink.ofValue_of_spells hfirst (hlinks _ List.mem_cons_self) index]

theorem navLinksOf_of_spells {out : Bool} {links : List NavLink} {entries : List (Value × Value)}
    (h : SpellsLinks out links (Value.field? "nav_links" entries))
    (hlinks : ∀ link ∈ links, IsStripped link.label ∧ IsStripped link.href) :
    navLinksOf (entryOf "nav_links" entries) = .ok (if out then defaultNavLinks else links) := by
  cases out with
  | true =>
    rw [SpellsLinks, if_pos rfl] at h
    rcases h with hnone | hnull
    · simp only [entryOf, hnone, Option.getD_none, navLinksOf, if_true]
    · simp only [entryOf, hnull, Option.getD_some, navLinksOf, if_true]
  | false =>
    rw [SpellsLinks, if_neg Bool.false_ne_true] at h
    obtain ⟨v, items, hv, hitems, hall⟩ := h
    simp only [entryOf, hv, Option.getD_some, Bool.false_eq_true, if_false]
    rw [navLinksOf, hitems]
    · exact NavLink.ofEntries_of_spells hall hlinks 0
    · rintro rfl
      cases hitems

theorem outputNameOf_of_spells {output : String × String} {entry : Value × Value}
    (h : SpellsOutput output entry) (hname : IsStripped output.2) :
    outputNameOf entry.2 = .ok (some output.2) := by
  obtain ⟨-, htext | ⟨fields, hfields, houtput⟩⟩ := h
  · simp only [htext, outputNameOf, hname.stripped?, ConfigError.ofText]
  · rw [outputNameOf]
    · simp only [hfields, Option.bind_some, houtput, hname.stripped?, ConfigError.ofText]
    · intro s hs
      rw [hs] at hfields
      cases hfields

theorem putOutputName_of_not_mem {key name : String} {table : List (String × String)}
    (h : key ∉ table.map Prod.fst) : putOutputName key name table = table ++ [(key, name)] := by
  induction table with
  | nil => rfl
  | cons entry rest ih =>
    obtain ⟨k, old⟩ := entry
    rw [List.map_cons, List.mem_cons, not_or] at h
    simp [putOutputName, Ne.symm h.1, ih h.2]

/-- Names under new keys are added at the end of the table. -/
theorem addOutputNames_of_spells {outputs table : List (String × String)}
    {entries : List (Value × Value)} (h : List.Forall₂ SpellsOutput outputs entries)
    (hkeys : ((table ++ outputs).map Prod.fst).Nodup)
    (hnames : ∀ output ∈ outputs, IsStripped output.2) :
    addOutputNames table entries = .ok (table ++ outputs) := by
  induction h generalizing table with
  | nil => simp [addOutputNames]
  | @cons output entry outputs entries hfirst _ ih =>
    obtain ⟨key, payload⟩ := entry
    have hname := outputNameOf_of_spells hfirst (hnames output List.mem_cons_self)
    have hnew : output.1 ∉ table.map Prod.fst := by
      rw [List.map_append, List.nodup_append] at hkeys
      intro hmem
      exact hkeys.2.2 _ hmem _ (by simp) rfl
    have hrest : addOutputNames (table ++ [output]) entries = .ok (table ++ [output] ++ outputs) :=
      ih (by simpa using hkeys) fun o ho => hnames o (List.mem_cons_of_mem _ ho)
    have hkey : key = .string output.1 := hfirst.1
    simp only [addOutputNames, hname, hkey]
    rw [show ConfigError.ofText (Value.string output.1).text = .ok output.1 from rfl]
    simp only [putOutputName_of_not_mem hnew]
    rw [hrest, List.append_assoc, List.singleton_append]

theorem pageOutputsOf_of_spells {out : Bool} {outputs : List (String × String)}
    {entries : List (Value × Value)}
    (h : SpellsOutputs out outputs (Value.field? "pages" entries))
    (hkeys : (outputs.map Prod.fst).Nodup) (hnames : ∀ output ∈ outputs, IsStripped output.2) :
    pageOutputsOf (entryOf "pages" entries) = .ok (if out then [] else outputs) := by
  cases out with
  | true =>
    rw [SpellsOutputs, if_pos rfl] at h
    rcases h with hnone | hnull
    · simp only [entryOf, hnone, Option.getD_none, pageOutputsOf, Value.isVoid, if_true]
    · simp only [entryOf, hnull, Option.getD_some, pageOutputsOf, Value.isVoid, if_true]
  | false =>
    rw [SpellsOutputs, if_neg Bool.false_ne_true] at h
    obtain ⟨v, fields, hv, hfields, hall⟩ := h
    have hadded : addOutputNames [] fields = .ok ([] ++ outputs) :=
      addOutputNames_of_spells hall (by simpa using hkeys) hnames
    have hvoid := isVoid_of_entries? hfields
    simp only [entryOf, hv, Option.getD_some, pageOutputsOf, hfields, hvoid, Bool.false_eq_true,
      if_false]
    cases fields with
    | nil =>
      cases hall
      rfl
    | cons field rest => exact hadded

/-! ## 5. Normal configurations -/

section

variable {c base : SiteConfig} (out : SiteKey → Bool)

theorem textOf_replaced (k : TextKey) :
    (c.replaced base out).textOf k = if out (.text k) then base.textOf k else c.textOf k := by
  cases k with
  | baseStylesheet | outputDir | releasesFile =>
    simp only [SiteConfig.textOf, SiteConfig.replaced, apply_ite Path.text]
  | _ => rfl

/-- Values of one configuration in normal form among those of another one. -/
theorem SiteConfig.IsNormal.replaced (hc : c.IsNormal) (hbase : base.IsNormal) :
    (c.replaced base out).IsNormal where
  texts k := by
    rw [textOf_replaced]
    split
    · exact hbase.texts k
    · exact hc.texts k
  baseUrl :=
    iteInduction (motive := fun url : String => url.toList.getLast? ≠ some '/')
      (fun _ => hbase.baseUrl) fun _ => hc.baseUrl
  repoUrl :=
    iteInduction (motive := fun url : String => url.toList.getLast? ≠ some '/')
      (fun _ => hbase.repoUrl) fun _ => hc.repoUrl
  handle :=
    iteInduction (motive := fun h => ∀ s, h = some s → IsStripped s ∧ s.toList.head? ≠ some '@')
      (fun _ => hbase.handle) fun _ => hc.handle
  paths := by
    have hpath : ∀ k (p q : Path), Path.ofText p.text = p → Path.ofText q.text = q →
        Path.ofText (if out k then p else q).text = if out k then p else q := by
      intro k p q hp hq
      exact iteInduction (motive := fun p : Path => Path.ofText p.text = p)
        (fun _ => hp) fun _ => hq
    have hfrom := hbase.paths
    have hto := hc.paths
    simp only [List.forall_mem_cons] at hfrom hto ⊢
    exact ⟨hpath _ _ _ hfrom.1 hto.1, hpath _ _ _ hfrom.2.1 hto.2.1,
      hpath _ _ _ hfrom.2.2.1 hto.2.2.1, List.forall_mem_nil _⟩
  links :=
    iteInduction (motive := fun links : List NavLink =>
        ∀ link ∈ links, IsStripped link.label ∧ IsStripped link.href)
      (fun _ => hbase.links) fun _ => hc.links
  outputKeys :=
    iteInduction (motive := fun outputs : List (String × String) => (outputs.map Prod.fst).Nodup)
      (fun _ => hbase.outputKeys) fun _ => hc.outputKeys
  outputNames :=
    iteInduction (motive := fun outputs : List (String × String) =>
        ∀ output ∈ outputs, IsStripped output.2)
      (fun _ => hbase.outputNames) fun _ => hc.outputNames

end

/-- Whether a text is stripped shows in its characters. -/
theorem isStripped_of_trim {s : String} (h : s.toList ≠ [] ∧ trim s.toList = s.toList) :
    IsStripped s := by
  refine ⟨?_, ?_⟩
  · rintro rfl
    exact h.1 rfl
  · rw [strip, h.2, String.ofList_toList]

theorem isStripped_ofList {s : List Char} (h : s ≠ [] ∧ trim s = s) :
    IsStripped (String.ofList s) :=
  isStripped_of_trim (by simpa only [String.toList_ofList] using h)

theorem isStripped_append {s t : List Char} (h : s ++ t ≠ [] ∧ trim (s ++ t) = s ++ t) :
    IsStripped (String.ofList s ++ String.ofList t) :=
  isStripped_of_trim (by simpa only [String.toList_append, String.toList_ofList] using h)

/-- Every default is a value that a file can give. -/
theorem isNormal_default : ({} : SiteConfig).IsNormal where
  texts k := by
    cases k with
    | description | fontsUrl => exact isStripped_append (by decide +kernel)
    | baseStylesheet | outputDir | releasesFile => exact isStripped_of_trim (by decide +kernel)
    | _ => exact isStripped_ofList (by decide +kernel)
  baseUrl := by decide
  repoUrl := by decide
  handle handle h := by
    cases h
    exact ⟨isStripped_ofList (by decide), by decide⟩
  paths := by decide
  links := by
    have hlinks : ∀ link ∈ defaultNavLinks,
        (link.label.toList ≠ [] ∧ trim link.label.toList = link.label.toList) ∧
          link.href.toList ≠ [] ∧ trim link.href.toList = link.href.toList := by decide +kernel
    exact fun link hlink =>
      ⟨isStripped_of_trim (hlinks link hlink).1, isStripped_of_trim (hlinks link hlink).2⟩
  outputKeys := List.nodup_nil
  outputNames := List.forall_mem_nil _

/-! ## 6. Loading -/

theorem bind_eq_ok_of_eq {ε α β : Type} {x : Except ε α} {a : α} {f : α → Except ε β} {b : β}
    (hx : x = .ok a) (hf : f a = .ok b) : (x >>= f) = .ok b := by
  rw [hx]
  exact hf

section

variable {c base : SiteConfig} {entries site paths : List (Value × Value)}

theorem withSite_eq_ok (hc : c.IsNormal)
    (htexts : ∀ k : TextKey, k.isPath = false →
      textField site k.name (base.textOf k) = .ok (c.textOf k))
    (hhandle : handleOf site base.twitterHandle = .ok c.twitterHandle) :
    base.withSite site = .ok { c with
      baseStylesheet := base.baseStylesheet
      outputDir := base.outputDir
      releasesFile := base.releasesFile
      navLinks := base.navLinks
      pageOutputs := base.pageOutputs } := by
  rw [SiteConfig.withSite]
  refine bind_eq_ok_of_eq hhandle ?_
  refine bind_eq_ok_of_eq (htexts .siteName rfl) ?_
  refine bind_eq_ok_of_eq (htexts .tagline rfl) ?_
  refine bind_eq_ok_of_eq (htexts .baseUrl rfl) ?_
  refine bind_eq_ok_of_eq (htexts .description rfl) ?_
  refine bind_eq_ok_of_eq (htexts .socialImage rfl) ?_
  refine bind_eq_ok_of_eq (htexts .favicon rfl) ?_
  refine bind_eq_ok_of_eq (htexts .bannerImage rfl) ?_
  refine bind_eq_ok_of_eq (htexts .fontsUrl rfl) ?_
  refine bind_eq_ok_of_eq (htexts .authorName rfl) ?_
  refine bind_eq_ok_of_eq (htexts .authorUrl rfl) ?_
  refine bind_eq_ok_of_eq (htexts .footerImage rfl) ?_
  refine bind_eq_ok_of_eq (htexts .repoUrl rfl) ?_
  refine bind_eq_ok_of_eq (htexts .version rfl) ?_
  have hbaseUrl : stripTrailingSlashes (c.textOf .baseUrl) = c.baseUrl :=
    stripTrailingSlashes_of_getLast? hc.baseUrl
  have hrepoUrl : stripTrailingSlashes (c.textOf .repoUrl) = c.repoUrl :=
    stripTrailingSlashes_of_getLast? hc.repoUrl
  rw [hbaseUrl, hrepoUrl]
  rfl

theorem withPaths_eq_ok (hc : c.IsNormal)
    (htexts : ∀ k : TextKey, k.isPath = true →
      textField paths k.name (base.textOf k) = .ok (c.textOf k)) :
    base.withPaths paths = .ok { base with
      baseStylesheet := c.baseStylesheet
      outputDir := c.outputDir
      releasesFile := c.releasesFile } := by
  rw [SiteConfig.withPaths]
  refine bind_eq_ok_of_eq (htexts .baseStylesheet rfl) ?_
  refine bind_eq_ok_of_eq (htexts .outputDir rfl) ?_
  refine bind_eq_ok_of_eq (htexts .releasesFile rfl) ?_
  have hpaths := hc.paths
  simp only [List.forall_mem_cons] at hpaths
  simp only [SiteConfig.textOf, hpaths.1, hpaths.2.1, hpaths.2.2.1]

end

/-- A mapping loads to the configuration that it spells, with the default for each key that is
left out. -/
theorem SiteConfig.IsNormal.ofValue_of_isSpelledBy {c : SiteConfig} (hc : c.IsNormal)
    {out : SiteKey → Bool} {v : Value} (h : c.IsSpelledBy out v) :
    SiteConfig.ofValue v = .ok (c.replaced {} out) := by
  obtain ⟨entries, site, paths, hentries, hsite, hpaths, htexts, hhandle, hlinks, houtputs⟩ := h
  have hread : ∀ k : TextKey, textField (if k.isPath then paths else site) k.name
      (({} : SiteConfig).textOf k) = .ok ((c.replaced {} out).textOf k) := by
    intro k
    rw [textOf_replaced]
    exact textField_of_spells (htexts k) (hc.texts k) _
  have hnormal : (c.replaced {} out).IsNormal := hc.replaced out isNormal_default
  have hof : SiteConfig.ofEntries entries = .ok (c.replaced {} out) := by
    rw [SiteConfig.ofEntries]
    refine bind_eq_ok_of_eq (fieldsOf_of_hasSection hsite true) ?_
    refine bind_eq_ok_of_eq (withSite_eq_ok hnormal
      (fun k hk => by simpa only [hk, Bool.false_eq_true, if_false] using hread k)
      (handleOf_of_spells hhandle hc.handle _)) ?_
    refine bind_eq_ok_of_eq (fieldsOf_of_hasSection hpaths false) ?_
    refine bind_eq_ok_of_eq (withPaths_eq_ok hnormal fun k hk => ?_) ?_
    · have hk' := hread k
      rw [if_pos hk] at hk'
      cases k with
      | baseStylesheet | outputDir | releasesFile => exact hk'
      | _ => cases hk
    refine bind_eq_ok_of_eq (navLinksOf_of_spells hlinks hc.links) ?_
    refine bind_eq_ok_of_eq (pageOutputsOf_of_spells houtputs hc.outputKeys hc.outputNames) ?_
    rfl
  rw [SiteConfig.ofValue, isVoid_of_entries? hentries, hentries]
  cases entries with
  | nil => exact hof
  | cons _ _ => exact hof

/-! ## 7. What is loaded -/

/-- The links of a configuration come from their own entry and from nothing else. -/
theorem navLinksOf_of_ofEntries {entries : List (Value × Value)} {c : SiteConfig}
    (h : SiteConfig.ofEntries entries = .ok c) :
    navLinksOf (entryOf "nav_links" entries) = .ok c.navLinks := by
  obtain ⟨site, -, h⟩ := bind_ok_iff.mp h
  obtain ⟨withSite, -, h⟩ := bind_ok_iff.mp h
  obtain ⟨paths, -, h⟩ := bind_ok_iff.mp h
  obtain ⟨withPaths, -, h⟩ := bind_ok_iff.mp h
  obtain ⟨navLinks, hlinks, h⟩ := bind_ok_iff.mp h
  obtain ⟨pageOutputs, -, h⟩ := bind_ok_iff.mp h
  cases h
  exact hlinks

theorem navLinks_of_ofValue {v : Value} {c : SiteConfig}
    (hlinks : ∀ entries, v.entries? = some entries → entryOf "nav_links" entries = .null)
    (h : SiteConfig.ofValue v = .ok c) : c.navLinks = defaultNavLinks := by
  have hnone : ∀ entries, entryOf "nav_links" entries = .null →
      SiteConfig.ofEntries entries = .ok c → c.navLinks = defaultNavLinks := by
    intro entries hentry hof
    have hread := navLinksOf_of_ofEntries hof
    rw [hentry, navLinksOf] at hread
    exact (Except.ok.inj hread).symm
  rw [SiteConfig.ofValue] at h
  split at h
  · exact hnone [] rfl h
  · split at h
    · rename_i entries hentries
      exact hnone entries (hlinks entries hentries) h
    · cases h

/-! ## 8. Loading undoes writing -/

/-- A configuration in normal form, of which some keys are left out, loads as itself with the
defaults for those keys, from every mapping that spells it so. Writing makes such a mapping, with
any null or blank entries for the texts that are left out. -/
theorem SiteConfig.IsNormal.load_written {c : SiteConfig} (hc : c.IsNormal)
    (out : SiteKey → Bool) :
    (∀ v, c.IsSpelledBy out v → SiteConfig.ofValue v = .ok (c.replaced {} out)) ∧
    ∀ blank, (∀ k, blank k = none ∨ IsBlankEntry (blank k)) →
      c.IsSpelledBy out (c.written out blank) := by
  refine ⟨fun v hv => ?_, fun blank hblank => ?_⟩
  · exact hc.ofValue_of_isSpelledBy hv
  · exact isSpelledBy_written hblank

/-- A site without a handle and without links. -/
def plainSite : SiteConfig :=
  { siteName := "jq", tagline := "queries", baseUrl := "https://jq.dev", twitterHandle := none,
    outputDir := .ofText "build/html", navLinks := [], pageOutputs := [("user-guide", "m.html")] }

/-- Everything but the name, the handle, the output directory, the links and the output files. -/
def plainSiteLeftOut : SiteKey → Bool
  | .text .siteName | .text .outputDir | .handle | .navLinks | .pageOutputs => false
  | _ => true

/-- The tagline is null and the address blank. -/
def plainSiteBlank : TextKey → Option Value
  | .tagline => some .null
  | .baseUrl => some (.string " ")
  | _ => none

theorem isNormal_plainSite : plainSite.IsNormal where
  texts k := by
    cases k with
    | description | fontsUrl => exact isStripped_append (by decide +kernel)
    | baseStylesheet | outputDir | releasesFile => exact isStripped_of_trim (by decide +kernel)
    | _ => exact isStripped_ofList (by decide +kernel)
  baseUrl := by decide
  repoUrl := by decide
  handle handle h := by cases h
  paths := by decide
  links := List.forall_mem_nil _
  outputKeys := by decide
  outputNames := by
    rintro _ (_ | ⟨_, ⟨⟩⟩)
    exact isStripped_ofList (by decide)

theorem load_written_plainSite :
    SiteConfig.ofValue
      (.map [
        (.string "site", .map [(.string "twitter_handle", .null), (.string "name", .string "jq"),
          (.string "tagline", .null), (.string "base_url", .string " ")]),
        (.string "paths", .map [(.string "output_dir", .string "build/html")]),
        (.string "nav_links", .list []),
        (.string "pages", .map [(.string "user-guide", .string "m.html")])]) =
      .ok { siteName := "jq", twitterHandle := none, outputDir := .ofText "build/html",
            navLinks := [], pageOutputs := [("user-guide", "m.html")] } := by
  have hblank : ∀ k, plainSiteBlank k = none ∨ IsBlankEntry (plainSiteBlank k) := by
    intro k
    cases k with
    | tagline => exact .inr (.inl rfl)
    | baseUrl => exact .inr (.inr ⟨" ", rfl, by decide⟩)
    | _ => exact .inl rfl
  have hloads := isNormal_plainSite.load_written plainSiteLeftOut
  exact hloads.1 _ (hloads.2 plainSiteBlank hblank)

end StaticSite
