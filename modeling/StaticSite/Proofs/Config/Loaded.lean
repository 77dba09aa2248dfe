/-
StaticSite.Proofs.Config.Loaded — what a configuration looks like once it is loaded.

Each value of a loaded configuration is one that its mapping gives, stripped
of the blank characters at its ends, or the default (`textOf_of_ofValue`,
`twitterHandle_of_ofValue`). Then some values are finished: the addresses
that paths are put after lose the slashes at their ends, the handle loses one
at sign, and paths are brought into the form of their texts. Finishing comes
after stripping, and what it takes off can uncover blank characters, a
second at sign, or nothing at all. So a loaded configuration is always tidy
(`SiteConfig.IsTidy`), but it is in normal form only if finishing leaves
stripped texts (`Value.KeepsNormal`), and only then it is loaded again from
every mapping that spells it (`SiteConfig.isNormal_iff_of_load`).
-/
import StaticSite.Proofs.Config.Loading
import StaticSite.Proofs.Files.PathText
import StaticSite.Proofs.Files.Reading
import StaticSite.Proofs.Generate.Resuming
import StaticSite.Proofs.Text.Strip

namespace StaticSite

open StaticSite.Text

/-! ## 1. Stripped texts -/

theorem nonBlank?_eq_some_iff {s t : String} :
    Value.nonBlank? s = some t ↔ strip s = t ∧ t ≠ "" := by
  simp only [Value.nonBlank?, String.isEmpty_iff]
  split
  · rename_i hempty
    rw [hempty]
    constructor
    · intro h
      cases h
    · rintro ⟨rfl, hne⟩
      exact absurd rfl hne
  · rename_i hne
    rw [Option.some.injEq]
    constructor
    · rintro rfl
      exact ⟨rfl, hne⟩
    · exact And.left

theorem isStripped_of_nonBlank? {s t : String} (h : Value.nonBlank? s = some t) :
    IsStripped t := by
  obtain ⟨rfl, hne⟩ := nonBlank?_eq_some_iff.mp h
  refine ⟨hne, ?_⟩
  rw [strip, strip, String.toList_ofList, trim_trim]

theorem Value.isStripped_of_stripped? {v : Value} {s : String}
    (h : v.stripped? = .ok (some s)) : IsStripped s := by
  unfold stripped? at h
  split at h
  · cases h
  · split at h
    · exact isStripped_of_nonBlank? (Except.ok.inj h)
    · cases h

theorem ConfigError.ofText_eq_ok_iff {α : Type} {x : Except Value.TextError α} {a : α} :
    ConfigError.ofText x = .ok a ↔ x = .ok a := by
  cases x with
  | error e => simp [ConfigError.ofText]
  | ok b => simp [ConfigError.ofText]

/-- The text of a value without the blank characters at its ends, if it has such a text. -/
def Value.ownText? (v : Value) : Option String :=
  match v.stripped? with
  | .ok s => s
  | .error _ => none

theorem Value.ownText?_string (s : String) : (Value.string s).ownText? = nonBlank? s := by
  rw [ownText?, stripped?_string]

theorem Value.isStripped_of_ownText? {v : Value} {s : String} (h : v.ownText? = some s) :
    IsStripped s := by
  rw [ownText?] at h
  split at h
  · rename_i t hv
    exact isStripped_of_stripped? (h ▸ hv)
  · cases h

/-- A text that is stripped and then changed, and is the same again, was stripped before, if the
change does not make it longer. -/
theorem isStripped_of_same {s : String} {change : String → String}
    (hchange : ∀ t, t ≠ "" → (change t).toList.length ≤ t.toList.length)
    (h : (Value.nonBlank? s).map change = some s) : IsStripped s ∧ change s = s := by
  rw [Option.map_eq_some_iff] at h
  obtain ⟨t, ht, hs⟩ := h
  obtain ⟨rfl, hne⟩ := nonBlank?_eq_some_iff.mp ht
  have hlength : s.toList.length ≤ (trim s.toList).length := by
    have hshort := hchange _ hne
    rwa [hs, strip, String.toList_ofList] at hshort
  have hsame : strip s = s := by
    rw [strip, eq_of_trim_length hlength, String.ofList_toList]
  rw [hsame] at hne hs
  exact ⟨⟨hne, hsame⟩, hs⟩

/-! ## 2. Finishing -/

/-- Are the slashes at the end of the text taken off? -/
def TextKey.isAddress : TextKey → Bool
  | .baseUrl | .repoUrl => true
  | _ => false

/-- What becomes of a stripped text: an address loses the slashes at its end, and a path gets the
text of a path. -/
def TextKey.finish (k : TextKey) (s : String) : String :=
  if k.isAddress then stripTrailingSlashes s
  else if k.isPath then (Path.ofText s).text
  else s

theorem length_dropAt_le (s : String) : (dropAt s).toList.length ≤ s.toList.length := by
  rw [dropAt]
  split
  · rename_i rest hs
    simp [hs]
  · exact le_rfl

theorem getLast?_dropAt {s : String} {c : Char} (h : (dropAt s).toList.getLast? = some c) :
    s.toList.getLast? = some c := by
  rw [dropAt] at h
  split at h
  · rename_i rest hs
    rw [String.toList_ofList] at h
    rw [hs, List.getLast?_cons, h]
    rfl
  · exact h

theorem head?_of_dropAt_eq {s : String} (h : dropAt s = s) : s.toList.head? ≠ some '@' := by
  intro hat
  rw [dropAt] at h
  split at h
  · rename_i rest hs
    have hlength := congrArg (fun t : String => t.toList.length) h
    simp [hs] at hlength
  · rename_i hother
    obtain ⟨rest, hs⟩ := List.head?_eq_some_iff.mp hat
    exact hother rest hs

theorem TextKey.length_finish_le (k : TextKey) {s : String} (hs : s ≠ "") :
    (k.finish s).toList.length ≤ s.toList.length := by
  rw [finish]
  split
  · exact length_stripTrailingSlashes_le s
  · split
    · exact Path.length_text_ofText_le hs
    · exact le_rfl

/-! ## 3. What a mapping gives -/

namespace Value

/-- The fields of a section, none if there is no such section. -/
def fieldsIn (v : Value) (name : String) : List (Value × Value) :=
  (entryOf name (v.entries?.getD [])).entries?.getD []

/-- The text that is given for a key: none if it is missing, null or blank. -/
def givenText? (v : Value) (k : TextKey) : Option String :=
  (field? k.name (v.fieldsIn (if k.isPath then "paths" else "site"))).bind ownText?

/-- What is given for the handle: nothing, no text, or the text. -/
def givenHandle? (v : Value) : Option (Option String) :=
  (field? handleField (v.fieldsIn "site")).map ownText?

/-- Finishing leaves stripped texts of all that are given, and no second at sign. -/
structure KeepsNormal (v : Value) : Prop where
  texts : ∀ k s, v.givenText? k = some s → IsStripped (k.finish s)
  handle : ∀ s, v.givenHandle? = some (some s) →
    IsStripped (dropAt s) ∧ (dropAt s).toList.head? ≠ some '@'

theorem isStripped_of_givenText? {v : Value} {k : TextKey} {s : String}
    (h : v.givenText? k = some s) : IsStripped s := by
  obtain ⟨w, -, hw⟩ := Option.bind_eq_some_iff.mp h
  exact isStripped_of_ownText? hw

end Value

theorem eq_of_textField {entries : List (Value × Value)} {name default s : String}
    (h : textField entries name default = .ok s) :
    s = ((Value.field? name entries).bind Value.ownText?).getD default := by
  rw [textField] at h
  split at h
  · rename_i v hv
    rw [hv, Option.bind_some, Value.ownText?]
    cases hstripped : v.stripped? with
    | error e =>
      rw [hstripped] at h
      cases h
    | ok t =>
      rw [hstripped] at h
      exact (Except.ok.inj h).symm
  · rename_i hnone
    rw [hnone]
    exact (Except.ok.inj h).symm

theorem eq_of_handleOf {entries : List (Value × Value)} {default handle : Option String}
    (h : handleOf entries default = .ok handle) :
    handle = (((Value.field? handleField entries).map Value.ownText?).map
      (Option.map dropAt)).getD default := by
  rw [handleOf] at h
  split at h
  · rename_i v hv
    rw [hv, Option.map_some, Option.map_some, Option.getD_some, Value.ownText?]
    cases hstripped : v.stripped? with
    | error e =>
      rw [hstripped] at h
      cases h
    | ok t =>
      rw [hstripped] at h
      exact (Except.ok.inj h).symm
  · rename_i hnone
    rw [hnone]
    exact (Except.ok.inj h).symm

theorem entries?_of_isVoid {v : Value} (h : v.isVoid = true) : v.entries?.getD [] = [] := by
  cases hentries : v.entries? with
  | none => rfl
  | some entries =>
    rw [isVoid_of_entries? hentries, List.isEmpty_iff] at h
    exact h

theorem eq_of_fieldsOf {searched : Bool} {v : Value} {fields : List (Value × Value)}
    (h : fieldsOf searched v = .ok fields) : fields = v.entries?.getD [] := by
  rw [fieldsOf] at h
  split at h
  · rename_i hvoid
    rw [entries?_of_isVoid hvoid]
    exact (Except.ok.inj h).symm
  · split at h
    · rename_i entries hentries
      rw [hentries]
      exact (Except.ok.inj h).symm
    · cases h

theorem ofEntries_of_ofValue {v : Value} {c : SiteConfig} (h : SiteConfig.ofValue v = .ok c) :
    SiteConfig.ofEntries (v.entries?.getD []) = .ok c := by
  rw [SiteConfig.ofValue] at h
  split at h
  · rename_i hvoid
    rwa [entries?_of_isVoid hvoid]
  · split at h
    · rename_i entries hentries
      rwa [hentries]
    · cases h

/-! ## 4. What is loaded -/

section

variable {c base : SiteConfig} {fields : List (Value × Value)}

theorem textOf_of_withSite (h : base.withSite fields = .ok c) {k : TextKey}
    (hk : k.isPath = false) :
    c.textOf k = k.finish (((Value.field? k.name fields).bind Value.ownText?).getD
      (base.textOf k)) := by
  obtain ⟨handle, -, h⟩ := bind_ok_iff.mp h
  obtain ⟨siteName, hsiteName, h⟩ := bind_ok_iff.mp h
  obtain ⟨tagline, htagline, h⟩ := bind_ok_iff.mp h
  obtain ⟨baseUrl, hbaseUrl, h⟩ := bind_ok_iff.mp h
  obtain ⟨description, hdescription, h⟩ := bind_ok_iff.mp h
  obtain ⟨socialImage, hsocialImage, h⟩ := bind_ok_iff.mp h
  obtain ⟨favicon, hfavicon, h⟩ := bind_ok_iff.mp h
  obtain ⟨bannerImage, hbannerImage, h⟩ := bind_ok_iff.mp h
  obtain ⟨fontsUrl, hfontsUrl, h⟩ := bind_ok_iff.mp h
  obtain ⟨authorName, hauthorName, h⟩ := bind_ok_iff.mp h
  obtain ⟨authorUrl, hauthorUrl, h⟩ := bind_ok_iff.mp h
  obtain ⟨footerImage, hfooterImage, h⟩ := bind_ok_iff.mp h
  obtain ⟨repoUrl, hrepoUrl, h⟩ := bind_ok_iff.mp h
  obtain ⟨version, hversion, h⟩ := bind_ok_iff.mp h
  cases h
  cases k with
  | siteName => exact eq_of_textField hsiteName
  | tagline => exact eq_of_textField htagline
  | baseUrl => exact congrArg stripTrailingSlashes (eq_of_textField hbaseUrl)
  | description => exact eq_of_textField hdescription
  | socialImage => exact eq_of_textField hsocialImage
  | favicon => exact eq_of_textField hfavicon
  | bannerImage => exact eq_of_textField hbannerImage
  | fontsUrl => exact eq_of_textField hfontsUrl
  | authorName => exact eq_of_textField hauthorName
  | authorUrl => exact eq_of_textField hauthorUrl
  | footerImage => exact eq_of_textField hfooterImage
  | repoUrl => exact congrArg stripTrailingSlashes (eq_of_textField hrepoUrl)
  | version => exact eq_of_textField hversion
  | baseStylesheet | outputDir | releasesFile => cases hk

theorem pathText_of_withSite (h : base.withSite fields = .ok c) {k : TextKey}
    (hk : k.isPath = true) : c.textOf k = base.textOf k := by
  iterate 14 obtain ⟨_, -, h⟩ := bind_ok_iff.mp h
  cases h
  cases k with
  | baseStylesheet | outputDir | releasesFile => rfl
  | _ => cases hk

theorem twitterHandle_of_withSite (h : base.withSite fields = .ok c) :
    c.twitterHandle = (((Value.field? handleField fields).map Value.ownText?).map
      (Option.map dropAt)).getD base.twitterHandle := by
  obtain ⟨handle, hhandle, h⟩ := bind_ok_iff.mp h
  iterate 13 obtain ⟨_, -, h⟩ := bind_ok_iff.mp h
  cases h
  exact eq_of_handleOf hhandle

/-- The paths are read from their own section, and all else stays as it is. -/
theorem withPaths_spec (h : base.withPaths fields = .ok c) :
    (∀ k : TextKey, k.isPath = true → c.textOf k =
      k.finish (((Value.field? k.name fields).bind Value.ownText?).getD (base.textOf k))) ∧
    (∀ p ∈ [c.baseStylesheet, c.outputDir, c.releasesFile], Path.ofText p.text = p) ∧
    (∀ k : TextKey, k.isPath = false → c.textOf k = base.textOf k) ∧
    c.twitterHandle = base.twitterHandle := by
  obtain ⟨baseStylesheet, hbaseStylesheet, h⟩ := bind_ok_iff.mp h
  obtain ⟨outputDir, houtputDir, h⟩ := bind_ok_iff.mp h
  obtain ⟨releasesFile, hreleasesFile, h⟩ := bind_ok_iff.mp h
  cases h
  refine ⟨?_, ?_, ?_, rfl⟩
  · intro k hk
    have hpath : ∀ {s t : String}, s = t → (Path.ofText s).text = (Path.ofText t).text :=
      fun h => congrArg (fun s => (Path.ofText s).text) h
    cases k with
    | baseStylesheet => exact hpath (eq_of_textField hbaseStylesheet)
    | outputDir => exact hpath (eq_of_textField houtputDir)
    | releasesFile => exact hpath (eq_of_textField hreleasesFile)
    | _ => cases hk
  · simp [Path.ofText_text_ofText]
  · intro k hk
    cases k with
    | baseStylesheet | outputDir | releasesFile => cases hk
    | _ => rfl

end

/-! ## 5. Loaded links and output files -/

theorem NavLink.isStripped_of_ofValue {index : Nat} {v : Value} {link : NavLink}
    (h : NavLink.ofValue index v = .ok link) :
    IsStripped link.label ∧ IsStripped link.href := by
  rw [ofValue] at h
  split at h
  · cases h
  · split at h
    · split at h
      · cases h
      · cases h
      · rename_i hlabel hhref
        cases h
        exact ⟨Value.isStripped_of_stripped? (ConfigError.ofText_eq_ok_iff.mp hlabel),
          Value.isStripped_of_stripped? (ConfigError.ofText_eq_ok_iff.mp hhref)⟩
      · cases h
    · cases h

theorem NavLink.isStripped_of_ofEntries {index : Nat} {entries : List Value}
    {links : List NavLink} (h : NavLink.ofEntries index entries = .ok links) :
    ∀ link ∈ links, IsStripped link.label ∧ IsStripped link.href := by
  induction entries generalizing index links with
  | nil =>
    cases h
    exact List.forall_mem_nil _
  | cons entry rest ih =>
    rw [ofEntries] at h
    split at h
    · cases h
    · rename_i link hlink
      split at h
      · cases h
      · rename_i links hlinks
        cases h
        exact List.forall_mem_cons.mpr ⟨isStripped_of_ofValue hlink, ih hlinks⟩

theorem isStripped_of_navLinksOf {v : Value} {links : List NavLink}
    (h : navLinksOf v = .ok links) :
    ∀ link ∈ links, IsStripped link.label ∧ IsStripped link.href := by
  unfold navLinksOf at h
  split at h
  · cases h
    exact isNormal_default.links
  · split at h
    · exact NavLink.isStripped_of_ofEntries h
    · cases h

theorem isStripped_of_outputNameOf {v : Value} {name : String}
    (h : outputNameOf v = .ok (some name)) : IsStripped name := by
  unfold outputNameOf at h
  split at h
  · exact Value.isStripped_of_stripped? (ConfigError.ofText_eq_ok_iff.mp h)
  · split at h
    · exact Value.isStripped_of_stripped? (ConfigError.ofText_eq_ok_iff.mp h)
    · cases h

theorem map_fst_putOutputName (key name : String) (table : List (String × String)) :
    (putOutputName key name table).map Prod.fst =
      if key ∈ table.map Prod.fst then table.map Prod.fst else table.map Prod.fst ++ [key] := by
  by_cases hkey : key ∈ table.map Prod.fst
  · rw [if_pos hkey]
    induction table with
    | nil => cases hkey
    | cons entry rest ih =>
      rw [putOutputName]
      split
      · rfl
      · rename_i hne
        rw [beq_iff_eq] at hne
        rw [List.map_cons, List.mem_cons] at hkey
        rw [List.map_cons, List.map_cons, ih (hkey.resolve_left (Ne.symm hne))]
  · rw [if_neg hkey, putOutputName_of_not_mem hkey]
    simp

theorem mem_putOutputName {key name : String} {table : List (String × String)}
    {output : String × String} (h : output ∈ putOutputName key name table) :
    output ∈ table ∨ output.2 = name := by
  induction table with
  | nil =>
    rw [putOutputName, List.mem_singleton] at h
    exact .inr (congrArg Prod.snd h)
  | cons entry rest ih =>
    rw [putOutputName] at h
    split at h
    · rcases List.mem_cons.mp h with rfl | hrest
      · exact .inr rfl
      · exact .inl (List.mem_cons_of_mem _ hrest)
    · rcases List.mem_cons.mp h with rfl | hrest
      · exact .inl List.mem_cons_self
      · exact (ih hrest).imp_left (List.mem_cons_of_mem _)

/-- No two entries of the table have the same key, and all names are stripped. -/
def IsTidyTable (table : List (String × String)) : Prop :=
  (table.map Prod.fst).Nodup ∧ ∀ output ∈ table, IsStripped output.2

theorem IsTidyTable.putOutputName {table : List (String × String)} (h : IsTidyTable table)
    {name : String} (hname : IsStripped name) (key : String) :
    IsTidyTable (putOutputName key name table) := by
  refine ⟨?_, fun output houtput => ?_⟩
  · rw [map_fst_putOutputName]
    split
    · exact h.1
    · rename_i hnew
      rw [List.nodup_append]
      refine ⟨h.1, List.nodup_singleton _, ?_⟩
      rintro k hk _ (_ | ⟨_, ⟨⟩⟩) rfl
      exact hnew hk
  · rcases mem_putOutputName houtput with hold | hnew
    · exact h.2 output hold
    · exact hnew ▸ hname

theorem IsTidyTable.addOutputNames {table outputs : List (String × String)}
    (h : IsTidyTable table) {entries : List (Value × Value)}
    (hadd : addOutputNames table entries = .ok outputs) : IsTidyTable outputs := by
  induction entries generalizing table with
  | nil =>
    cases hadd
    exact h
  | cons entry rest ih =>
    rw [StaticSite.addOutputNames] at hadd
    split at hadd
    · cases hadd
    · exact ih h hadd
    · rename_i name hname
      split at hadd
      · cases hadd
      · exact ih (h.putOutputName (isStripped_of_outputNameOf hname) _) hadd

theorem isTidyTable_of_pageOutputsOf {v : Value} {outputs : List (String × String)}
    (h : pageOutputsOf v = .ok outputs) : IsTidyTable outputs := by
  have hempty : IsTidyTable [] := ⟨List.nodup_nil, List.forall_mem_nil _⟩
  rw [pageOutputsOf] at h
  split at h
  · cases h
    exact hempty
  · split at h
    · exact hempty.addOutputNames h
    · cases h

/-! ## 6. Loaded configurations -/

/-- What all loaded configurations have in common with those in normal form. -/
structure SiteConfig.IsTidy (c : SiteConfig) : Prop where
  texts : ∀ k : TextKey, k.isAddress = false → k.isPath = false → IsStripped (c.textOf k)
  baseUrl : c.baseUrl.toList.getLast? ≠ some '/'
  repoUrl : c.repoUrl.toList.getLast? ≠ some '/'
  handle : ∀ handle, c.twitterHandle = some handle →
    ∀ a, handle.toList.getLast? = some a → isBlank a = false
  paths : ∀ p ∈ [c.baseStylesheet, c.outputDir, c.releasesFile], Path.ofText p.text = p
  links : ∀ link ∈ c.navLinks, IsStripped link.label ∧ IsStripped link.href
  outputs : IsTidyTable c.pageOutputs

section

variable {v : Value} {c : SiteConfig}

/-- The values of a loaded configuration are those that are given, finished, or the defaults. -/
theorem loaded_spec (h : SiteConfig.ofValue v = .ok c) :
    (∀ k : TextKey, c.textOf k = k.finish ((v.givenText? k).getD (({} : SiteConfig).textOf k))) ∧
    c.twitterHandle = ((v.givenHandle?).map (Option.map dropAt)).getD
      ({} : SiteConfig).twitterHandle ∧
    (∀ p ∈ [c.baseStylesheet, c.outputDir, c.releasesFile], Path.ofText p.text = p) ∧
    (∀ link ∈ c.navLinks, IsStripped link.label ∧ IsStripped link.href) ∧
    IsTidyTable c.pageOutputs := by
  have hof := ofEntries_of_ofValue h
  have hlinks := isStripped_of_navLinksOf (navLinksOf_of_ofEntries hof)
  obtain ⟨site, hsite, hof⟩ := bind_ok_iff.mp hof
  obtain ⟨withSite, hwithSite, hof⟩ := bind_ok_iff.mp hof
  obtain ⟨paths, hpaths, hof⟩ := bind_ok_iff.mp hof
  obtain ⟨withPaths, hwithPaths, hof⟩ := bind_ok_iff.mp hof
  obtain ⟨navLinks, -, hof⟩ := bind_ok_iff.mp hof
  obtain ⟨pageOutputs, houtputs, hof⟩ := bind_ok_iff.mp hof
  cases hof
  obtain rfl : site = v.fieldsIn "site" := eq_of_fieldsOf hsite
  obtain rfl : paths = v.fieldsIn "paths" := eq_of_fieldsOf hpaths
  obtain ⟨hpathTexts, hnormal, hsame, hhandle⟩ := withPaths_spec hwithPaths
  refine ⟨fun k => ?_, hhandle.trans (twitterHandle_of_withSite hwithSite), hnormal, hlinks,
    isTidyTable_of_pageOutputsOf houtputs⟩
  rw [Value.givenText?]
  cases hk : k.isPath with
  | true =>
    rw [if_pos rfl, ← pathText_of_withSite hwithSite hk, ← hpathTexts k hk]
    cases k <;> rfl
  | false =>
    rw [if_neg Bool.false_ne_true, ← textOf_of_withSite hwithSite hk, ← hsame k hk]
    cases k <;> rfl

/-- Finishing does not change the defaults. -/
theorem TextKey.finish_default (k : TextKey) :
    k.finish (({} : SiteConfig).textOf k) = ({} : SiteConfig).textOf k := by
  have hpaths := isNormal_default.paths
  simp only [List.forall_mem_cons] at hpaths
  cases k with
  | baseUrl => exact stripTrailingSlashes_of_getLast? isNormal_default.baseUrl
  | repoUrl => exact stripTrailingSlashes_of_getLast? isNormal_default.repoUrl
  | baseStylesheet => exact congrArg Path.text hpaths.1
  | outputDir => exact congrArg Path.text hpaths.2.1
  | releasesFile => exact congrArg Path.text hpaths.2.2.1
  | _ => rfl

theorem textOf_of_ofValue (h : SiteConfig.ofValue v = .ok c) (k : TextKey) :
    c.textOf k = ((v.givenText? k).map k.finish).getD (({} : SiteConfig).textOf k) := by
  rw [(loaded_spec h).1 k]
  cases v.givenText? k with
  | none => exact k.finish_default
  | some s => rfl

theorem twitterHandle_of_ofValue (h : SiteConfig.ofValue v = .ok c) :
    c.twitterHandle = ((v.givenHandle?).map (Option.map dropAt)).getD
      ({} : SiteConfig).twitterHandle :=
  (loaded_spec h).2.1

/-- A handle of a loaded configuration is one that is given, or the usual one. -/
theorem handle_cases (h : SiteConfig.ofValue v = .ok c) {handle : String}
    (hhandle : c.twitterHandle = some handle) :
    (∃ s, v.givenHandle? = some (some s) ∧ handle = dropAt s) ∨
      ({} : SiteConfig).twitterHandle = some handle := by
  rw [twitterHandle_of_ofValue h] at hhandle
  cases hgiven : v.givenHandle? with
  | none =>
    rw [hgiven] at hhandle
    exact .inr hhandle
  | some given =>
    rw [hgiven, Option.map_some, Option.getD_some, Option.map_eq_some_iff] at hhandle
    obtain ⟨s, rfl, hs⟩ := hhandle
    exact .inl ⟨s, rfl, hs.symm⟩

theorem Value.isStripped_of_givenHandle? {s : String} (h : v.givenHandle? = some (some s)) :
    IsStripped s := by
  obtain ⟨w, -, hw⟩ := Option.map_eq_some_iff.mp h
  exact isStripped_of_ownText? hw

theorem IsStripped.getLast? {s : String} (h : IsStripped s) {a : Char}
    (ha : s.toList.getLast? = some a) : isBlank a = false := by
  have htrim : trim s.toList = s.toList := by
    have hstrip := congrArg String.toList h.2
    rwa [strip, String.toList_ofList] at hstrip
  exact (trim_eq_self_iff.mp htrim).2 a ha

theorem SiteConfig.isTidy_of_ofValue (h : SiteConfig.ofValue v = .ok c) : c.IsTidy where
  texts k haddress hpath := by
    rw [textOf_of_ofValue h k]
    cases hgiven : v.givenText? k with
    | none => exact isNormal_default.texts k
    | some s =>
      have hfinish : k.finish s = s := by simp [TextKey.finish, haddress, hpath]
      rw [Option.map_some, Option.getD_some, hfinish]
      exact Value.isStripped_of_givenText? hgiven
  baseUrl := by
    rw [show c.baseUrl = _ from (loaded_spec h).1 .baseUrl]
    exact getLast?_stripTrailingSlashes _
  repoUrl := by
    rw [show c.repoUrl = _ from (loaded_spec h).1 .repoUrl]
    exact getLast?_stripTrailingSlashes _
  handle handle hhandle a ha := by
    rcases handle_cases h hhandle with ⟨s, hs, rfl⟩ | hdefault
    · exact (Value.isStripped_of_givenHandle? hs).getLast? (getLast?_dropAt ha)
    · exact (isNormal_default.handle handle hdefault).1.getLast? ha
  paths := (loaded_spec h).2.2.1
  links := (loaded_spec h).2.2.2.1
  outputs := (loaded_spec h).2.2.2.2

theorem SiteConfig.isNormal_iff_keepsNormal (h : SiteConfig.ofValue v = .ok c) :
    c.IsNormal ↔ v.KeepsNormal := by
  have htidy := isTidy_of_ofValue h
  constructor
  · intro hc
    refine ⟨fun k s hs => ?_, fun s hs => ?_⟩
    · have htext := hc.texts k
      rwa [textOf_of_ofValue h k, hs] at htext
    · refine hc.handle (dropAt s) ?_
      rw [twitterHandle_of_ofValue h, hs]
      rfl
  · intro hv
    refine ⟨fun k => ?_, htidy.baseUrl, htidy.repoUrl, fun handle hhandle => ?_, htidy.paths,
      htidy.links, htidy.outputs.1, htidy.outputs.2⟩
    · rw [textOf_of_ofValue h k]
      cases hgiven : v.givenText? k with
      | none => exact isNormal_default.texts k
      | some s => exact hv.texts k s hgiven
    · rcases handle_cases h hhandle with ⟨s, hs, rfl⟩ | hdefault
      · exact hv.handle s hs
      · exact isNormal_default.handle handle hdefault

end

/-! ## 7. Loading again -/

section

variable {c : SiteConfig} {w : Value}

theorem eq_of_hasSection {entries fields : List (Value × Value)} {name : String}
    (h : HasSection entries name fields) : (entryOf name entries).entries?.getD [] = fields :=
  (eq_of_fieldsOf (fieldsOf_of_hasSection h true)).symm

theorem givenText?_of_isSpelledBy (h : c.IsSpelledBy (fun _ => false) w) (k : TextKey) :
    w.givenText? k = Value.nonBlank? (c.textOf k) := by
  obtain ⟨entries, site, paths, hentries, hsite, hpaths, htexts, -⟩ := h
  have hfields : w.fieldsIn (if k.isPath then "paths" else "site") =
      if k.isPath then paths else site := by
    rw [Value.fieldsIn, hentries]
    split
    · exact eq_of_hasSection hpaths
    · exact eq_of_hasSection hsite
  have hfield : Value.field? k.name (if k.isPath then paths else site) =
      some (.string (c.textOf k)) := htexts k
  rw [Value.givenText?, hfields, hfield, Option.bind_some, Value.ownText?_string]

theorem givenHandle?_of_isSpelledBy (h : c.IsSpelledBy (fun _ => false) w) {handle : String}
    (hhandle : c.twitterHandle = some handle) :
    w.givenHandle? = some (Value.nonBlank? handle) := by
  obtain ⟨entries, site, paths, hentries, hsite, -, -, hspells, -⟩ := h
  have hfields : w.fieldsIn "site" = site := by
    rw [Value.fieldsIn, hentries]
    exact eq_of_hasSection hsite
  have hfield : Value.field? handleField site = some (.string handle) := by
    rwa [hhandle] at hspells
  rw [Value.givenHandle?, hfields, hfield, Option.map_some, Value.ownText?_string]

/-- A tidy configuration that is loaded from a mapping that spells it is in normal form. -/
theorem SiteConfig.IsTidy.isNormal (hc : c.IsTidy) (hspells : c.IsSpelledBy (fun _ => false) w)
    (h : SiteConfig.ofValue w = .ok c) : c.IsNormal := by
  refine ⟨fun k => ?_, hc.baseUrl, hc.repoUrl, fun handle hhandle => ?_, hc.paths, hc.links,
    hc.outputs.1, hc.outputs.2⟩
  · have htext := textOf_of_ofValue h k
    rw [givenText?_of_isSpelledBy hspells k] at htext
    cases hgiven : Value.nonBlank? (c.textOf k) with
    | none =>
      rw [hgiven] at htext
      rw [htext]
      exact isNormal_default.texts k
    | some s =>
      have hsame : (Value.nonBlank? (c.textOf k)).map k.finish = some (c.textOf k) := by
        rw [hgiven] at htext ⊢
        exact congrArg some htext.symm
      exact (isStripped_of_same (fun _ => k.length_finish_le) hsame).1
  · have hsame := twitterHandle_of_ofValue h
    rw [givenHandle?_of_isSpelledBy hspells hhandle, hhandle] at hsame
    have hstripped := isStripped_of_same (fun t _ => length_dropAt_le t) hsame.symm
    exact ⟨hstripped.1, head?_of_dropAt_eq hstripped.2⟩

/-- A tidy configuration is in normal form exactly if it is loaded again from every mapping that
spells it. -/
theorem SiteConfig.IsTidy.isNormal_iff_loaded (hc : c.IsTidy) :
    c.IsNormal ↔ ∀ w, c.IsSpelledBy (fun _ => false) w → SiteConfig.ofValue w = .ok c := by
  constructor
  · intro hnormal w hspells
    exact hnormal.ofValue_of_isSpelledBy hspells
  · intro hloaded
    have hspells : c.IsSpelledBy (fun _ => false) (c.written (fun _ => false) fun _ => none) :=
      isSpelledBy_written fun _ => .inl rfl
    exact hc.isNormal hspells (hloaded _ hspells)

end

/-! ## 8. Files -/

/-- A configuration that is loaded from a file is tidy. It is in normal form exactly if finishing
keeps the texts of the file so, and exactly if it is loaded again from every mapping that spells
it. -/
theorem SiteConfig.isNormal_iff_of_load {fs : FileSystem} {p : Path} {c : SiteConfig}
    (h : SiteConfig.load fs p = .ok c) :
    ∃ v, fs.readData p = .ok v ∧ c.IsTidy ∧ (c.IsNormal ↔ v.KeepsNormal) ∧
      (c.IsNormal ↔ ∀ w, c.IsSpelledBy (fun _ => false) w → SiteConfig.ofValue w = .ok c) := by
  obtain ⟨v, hv, hc⟩ := FileSystem.loadData_ok_iff.mp h
  have htidy := isTidy_of_ofValue hc
  exact ⟨v, hv, htidy, isNormal_iff_keepsNormal hc, htidy.isNormal_iff_loaded⟩

/-- A site whose address is given with a slash at its end, and its handle with a sign. -/
def signedSite : SiteConfig :=
  { baseUrl := "https://jq.dev", twitterHandle := some "jq" }

theorem SiteConfig.isNormal_iff_of_load_signedSite :
    ∃ v, (smallSystem "site:\n  base_url: https://jq.dev/\n  twitter_handle: '@jq'\n").readData
        (.ofText "config/site.yaml") = .ok v ∧
      signedSite.IsTidy ∧ (signedSite.IsNormal ↔ v.KeepsNormal) ∧
      (signedSite.IsNormal ↔ ∀ w, signedSite.IsSpelledBy (fun _ => false) w →
        SiteConfig.ofValue w = .ok signedSite) :=
  isNormal_iff_of_load (by decide +kernel)

/-- A site whose handle is given with two signs. -/
def doubleSigned : SiteConfig :=
  { twitterHandle := some "@x" }

/-- Only one of the signs is taken off, so that there is none when the configuration is loaded
again. -/
theorem SiteConfig.load_doubleSigned :
    SiteConfig.load (smallSystem "site:\n  twitter_handle: '@@x'\n") (.ofText "config/site.yaml") =
        .ok doubleSigned ∧
      ¬ doubleSigned.IsNormal ∧
      ¬ ∀ w, doubleSigned.IsSpelledBy (fun _ => false) w →
        SiteConfig.ofValue w = .ok doubleSigned := by
  have hload : SiteConfig.load (smallSystem "site:\n  twitter_handle: '@@x'\n")
      (.ofText "config/site.yaml") = .ok doubleSigned := by
    decide +kernel
  have hsign : ¬ doubleSigned.IsNormal := fun h => (h.handle "@x" rfl).2 (by decide)
  obtain ⟨v, -, hv⟩ := FileSystem.loadData_ok_iff.mp hload
  exact ⟨hload, hsign, fun hloaded => hsign ((isTidy_of_ofValue hv).isNormal_iff_loaded.mpr hloaded)⟩

end StaticSite
