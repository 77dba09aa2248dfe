/-
StaticSite.Proofs.Config.Links — the links of a site, entry by entry.

An entry gives a link if it is a mapping with a label and an address and both
have a text that is not blank; the link has these texts, stripped
(`NavLink.IsFrom`). An entry that gives none has one fault
(`Value.HasLinkFault`), which the error tells with the index of the entry. The
entries are read in their order, so a list either gives one link for each of
them or fails with the fault of the first entry that has one
(`navLinksOf_entryByEntry`).
-/
import StaticSite.Proofs.Config.Shape
import StaticSite.Proofs.Value.InOrder

namespace StaticSite

open StaticSite.Text

/-! ## 1. Texts -/

/-- The text of the value is not blank, and this is what is left of it without the blank
characters at its ends. Null gives no text. -/
structure Value.Gives (v : Value) (s : String) : Prop where
  notNull : v ≠ .null
  hasText : v.hasText = true
  stripped : strip v.shown = s
  notEmpty : s ≠ ""

namespace Value

theorem stripped?_eq_some_iff {v : Value} {s : String} :
    v.stripped? = .ok (some s) ↔ v.Gives s := by
  by_cases hnull : v = .null
  · subst hnull
    refine iff_of_false (fun h => ?_) fun h => h.notNull rfl
    cases h
  rw [stripped?_eq hnull, text]
  cases htext : v.hasText with
  | false =>
    refine iff_of_false (fun h => ?_) fun h => by simp [h.hasText] at htext
    cases h
  | true =>
    simp only [if_true, Except.map, Except.ok.injEq, nonBlank?_eq_some_iff]
    exact ⟨fun h => ⟨hnull, htext, h.1, h.2⟩, fun h => ⟨h.stripped, h.notEmpty⟩⟩

end Value

/-! ## 2. One entry -/

/-- The entry is a mapping with a label and an address, and their texts are those of the link. -/
def NavLink.IsFrom (link : NavLink) (entry : Value) : Prop :=
  ∃ label href, entry.IsLinkOf label href ∧ label.Gives link.label ∧ href.Gives link.href

/-- What is wrong with the entry at an index: a part is missing, or its parts have no texts, or they
are null or blank. -/
inductive Value.HasLinkFault (entry : Value) (index : Nat) : ConfigError → Prop where
  | incomplete (h : ¬ ∃ label href, entry.IsLinkOf label href) :
      entry.HasLinkFault index (.navLinkIncomplete index)
  | unwritable {label href : Value} (hparts : entry.IsLinkOf label href)
      (h : ¬ (label.hasText = true ∧ href.hasText = true)) :
      entry.HasLinkFault index (.noText .tooManyDigits)
  | blank {label href : Value} (hparts : entry.IsLinkOf label href)
      (htexts : label.hasText = true ∧ href.hasText = true) (h : label.IsBlank ∨ href.IsBlank) :
      entry.HasLinkFault index (.navLinkBlank index)

section

variable {entry : Value} {index : Nat} {link : NavLink} {e : ConfigError}

theorem NavLink.ofValue_ok_iff : NavLink.ofValue index entry = .ok link ↔ link.IsFrom entry := by
  constructor
  · intro h
    rw [ofValue] at h
    split at h
    · cases h
    · rename_i fields hfields
      split at h
      · rename_i label href hlabel hhref
        split at h
        · cases h
        · cases h
        · rename_i hlabelText hhrefText
          cases h
          exact ⟨label, href, ⟨fields, hfields, hlabel, hhref⟩,
            Value.stripped?_eq_some_iff.mp (ConfigError.ofText_eq_ok_iff.mp hlabelText),
            Value.stripped?_eq_some_iff.mp (ConfigError.ofText_eq_ok_iff.mp hhrefText)⟩
        · cases h
      · cases h
  · rintro ⟨label, href, ⟨fields, hfields, hlabel, hhref⟩, hlabelText, hhrefText⟩
    simp only [ofValue, hfields, hlabel, hhref, Value.stripped?_eq_some_iff.mpr hlabelText,
      Value.stripped?_eq_some_iff.mpr hhrefText, ConfigError.ofText]

theorem NavLink.ofValue_error_iff :
    NavLink.ofValue index entry = .error e ↔ entry.HasLinkFault index e := by
  rw [(raises_link index entry).error_iff]
  constructor
  · rintro ⟨d, hfirst, rfl⟩
    rcases hfirst with ⟨hparts⟩ | ⟨⟨label, href, hparts⟩, htexts | ⟨htexts, hlink | ⟨-, ⟨⟩⟩⟩⟩
    · exact .incomplete hparts
    · exact .unwritable hparts (fun h => htexts (hparts.hasLinkTexts_iff.mpr h))
    · refine .blank hparts (hparts.hasLinkTexts_iff.mp htexts) ?_
      by_contra hblank
      exact hlink (hparts.isLink_iff.mpr (not_or.mp hblank))
  · rintro (hparts | ⟨hparts, htexts⟩ | ⟨hparts, htexts, hblank⟩)
    · exact ⟨_, .here hparts, rfl⟩
    · exact ⟨_, .later ⟨_, _, hparts⟩ (.here fun h => htexts (hparts.hasLinkTexts_iff.mp h)), rfl⟩
    · refine ⟨_, .later ⟨_, _, hparts⟩ (.later (hparts.hasLinkTexts_iff.mpr htexts)
        (.here fun hlink => ?_)), rfl⟩
      obtain ⟨hlabel, hhref⟩ := hparts.isLink_iff.mp hlink
      exact hblank.elim hlabel hhref

end

/-! ## 3. All entries -/

theorem NavLink.ofEntries_eq_mapM (index : Nat) (entries : List Value) :
    NavLink.ofEntries index entries =
      (entries.zipIdx index).mapM fun entry => NavLink.ofValue entry.2 entry.1 := by
  induction entries generalizing index with
  | nil => rfl
  | cons entry rest ih =>
    rw [ofEntries, List.zipIdx_cons, List.mapM_cons, ← ih]
    cases NavLink.ofValue index entry with
    | error e => rfl
    | ok link => cases NavLink.ofEntries (index + 1) rest <;> rfl

section

variable {v : Value} {entries : List Value} {links : List NavLink} {e : ConfigError}

theorem navLinksOf_of_items? (h : v.items? = some entries) :
    navLinksOf v = entries.zipIdx.mapM fun entry => NavLink.ofValue entry.2 entry.1 := by
  rw [navLinksOf, h]
  · exact NavLink.ofEntries_eq_mapM 0 entries
  · rintro rfl
    cases h

theorem navLinksOf_ok_iff (h : v.items? = some entries) :
    navLinksOf v = .ok links ↔
      List.Forall₂ (fun entry (link : NavLink) => link.IsFrom entry) entries links := by
  rw [navLinksOf_of_items? h, mapM_ok_iff]
  -- which link is read does not depend on the index
  simp only [NavLink.ofValue_ok_iff]
  conv_rhs => rw [← List.zipIdx_map_fst 0 entries, List.forall₂_map_left_iff]

theorem exists_navLinksOf_iff (h : v.items? = some entries) :
    (∃ links, navLinksOf v = .ok links) ↔
      ∀ entry ∈ entries, entry.IsLink ∧ entry.HasLinkTexts := by
  have hnull : v ≠ .null := by
    rintro rfl
    cases h
  rw [(raises_navLinksOf v).ok_iff, forall_met_links_iff]
  simp [h, hnull, forall_and]

theorem navLinksOf_error_iff (h : v.items? = some entries) :
    navLinksOf v = .error e ↔
      ∃ (i : Nat) (entry : Value), entries[i]? = some entry ∧ entry.HasLinkFault i e ∧
        ∀ j < i, ∀ before, entries[j]? = some before → ∃ link : NavLink, link.IsFrom before := by
  rw [navLinksOf_of_items? h, mapM_zipIdx_error_iff NavLink.ofValue]
  simp only [NavLink.ofValue_ok_iff, NavLink.ofValue_error_iff]

end

/-- How an error is told: the kind it is raised as, and its wording. -/
def ConfigError.IsToldAs (e : ConfigError) (kind : ErrorKind) (message : String) : Prop :=
  e.kind = kind ∧ e.message = some message

/-- Null gives the usual links, and a value that is no list an error. A list gives a link for each
entry, in the same order, just if each entry has a label and an address that are not blank and can
be written. Otherwise the first entry that gives no link decides the error, which names its
index. -/
theorem navLinksOf_entryByEntry (v : Value) :
    (v = .null → navLinksOf v = .ok defaultNavLinks) ∧
    (v ≠ .null → v.items? = none → navLinksOf v = .error .navLinksNotList) ∧
    (∀ entries, v.items? = some entries →
      (∀ links, navLinksOf v = .ok links ↔
        List.Forall₂ (fun entry (link : NavLink) => link.IsFrom entry) entries links) ∧
      ((∃ links, navLinksOf v = .ok links) ↔
        ∀ entry ∈ entries, entry.IsLink ∧ entry.HasLinkTexts) ∧
      ∀ e, navLinksOf v = .error e ↔
        ∃ (i : Nat) (entry : Value), entries[i]? = some entry ∧ entry.HasLinkFault i e ∧
          ∀ j < i, ∀ before, entries[j]? = some before →
            ∃ link : NavLink, link.IsFrom before) ∧
    ConfigError.navLinksNotList.kind = .config ∧
    ∀ i : Nat,
      (ConfigError.navLinkIncomplete i).IsToldAs .config
        ("Navigation link #" ++ toString i ++ " must define 'label' and 'href'.") ∧
      (ConfigError.navLinkBlank i).IsToldAs .config
        ("Navigation link #" ++ toString i ++ " needs a non-empty label and href.") := by
  refine ⟨?_, ?_, ?_, rfl, fun i => ⟨⟨rfl, rfl⟩, rfl, rfl⟩⟩
  · rintro rfl
    rfl
  · intro hnull hitems
    rw [navLinksOf, hitems]
    exact hnull
  · exact fun entries hentries => ⟨fun links => navLinksOf_ok_iff hentries,
      exists_navLinksOf_iff hentries, fun e => navLinksOf_error_iff hentries⟩

/-- A link, a text that is no link, and a link with a blank label. -/
def mixedLinks : List Value :=
  [.map [(.string "href", .string "./ "), (.string "label", .string "About")],
    .string "label, href",
    .map [(.string "label", .string " "), (.string "href", .string "x")]]

theorem navLinksOf_entryByEntry_mixed :
    (Value.list mixedLinks).items? = some mixedLinks ∧
      navLinksOf (.list mixedLinks) = .error (.navLinkIncomplete 1) := by
  obtain ⟨-, -, hlist, -⟩ := navLinksOf_entryByEntry (.list mixedLinks)
  obtain ⟨-, -, herror⟩ := hlist mixedLinks rfl
  refine ⟨rfl, (herror _).mpr ⟨1, _, rfl, .incomplete ?_, ?_⟩⟩
  · rintro ⟨label, href, fields, hfields, -⟩
    cases hfields
  · intro j hj before hbefore
    obtain rfl : j = 0 := Nat.lt_one_iff.mp hj
    cases hbefore
    exact ⟨⟨"About", "./"⟩, .string "About", .string "./ ", ⟨_, rfl, rfl, rfl⟩,
      ⟨nofun, rfl, by decide, by decide⟩, ⟨nofun, rfl, by decide, by decide⟩⟩

/-- The label of the link is a number of 4301 digits. -/
def hugeLabel : Value :=
  .map [(.string "label", .int (.ofNat (Nat.pow 10 Number.maxDigits))),
    (.string "href", .string "x")]

/-- The entry has both parts, but the label cannot be written, and the error is not one of the
configuration. -/
theorem navLinksOf_hugeLabel :
    (∃ label href, hugeLabel.IsLinkOf label href) ∧
      ∃ e, navLinksOf (.list [hugeLabel]) = .error e ∧ e.kind = .value := by
  refine ⟨⟨_, _, _, rfl, rfl, rfl⟩, .noText .tooManyDigits, ?_, rfl⟩
  decide +kernel

end StaticSite
