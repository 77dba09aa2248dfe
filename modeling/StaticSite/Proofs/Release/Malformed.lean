/-
StaticSite.Proofs.Release.Malformed — malformed release notes, and how they are reported.

Malformed notes should be reported by an error of the configuration
(`Value.ReportsFaults`). Only two checks have errors of other kinds: that a value
can be written, and that it can be taken apart, which is asked of the paragraphs
and the sections of a release. Texts and mappings can be taken apart as well as
lists, so that nothing may be reported of those. All is well if no number has too
many digits and the paragraphs and sections are lists, or void; in general it
depends on which check is the first that does not pass (`reportsFaults_iff`).
-/
import StaticSite.Proofs.Release.Checks

namespace StaticSite

open StaticSite.Text

/-! ## 1. Values that can be written -/

namespace Value

section

variable {v : Value} {items : List Value} {entries : List (Value × Value)}

theorem haveText_iff : haveText items = true ↔ ∀ w ∈ items, w.hasText = true := by
  induction items with
  | nil => exact iff_of_true rfl (List.forall_mem_nil _)
  | cons item rest ih => rw [haveText, Bool.and_eq_true, ih, List.forall_mem_cons]

theorem entriesHaveText_iff :
    entriesHaveText entries = true ↔
      ∀ entry ∈ entries, entry.1.hasText = true ∧ entry.2.hasText = true := by
  induction entries with
  | nil => exact iff_of_true rfl (List.forall_mem_nil _)
  | cons entry rest ih =>
    rw [entriesHaveText, Bool.and_eq_true, Bool.and_eq_true, ih, List.forall_mem_cons]

theorem hasText_of_mem_items (h : v.hasText = true) : ∀ w ∈ v.items?.getD [], w.hasText = true := by
  fun_induction items? v with
  | case1 items => exact haveText_iff.mp h
  | case2 mark v ih => exact ih h
  | case3 => exact List.forall_mem_nil _

theorem hasText_of_mem_members (h : v.hasText = true) :
    ∀ w ∈ v.members?.getD [], w.hasText = true := by
  fun_induction members? v with
  | case1 members => exact haveText_iff.mp h
  | case2 mark v ih => exact ih h
  | case3 => exact List.forall_mem_nil _

theorem hasText_of_mem_entries (h : v.hasText = true) :
    ∀ entry ∈ v.entries?.getD [], entry.1.hasText = true ∧ entry.2.hasText = true := by
  fun_induction entries? v with
  | case1 entries | case2 entries => exact entriesHaveText_iff.mp h
  | case3 mark v ih => exact ih h
  | case4 => exact List.forall_mem_nil _

theorem isWritable_byte (b : UInt8) : Number.isWritable (b.toNat : Nat) = true := by
  have hbyte : b.toNat < Number.maxDigits := Nat.lt_trans b.toNat_lt (by decide)
  rw [Number.isWritable, decide_eq_true_eq, Int.natAbs_natCast]
  -- as it stands the power would be worked out
  generalize Number.maxDigits = digits at hbyte ⊢
  exact Nat.lt_trans hbyte (Nat.lt_pow_self (by decide))

/-- The parts of a value that can be written can be written, too. -/
theorem hasText_of_mem_parts (h : v.hasText = true) : ∀ w ∈ v.parts?.getD [], w.hasText = true := by
  intro w hw
  rcases mem_parts_cases hw with ⟨s, rfl, c, -, rfl⟩ | ⟨content, rfl, b, -, rfl⟩ |
    ⟨items, rfl, hitem⟩ | hitem | hmember | ⟨entry, hentry, rfl⟩
  · rfl
  · exact isWritable_byte b
  · exact haveText_iff.mp h w hitem
  · exact hasText_of_mem_items h w hitem
  · exact hasText_of_mem_members h w hmember
  · exact (hasText_of_mem_entries h entry hentry).1

theorem mem_of_findKey {key w : Value} (h : findKey key entries = some w) :
    ∃ entry ∈ entries, entry.2 = w := by
  fun_induction findKey key entries with
  | case1 => cases h
  | case2 k u rest hkey =>
    cases h
    exact ⟨_, List.mem_cons_self, rfl⟩
  | case3 k u rest hkey ih =>
    obtain ⟨entry, hentry, heq⟩ := ih h
    exact ⟨entry, List.mem_cons_of_mem _ hentry, heq⟩

end

end Value

theorem hasText_noteField {fields : List (Value × Value)} (name : String)
    (h : ∀ entry ∈ fields, entry.1.hasText = true ∧ entry.2.hasText = true) :
    (noteField name fields).hasText = true := by
  rw [noteField]
  cases hfield : Value.field? name fields with
  | none => rfl
  | some w =>
    obtain ⟨entry, hentry, rfl⟩ := Value.mem_of_findKey hfield
    exact (h entry hentry).2

/-! ## 2. Checks that are reported -/

/-- The errors of the configuration are those that have a wording. -/
theorem ReleaseError.kind_eq_config_iff {e : ReleaseError} :
    e.kind = .config ↔ ∃ text, e.message = some text := by
  cases e <;> simp [kind, message]

/-- The check passes, or it is an error of the configuration that it does not. -/
def Check.IsReported (c : Check ReleaseError) : Prop :=
  c.passed ∨ c.error.kind = .config

section

variable {v : Value} {items : List Value} {context platform version : String} {index : Nat}
  {fields : List (Value × Value)} {c : Check ReleaseError}

theorem isReported_texts (h : ∀ w ∈ items, w.hasText = true) :
    ∀ c ∈ items.map textCheck, c.IsReported := by
  intro c hc
  obtain ⟨w, hw, rfl⟩ := List.mem_map.mp hc
  exact Or.inl (h w hw)

theorem isReported_targets (h : v.hasText = true) :
    ∀ c ∈ targetsChecks context platform v, c.IsReported := by
  rw [targetsChecks, List.forall_mem_cons]
  refine ⟨Or.inr rfl, isReported_texts ?_⟩
  fun_cases targetsOf? v with
  | case1 target => exact List.forall_mem_singleton.mpr rfl
  | case2 => exact Value.hasText_of_mem_items h

theorem isReported_binaries (h : v.hasText = true) :
    ∀ c ∈ binariesChecks context v, c.IsReported := by
  rw [binariesChecks, List.forall_mem_cons, List.forall_mem_flatMap]
  refine ⟨Or.inr rfl, fun entry hentry => ?_⟩
  obtain ⟨hkey, htargets⟩ := Value.hasText_of_mem_entries h entry hentry
  exact List.forall_mem_cons.mpr ⟨Or.inl hkey, isReported_targets htargets⟩

theorem isReported_section (h : v.hasText = true) :
    ∀ c ∈ sectionChecks version v, c.IsReported := by
  have hfields := Value.hasText_of_mem_entries h
  rw [sectionChecks, List.forall_mem_cons, List.forall_mem_cons]
  exact ⟨Or.inr rfl, Or.inl (hasText_noteField _ hfields),
    isReported_texts (Value.hasText_of_mem_items (hasText_noteField _ hfields))⟩

theorem isReported_intro (h : v.hasText = true) (hparts : (partsCheck v).passed) :
    ∀ c ∈ introChecks v, c.IsReported :=
  List.forall_mem_cons.mpr
    ⟨Or.inl hparts, isReported_texts (Value.hasText_of_mem_parts h)⟩

theorem isReported_sections (h : v.hasText = true) (hparts : (partsCheck v).passed) :
    ∀ c ∈ sectionsChecks version v, c.IsReported := by
  rw [sectionsChecks, List.forall_mem_cons, List.forall_mem_flatMap]
  exact ⟨Or.inl hparts, fun part hpart =>
    isReported_section (Value.hasText_of_mem_parts h part hpart)⟩

theorem isReported_release
    (h : ∀ entry ∈ fields, entry.1.hasText = true ∧ entry.2.hasText = true)
    (hintro : (partsCheck (noteField "intro" fields)).passed)
    (hsections : (partsCheck (noteField "sections" fields)).passed) :
    ∀ c ∈ releaseChecks index fields, c.IsReported := by
  rw [releaseChecks, List.forall_mem_append, List.forall_mem_append, List.forall_mem_cons,
    List.forall_mem_cons]
  exact ⟨⟨Or.inr rfl, Or.inl (hasText_noteField _ h),
    isReported_intro (hasText_noteField _ h) hintro⟩,
    isReported_sections (hasText_noteField _ h) hsections,
    isReported_binaries (hasText_noteField _ h)⟩

end

/-! ## 3. Parts that are no lists -/

/-- The value is not void, and it is no list. -/
def Value.IsLoose (v : Value) : Prop :=
  v.isVoid = false ∧ v.items? = none

/-- A release has paragraphs or sections that are not void and no list. -/
def Value.HasLooseParts (v : Value) : Prop :=
  ∃ entries, (noteField "releases" (v.entries?.getD [])).items? = some entries ∧
    ∃ entry ∈ entries, ∃ fields, entry.entries? = some fields ∧
      ∃ w, (Value.field? "intro" fields = some w ∨ Value.field? "sections" fields = some w) ∧
        w.IsLoose

/-- The value gives releases, or an error of the configuration, and it gives that for sure if a
release has paragraphs or sections that are no list. -/
def Value.ReportsFaults (v : Value) : Prop :=
  ((∃ releases, releasesOf v = .ok releases) ∨ ∃ e, releasesOf v = .error e ∧ e.kind = .config) ∧
    (v.HasLooseParts → ∃ e, releasesOf v = .error e ∧ e.kind = .config)

section

variable {v : Value}

theorem passed_of_not_isLoose (h : ¬ v.IsLoose) : (partsCheck v).passed := by
  cases hvoid : v.isVoid with
  | true => exact Or.inl hvoid
  | false =>
    cases hitems : v.items? with
    | none => exact absurd ⟨hvoid, hitems⟩ h
    | some items => exact Or.inr ⟨items, parts?_of_items? hitems⟩

theorem not_isLoose_noteField {name : String} {fields : List (Value × Value)}
    (h : ∀ w, Value.field? name fields = some w → ¬ w.IsLoose) :
    ¬ (noteField name fields).IsLoose := by
  rw [noteField]
  cases hfield : Value.field? name fields with
  | none => exact fun hloose => absurd hloose.1 (by decide)
  | some w => exact h w hfield

/-- Without loose parts, no entry has them, whatever it is. -/
theorem not_isLoose_of_mem {entry : Value} {name : String} (h : ¬ v.HasLooseParts)
    (hname : name = "intro" ∨ name = "sections")
    (hentry : entry ∈ (noteField "releases" (v.entries?.getD [])).items?.getD []) :
    ¬ (noteField name (entry.entries?.getD [])).IsLoose := by
  refine not_isLoose_noteField fun w hw hloose => h ?_
  cases hentries : (noteField "releases" (v.entries?.getD [])).items? with
  | none =>
    rw [hentries] at hentry
    cases hentry
  | some entries =>
    rw [hentries] at hentry
    cases hfields : entry.entries? with
    | none =>
      rw [hfields] at hw
      cases hw
    | some fields =>
      rw [hfields] at hw
      refine ⟨entries, hentries, entry, hentry, fields, hfields, w, ?_, hloose⟩
      rcases hname with rfl | rfl
      · exact Or.inl hw
      · exact Or.inr hw

theorem isReported_notes (htext : v.hasText = true) (h : ¬ v.HasLooseParts) :
    ∀ c ∈ v.noteChecks, c.IsReported := by
  have hfields := Value.hasText_of_mem_entries htext
  have hentries := Value.hasText_of_mem_items (hasText_noteField "releases" hfields)
  rw [Value.noteChecks, List.forall_mem_cons, releasesChecks, List.forall_mem_append,
    List.forall_mem_cons, List.forall_mem_flatMap]
  refine ⟨Or.inr rfl, isReported_binaries (hasText_noteField _ hfields), Or.inr rfl, ?_⟩
  intro entry hentry
  have hmem := List.fst_mem_of_mem_zipIdx hentry
  exact isReported_release (Value.hasText_of_mem_entries (hentries _ hmem))
    (passed_of_not_isLoose (not_isLoose_of_mem h (Or.inl rfl) hmem))
    (passed_of_not_isLoose (not_isLoose_of_mem h (Or.inr rfl) hmem))

theorem ok_or_config_iff :
    ((∃ releases, releasesOf v = .ok releases) ∨ ∃ e, releasesOf v = .error e ∧ e.kind = .config) ↔
      ∀ e, FirstFault v.noteChecks e → e.kind = .config := by
  simp only [← failsBy_releasesOf v _]
  cases releasesOf v with
  | ok releases => exact iff_of_true (Or.inl ⟨releases, rfl⟩) nofun
  | error e => simp

/-- Malformed notes are reported just if the first check that does not pass has an error of the
configuration, and some check does not pass when a release has paragraphs or sections that are no
list. So they are if all of the notes can be written and there is no such release. -/
theorem reportsFaults_iff (v : Value) :
    (v.ReportsFaults ↔
      (∀ e, FirstFault v.noteChecks e → e.kind = .config) ∧
        (v.HasLooseParts → ∃ c ∈ v.noteChecks, ¬ c.passed)) ∧
    (v.hasText = true → ¬ v.HasLooseParts → v.ReportsFaults) := by
  have hiff : v.ReportsFaults ↔
      (∀ e, FirstFault v.noteChecks e → e.kind = .config) ∧
        (v.HasLooseParts → ∃ c ∈ v.noteChecks, ¬ c.passed) := by
    rw [Value.ReportsFaults, ok_or_config_iff, ← (failsBy_releasesOf v).fails_iff]
    refine and_congr_right fun hconfig => imp_congr_right fun _ => exists_congr fun e => ?_
    exact and_iff_left_of_imp fun he => hconfig e ((failsBy_releasesOf v e).mp he)
  refine ⟨hiff, fun htext hloose => hiff.mpr ⟨fun e he => ?_, fun h => absurd h hloose⟩⟩
  obtain ⟨c, hc, hnot, rfl⟩ := he.exists_mem
  exact (isReported_notes htext hloose c hc).resolve_left hnot

end

/-- Notes of one release with something in the place of its paragraphs. -/
def notesWithIntro (intro : Value) : Value :=
  .map [(.string "releases",
    .list [.map [(.string "version", .string "v1"), (.string "intro", intro)]])]

theorem reportsFaults_iff_listIntro :
    (notesWithIntro (.list [.string "Soon"])).hasText = true ∧
      ¬ (notesWithIntro (.list [.string "Soon"])).HasLooseParts ∧
      (notesWithIntro (.list [.string "Soon"])).ReportsFaults := by
  have htext : (notesWithIntro (.list [.string "Soon"])).hasText = true := by decide
  have hloose : ¬ (notesWithIntro (.list [.string "Soon"])).HasLooseParts := by
    rintro ⟨_, ⟨⟩, entry, hentry, fields, hfields, w, hfield, -, hitems⟩
    obtain rfl := List.mem_singleton.mp hentry
    cases hfields
    rcases hfield with hintro | hsections
    · cases hintro
      cases hitems
    · cases hsections
  exact ⟨htext, hloose, (reportsFaults_iff _).2 htext hloose⟩

/-- A text is taken apart into its characters. -/
theorem releasesOf_textIntro :
    releasesOf (notesWithIntro (.string "Soon")) =
      .ok [⟨"v1", ["<p>S</p>", "<p>o</p>", "<p>o</p>", "<p>n</p>"], [], []⟩] := by
  decide +kernel

/-- A number in the place of the paragraphs is an error of another kind, and a text is none. -/
theorem not_reportsFaults_intro :
    (∃ e, releasesOf (notesWithIntro (.int 5)) = .error e ∧ e.kind = .type) ∧
      ¬ (notesWithIntro (.int 5)).ReportsFaults ∧
      ¬ (notesWithIntro (.string "Soon")).ReportsFaults := by
  have hnumber : releasesOf (notesWithIntro (.int 5)) = .error .noParts := by decide +kernel
  refine ⟨⟨.noParts, hnumber, rfl⟩, ?_, ?_⟩
  · rintro ⟨hreported, -⟩
    rw [hnumber] at hreported
    obtain ⟨releases, ⟨⟩⟩ | ⟨e, ⟨⟩, hkind⟩ := hreported
    cases hkind
  · rintro ⟨-, hloose⟩
    obtain ⟨e, he, -⟩ := hloose
      ⟨_, rfl, _, List.mem_cons_self, _, rfl, .string "Soon", Or.inl rfl, rfl, rfl⟩
    rw [releasesOf_textIntro] at he
    cases he

end StaticSite
