/-
StaticSite.Proofs.Release.Checks — what is checked of release notes, and in which order.

Reading release notes checks them on the way, and the first check that does not
pass decides the error (`FirstFault`). `FailsBy` says so of a computation and a
list of checks. Of two computations one after the other the list is that of the
first, and then that of the second (`FailsBy.bind`); of a list that is read item
by item it is that of each item in turn (`FailsBy.mapM`). So the checks of the
notes (`Value.noteChecks`) are put together from those of their parts in the
order in which they are read, down to the texts (`failsBy_releasesOf`).
-/
import StaticSite.Proofs.Config.Shape
import StaticSite.Proofs.Release.EntryByEntry

namespace StaticSite

open StaticSite.Text

/-! ## 1. Checks -/

/-- Something that is looked at, with the error that follows if it is not so. -/
structure Check (ε : Type) where
  passed : Prop
  error : ε

/-- The error of the first of the checks that does not pass. -/
inductive FirstFault {ε : Type} : List (Check ε) → ε → Prop where
  | here {c : Check ε} {rest : List (Check ε)} (h : ¬ c.passed) : FirstFault (c :: rest) c.error
  | later {c : Check ε} {rest : List (Check ε)} {e : ε} (h : c.passed)
      (hrest : FirstFault rest e) : FirstFault (c :: rest) e

/-- The computation fails just with the error of the first check that does not pass. -/
def FailsBy {ε α : Type} (x : Except ε α) (checks : List (Check ε)) : Prop :=
  ∀ e, x = .error e ↔ FirstFault checks e

section

variable {ε α β : Type} {c : Check ε} {checks rest : List (Check ε)} {e : ε} {x : Except ε α}

theorem firstFault_cons_iff :
    FirstFault (c :: checks) e ↔
      ¬ c.passed ∧ e = c.error ∨ c.passed ∧ FirstFault checks e := by
  constructor
  · rintro (h | ⟨h, hrest⟩)
    · exact Or.inl ⟨h, rfl⟩
    · exact Or.inr ⟨h, hrest⟩
  · rintro (⟨h, rfl⟩ | ⟨h, hrest⟩)
    · exact .here h
    · exact .later h hrest

theorem firstFault_append_iff :
    FirstFault (checks ++ rest) e ↔
      FirstFault checks e ∨ (∀ c ∈ checks, c.passed) ∧ FirstFault rest e := by
  induction checks with
  | nil =>
    rw [List.nil_append, and_iff_right (List.forall_mem_nil _), or_iff_right nofun]
  | cons c checks ih =>
    rw [List.cons_append, firstFault_cons_iff, ih, firstFault_cons_iff, List.forall_mem_cons]
    tauto

/-- The first error comes from one of the checks, which does not pass. -/
theorem FirstFault.exists_mem (h : FirstFault checks e) :
    ∃ c ∈ checks, ¬ c.passed ∧ c.error = e := by
  induction h with
  | here hnot => exact ⟨_, List.mem_cons_self, hnot, rfl⟩
  | later _ _ ih =>
    obtain ⟨c, hc, hnot⟩ := ih
    exact ⟨c, List.mem_cons_of_mem _ hc, hnot⟩

theorem exists_firstFault_iff : (∃ e, FirstFault checks e) ↔ ∃ c ∈ checks, ¬ c.passed := by
  constructor
  · rintro ⟨e, he⟩
    obtain ⟨c, hc, hnot, -⟩ := he.exists_mem
    exact ⟨c, hc, hnot⟩
  · induction checks with
    | nil => rintro ⟨c, ⟨⟩, -⟩
    | cons c checks ih =>
      intro hsome
      by_cases h : c.passed
      · obtain ⟨e, he⟩ := ih (by simpa [h] using hsome)
        exact ⟨e, .later h he⟩
      · exact ⟨c.error, .here h⟩

theorem failsBy_nil (a : α) : FailsBy (.ok a : Except ε α) [] := fun _ => iff_of_false nofun nofun

theorem failsBy_of_failed (h : ¬ c.passed) (hx : x = .error c.error) :
    FailsBy x (c :: rest) := by
  intro e
  rw [hx, firstFault_cons_iff, and_iff_right h, or_iff_left fun hpassed => h hpassed.1,
    Except.error.injEq, eq_comm]

theorem failsBy_of_passed (h : c.passed) (hx : FailsBy x rest) : FailsBy x (c :: rest) := by
  intro e
  rw [hx e, firstFault_cons_iff, and_iff_right h, or_iff_right fun hnot => hnot.1 h]

namespace FailsBy

theorem fails_iff (h : FailsBy x checks) : (∃ e, x = .error e) ↔ ∃ c ∈ checks, ¬ c.passed :=
  (exists_congr h).trans exists_firstFault_iff

theorem ok_iff (h : FailsBy x checks) : (∃ a, x = .ok a) ↔ ∀ c ∈ checks, c.passed := by
  rw [← not_iff_not]
  push Not
  rw [← h.fails_iff]
  cases x <;> simp

/-- Of two computations one after the other the second one makes its checks when those of the first
have passed. -/
theorem bind {f : α → Except ε β} (hx : FailsBy x checks)
    (hf : ∀ a, x = .ok a → FailsBy (f a) rest) : FailsBy (x >>= f) (checks ++ rest) := by
  intro e
  rw [bind_error_iff, firstFault_append_iff, hx e, ← hx.ok_iff, ← exists_and_right]
  exact or_congr_right (exists_congr fun a => and_congr_right fun ha => hf a ha e)

theorem map (g : α → β) (h : FailsBy x checks) : FailsBy (x >>= fun a => .ok (g a)) checks := by
  have hnil : ∀ b : β, FailsBy (.ok b : Except ε β) [] := failsBy_nil
  have hbind := h.bind fun a _ => hnil (g a)
  rwa [List.append_nil] at hbind

/-- A list that is read item by item makes the checks of each item in turn. -/
theorem mapM {read : α → Except ε β} {items : List α} {itemChecks : α → List (Check ε)}
    (h : ∀ item, FailsBy (read item) (itemChecks item)) :
    FailsBy (items.mapM read) (items.flatMap itemChecks) := by
  induction items with
  | nil => exact failsBy_nil _
  | cons item rest ih =>
    rw [List.mapM_cons, List.flatMap_cons]
    exact (h item).bind fun result _ => ih.map (result :: ·)

end FailsBy

end

/-! ## 2. Texts and programs -/

/-- Can the value be written? -/
def textCheck (v : Value) : Check ReleaseError where
  passed := v.hasText = true
  error := .noText .tooManyDigits

/-- Targets are a list or a single text, and all of them can be written. -/
def targetsChecks (context platform : String) (v : Value) : List (Check ReleaseError) :=
  { passed := ∃ targets, targetsOf? v = some targets
    error := .targetsNotList context platform } ::
  ((targetsOf? v).getD []).map textCheck

/-- Programs are null or a mapping. Its keys are the platforms, which can be written, with the
targets under them. -/
def binariesChecks (context : String) (v : Value) : List (Check ReleaseError) :=
  { passed := v = .null ∨ ∃ entries, v.entries? = some entries
    error := .binariesNotMapping context } ::
  (v.entries?.getD []).flatMap fun entry =>
    textCheck entry.1 :: targetsChecks context entry.1.shown entry.2

theorem failsBy_noteText (v : Value) : FailsBy (noteText v) [textCheck v] := by
  cases htext : v.hasText with
  | true =>
    rw [noteText_ok_iff.mpr ⟨htext, rfl⟩]
    exact failsBy_of_passed htext (failsBy_nil _)
  | false =>
    rw [noteText, Value.text, htext]
    exact failsBy_of_failed (by simp [textCheck, htext]) rfl

theorem failsBy_noteTexts (items : List Value) :
    FailsBy (noteTexts items) (items.map textCheck) := by
  rw [noteTexts_eq_mapM, List.map_eq_flatMap]
  exact FailsBy.mapM failsBy_noteText

/-- The targets that stand under a platform. -/
def targetsUnder (context platform : String) (targets : Value) :
    Except ReleaseError (List String) :=
  match targetsOf? targets with
  | some targets => noteTexts targets
  | none => .error (.targetsNotList context platform)

theorem addTargets_cons (context : String) (table : Binaries) (entry : Value × Value)
    (rest : List (Value × Value)) :
    addTargets context table (entry :: rest) =
      noteText entry.1 >>= fun platform => targetsUnder context platform entry.2 >>= fun targets =>
        addTargets context (putTargets platform targets table) rest := by
  rw [addTargets]
  unfold targetsUnder
  cases noteText entry.1 with
  | error e => rfl
  | ok platform =>
    rw [ok_bind]
    cases targetsOf? entry.2 with
    | none => rfl
    | some targets =>
      cases htexts : noteTexts targets with
      | error e => simp only [htexts]; rfl
      | ok texts => simp only [htexts]; rfl

theorem failsBy_targetsUnder (context platform : String) (v : Value) :
    FailsBy (targetsUnder context platform v) (targetsChecks context platform v) := by
  rw [targetsUnder, targetsChecks]
  cases targetsOf? v with
  | none => exact failsBy_of_failed (by simp) rfl
  | some targets => exact failsBy_of_passed ⟨targets, rfl⟩ (failsBy_noteTexts targets)

theorem failsBy_addTargets (context : String) (table : Binaries) (entries : List (Value × Value)) :
    FailsBy (addTargets context table entries)
      (entries.flatMap fun entry =>
        textCheck entry.1 :: targetsChecks context entry.1.shown entry.2) := by
  induction entries generalizing table with
  | nil => exact failsBy_nil _
  | cons entry rest ih =>
    rw [addTargets_cons, List.flatMap_cons]
    refine (failsBy_noteText entry.1).bind fun platform hplatform => ?_
    obtain ⟨-, rfl⟩ := noteText_ok_iff.mp hplatform
    exact (failsBy_targetsUnder context _ entry.2).bind fun targets _ => ih _

theorem failsBy_binariesOf (context : String) (v : Value) :
    FailsBy (binariesOf context v) (binariesChecks context v) := by
  by_cases hnull : v = .null
  · subst hnull
    exact failsBy_of_passed (Or.inl rfl) (failsBy_nil _)
  · rw [binariesOf, binariesChecks]
    · cases hentries : v.entries? with
      | none => exact failsBy_of_failed (by simp [hnull]) rfl
      | some entries =>
        exact failsBy_of_passed (Or.inr ⟨entries, rfl⟩) (failsBy_addTargets context [] entries)
    · exact hnull

/-! ## 3. Prose -/

/-- Can the value be taken apart, if it is not void? -/
def partsCheck (v : Value) : Check ReleaseError where
  passed := v.isVoid = true ∨ ∃ parts, v.parts? = some parts
  error := .noParts

/-- The paragraphs are parts of the value and can be written. -/
def introChecks (v : Value) : List (Check ReleaseError) :=
  partsCheck v :: (v.parts?.getD []).map textCheck

/-- A section has a heading and a list of items, and all of them can be written. -/
def sectionChecks (version : String) (v : Value) : List (Check ReleaseError) :=
  let fields := v.entries?.getD []
  let list := noteField "items" fields
  { passed := (∃ heading, Value.field? "heading" fields = some heading) ∧
      ∃ items, list.items? = some items
    error := .sectionIncomplete version } ::
  textCheck (noteField "heading" fields) :: (list.items?.getD []).map textCheck

/-- The sections are parts of the value. -/
def sectionsChecks (version : String) (v : Value) : List (Check ReleaseError) :=
  partsCheck v :: (v.parts?.getD []).flatMap (sectionChecks version)

section

variable {v : Value} {parts : List Value}

theorem items?_of_isVoid (h : v.isVoid = true) : v.items?.getD [] = [] := by
  fun_induction Value.items? v with
  | case1 items => exact List.isEmpty_iff.mp h
  | case2 mark v ih => exact ih h
  | case3 => rfl

theorem members?_of_isVoid (h : v.isVoid = true) : v.members?.getD [] = [] := by
  fun_induction Value.members? v with
  | case1 members => exact List.isEmpty_iff.mp h
  | case2 mark v ih => exact ih h
  | case3 => rfl

theorem mem_getD_orElse {w : Value} {a b : Option (List Value)} (h : w ∈ (a <|> b).getD []) :
    w ∈ a.getD [] ∨ w ∈ b.getD [] := by
  cases a with
  | none => exact Or.inr h
  | some items => exact Or.inl h

/-- What a value holds, by its kind. -/
theorem mem_parts_cases {w : Value} (h : w ∈ v.parts?.getD []) :
    (∃ s, v = .string s ∧ ∃ c ∈ s.toList, w = .string (String.singleton c)) ∨
      (∃ content, v = .bytes content ∧ ∃ b ∈ content, w = .int (b.toNat : Nat)) ∨
      (∃ items, v = .fixedList items ∧ w ∈ items) ∨
      w ∈ v.items?.getD [] ∨ w ∈ v.members?.getD [] ∨
      ∃ entry ∈ v.entries?.getD [], w = entry.1 := by
  cases v with
  | string s =>
    obtain ⟨c, hc, rfl⟩ := List.mem_map.mp h
    exact Or.inl ⟨s, rfl, c, hc, rfl⟩
  | bytes content =>
    obtain ⟨b, hb, rfl⟩ := List.mem_map.mp h
    exact Or.inr (Or.inl ⟨content, rfl, b, hb, rfl⟩)
  | fixedList items => exact Or.inr (Or.inr (Or.inl ⟨items, rfl, h⟩))
  | _ =>
    refine Or.inr (Or.inr (Or.inr ((mem_getD_orElse h).imp_right fun hrest => ?_)))
    refine (mem_getD_orElse hrest).imp_right fun hkey => ?_
    have hkeys := Option.getD_map (List.map Prod.fst) [] (Value.entries? _) ▸ hkey
    obtain ⟨entry, hentry, rfl⟩ := List.mem_map.mp hkeys
    exact ⟨entry, hentry, rfl⟩

/-- A void value has no parts. -/
theorem parts?_of_isVoid (h : v.isVoid = true) : v.parts?.getD [] = [] := by
  rw [List.eq_nil_iff_forall_not_mem]
  intro w hw
  rcases mem_parts_cases hw with ⟨s, rfl, c, hc, -⟩ | ⟨content, rfl, b, hb, -⟩ |
    ⟨items, rfl, hitem⟩ | hitem | hmember | ⟨entry, hentry, -⟩
  · rw [String.isEmpty_iff.mp h] at hc
    cases hc
  · rw [List.isEmpty_iff.mp h] at hb
    cases hb
  · rw [List.isEmpty_iff.mp h] at hitem
    cases hitem
  · rw [items?_of_isVoid h] at hitem
    cases hitem
  · rw [members?_of_isVoid h] at hmember
    cases hmember
  · rw [entries?_of_isVoid h] at hentry
    cases hentry

theorem Value.Holds.eq (h : v.Holds parts) : parts = v.parts?.getD [] := by
  obtain ⟨hvoid, rfl⟩ | ⟨-, hparts⟩ := h
  · rw [parts?_of_isVoid hvoid]
  · rw [hparts, Option.getD_some]

theorem failsBy_membersOf (v : Value) : FailsBy (membersOf v) [partsCheck v] := by
  rw [membersOf]
  cases hvoid : v.isVoid with
  | true => exact failsBy_of_passed (Or.inl hvoid) (failsBy_nil _)
  | false =>
    cases hparts : v.parts? with
    | none => exact failsBy_of_failed (by simp [partsCheck, hvoid, hparts]) rfl
    | some parts => exact failsBy_of_passed (Or.inr ⟨parts, hparts⟩) (failsBy_nil _)

theorem failsBy_introOf (v : Value) : FailsBy (introOf v) (introChecks v) := by
  rw [introOf_eq]
  refine (failsBy_membersOf v).bind fun paragraphs hparagraphs => ?_
  rw [(membersOf_ok_iff.mp hparagraphs).eq]
  exact (failsBy_noteTexts _).map _

theorem failsBy_sectionOf (version : String) (v : Value) :
    FailsBy (sectionOf version v) (sectionChecks version v) := by
  rw [sectionOf_eq, sectionChecks]
  cases hheading : Value.field? "heading" (v.entries?.getD []) with
  | none => exact failsBy_of_failed (by simp) rfl
  | some heading =>
    cases hitems : (noteField "items" (v.entries?.getD [])).items? with
    | none => exact failsBy_of_failed (by simp) rfl
    | some items =>
      refine failsBy_of_passed ⟨⟨heading, rfl⟩, items, rfl⟩ ?_
      rw [noteField, hheading, Option.getD_some]
      exact (failsBy_noteText heading).bind fun title _ => (failsBy_noteTexts items).map _

theorem failsBy_sectionsOf (version : String) (parts : List Value) :
    FailsBy (sectionsOf version parts) (parts.flatMap (sectionChecks version)) := by
  rw [sectionsOf_eq_mapM]
  exact FailsBy.mapM (failsBy_sectionOf version)

end

/-! ## 4. Notes -/

/-- A release has a version that is not void, and all its texts can be written. The version stands
in the errors of its sections and programs. -/
def releaseChecks (index : Nat) (fields : List (Value × Value)) : List (Check ReleaseError) :=
  let version := noteField "version" fields
  { passed := version.isVoid = false
    error := .noVersion index } ::
  textCheck version ::
  introChecks (noteField "intro" fields) ++
    (sectionsChecks (strip version.shown) (noteField "sections" fields) ++
      binariesChecks (strip version.shown ++ " binaries") (noteField "binaries" fields))

/-- The programs for all releases come first, and then the releases one after the other. An entry
that is no mapping has no version. -/
def releasesChecks (fields : List (Value × Value)) : List (Check ReleaseError) :=
  let entries := noteField "releases" fields
  binariesChecks "binaries" (noteField "binaries" fields) ++
    { passed := entries.isVoid = true ∨ ∃ items, entries.items? = some items
      error := .releasesNotList } ::
    (entries.items?.getD []).zipIdx.flatMap fun entry =>
      releaseChecks entry.2 (entry.1.entries?.getD [])

/-- All that is checked of release notes, in the order in which they are read. -/
def Value.noteChecks (v : Value) : List (Check ReleaseError) :=
  { passed := v.IsVoidOrMapping
    error := .notMapping } :: releasesChecks (v.entries?.getD [])

theorem failsBy_programsOf (usual : Binaries) (version : String) (fields : List (Value × Value)) :
    FailsBy (programsOf usual version fields)
      (binariesChecks (version ++ " binaries") (noteField "binaries" fields)) := by
  rw [programsOf, noteField]
  cases Value.field? "binaries" fields with
  | none => exact failsBy_of_passed (Or.inl rfl) (failsBy_nil _)
  | some own => exact failsBy_binariesOf _ own

theorem failsBy_versionOf (index : Nat) (fields : List (Value × Value)) :
    FailsBy (versionOf index fields)
      [{ passed := (noteField "version" fields).isVoid = false, error := .noVersion index },
        textCheck (noteField "version" fields)] := by
  rw [versionOf_eq]
  cases hvoid : (noteField "version" fields).isVoid with
  | true => exact failsBy_of_failed (by simp) rfl
  | false => exact failsBy_of_passed rfl ((failsBy_noteText _).map strip)

theorem failsBy_ofFields (index : Nat) (usual : Binaries) (fields : List (Value × Value)) :
    FailsBy (Release.ofFields index usual fields) (releaseChecks index fields) := by
  rw [Release.ofFields_eq]
  refine (failsBy_versionOf index fields).bind fun version hversion => ?_
  obtain rfl : version = strip (noteField "version" fields).shown := by
    obtain ⟨v, text, hv, -, ⟨-, rfl⟩, rfl⟩ := versionOf_ok_iff.mp hversion
    rw [noteField, hv, Option.getD_some]
  refine (failsBy_introOf _).bind fun intro _ => ?_
  refine (failsBy_membersOf _).bind fun members hmembers => ?_
  rw [(membersOf_ok_iff.mp hmembers).eq]
  refine (failsBy_sectionsOf _ _).bind fun sections _ => ?_
  exact (failsBy_programsOf usual _ fields).map _

theorem failsBy_ofValue (index : Nat) (usual : Binaries) (v : Value) :
    FailsBy (Release.ofValue index usual v) (releaseChecks index (v.entries?.getD [])) := by
  rw [Release.ofValue]
  cases v.entries? with
  | none =>
    refine failsBy_of_failed ?_ rfl
    simp [noteField, Value.field?, Value.findKey, Value.isVoid]
  | some fields => exact failsBy_ofFields index usual fields

theorem failsBy_releasesOfEntries (fields : List (Value × Value)) :
    FailsBy (releasesOfEntries fields) (releasesChecks fields) := by
  rw [releasesOfEntries_eq]
  refine (failsBy_binariesOf "binaries" _).bind fun usual _ => ?_
  cases hitems : (noteField "releases" fields).items? with
  | none =>
    split
    · rename_i hvoid
      exact failsBy_of_passed (Or.inl hvoid) (failsBy_nil _)
    · rename_i hvoid
      exact failsBy_of_failed (by simp [hvoid]) rfl
  | some items =>
    refine failsBy_of_passed (Or.inr ⟨items, rfl⟩) ?_
    have hread : FailsBy (releasesFrom usual 0 items)
        (items.zipIdx.flatMap fun entry => releaseChecks entry.2 (entry.1.entries?.getD [])) := by
      rw [releasesFrom_eq_mapM]
      exact FailsBy.mapM fun entry => failsBy_ofValue entry.2 usual entry.1
    split
    · rename_i hvoid
      rw [isVoid_of_items? hitems, List.isEmpty_iff] at hvoid
      subst hvoid
      exact failsBy_nil _
    · exact hread

/-- The first check of the notes that does not pass decides the error. -/
theorem failsBy_releasesOf (v : Value) : FailsBy (releasesOf v) v.noteChecks := by
  rw [releasesOf]
  by_cases h : v.IsVoidOrMapping
  · refine failsBy_of_passed h ?_
    split
    · rename_i hvoid
      rw [entries?_of_isVoid hvoid]
      exact failsBy_releasesOfEntries []
    · rename_i hvoid
      obtain ⟨fields, hfields⟩ := h.resolve_left hvoid
      rw [hfields]
      exact failsBy_releasesOfEntries fields
  · obtain ⟨hvoid, hentries⟩ := Value.not_isVoidOrMapping h
    refine failsBy_of_failed h ?_
    simp [hvoid, hentries]

end StaticSite
