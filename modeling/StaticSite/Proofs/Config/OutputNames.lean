/-
StaticSite.Proofs.Config.OutputNames — the table of output files, entry by entry.

An entry of the table names an output file if its payload is a text or the
`output` of a mapping, and that is not blank (`Names`). Entries whose keys have
the same text are about the same page. Reading one more entry puts its name in
the place of the page, or at the end if the page is new, and changes nothing if
the entry names no file (`IsTableOf.concat`). So the table has the pages
that some entry names a file for, in the order of their first such entries, each
with the name of its last one (`IsTableOf`), and the output file of a page is
that or the usual one (`pageOutputsOf_lastNamed`).
-/
import StaticSite.Proofs.Config.Links

namespace StaticSite

/-! ## 1. What the entries name -/

/-- The entry is about the page with the key and names a file for it: by a text, or by the `output`
of a mapping. -/
def Names (key name : String) (entry : Value × Value) : Prop :=
  entry.1.shown = key ∧ ∃ output, entry.2.output? = some output ∧ output.Gives name

/-- The last entry that names a file for the page with the key, names this one. -/
def IsLastNamed (entries : List (Value × Value)) (key name : String) : Prop :=
  ∃ before entry after, entries = before ++ entry :: after ∧ Names key name entry ∧
    ∀ later ∈ after, ∀ other, ¬ Names key other later

/-- A file is named for the page with the first key before any is named for that with the
second. -/
def IsNamedBefore (entries : List (Value × Value)) (key key' : String) : Prop :=
  ∃ before entry after, entries = before ++ entry :: after ∧ (∃ name, Names key name entry) ∧
    ∀ earlier ∈ before ++ [entry], ∀ name, ¬ Names key' name earlier

section

variable {entries : List (Value × Value)} {entry : Value × Value} {key key' name name' : String}

theorem Names.unique (h : Names key name entry) (h' : Names key' name' entry) :
    key = key' ∧ name = name' := by
  obtain ⟨hkey, output, houtput, hname⟩ := h
  obtain ⟨hkey', output', houtput', hname'⟩ := h'
  rw [houtput, Option.some.injEq] at houtput'
  subst houtput'
  exact ⟨hkey.symm.trans hkey', hname.stripped.symm.trans hname'.stripped⟩

/-- Where one entry more can be taken apart: before it, or at it. -/
theorem concat_eq_append_cons_iff {x : Value × Value} {before after : List (Value × Value)} :
    entries ++ [entry] = before ++ x :: after ↔
      (after = [] ∧ entries = before ∧ entry = x) ∨
        ∃ rest, after = rest ++ [entry] ∧ entries = before ++ x :: rest := by
  constructor
  · intro h
    rcases List.eq_nil_or_concat after with rfl | ⟨rest, last, rfl⟩
    · obtain ⟨rfl, hlast⟩ := List.append_inj' h rfl
      exact Or.inl ⟨rfl, rfl, List.singleton_inj.mp hlast⟩
    · rw [List.concat_eq_append, ← List.cons_append, ← List.append_assoc] at h
      obtain ⟨rfl, hlast⟩ := List.append_inj' h rfl
      rw [List.singleton_inj.mp hlast]
      exact Or.inr ⟨rest, List.concat_eq_append, rfl⟩
  · rintro (⟨rfl, rfl, rfl⟩ | ⟨rest, rfl, rfl⟩)
    · rfl
    · rw [List.append_assoc, List.cons_append]

theorem isLastNamed_concat :
    IsLastNamed (entries ++ [entry]) key name ↔
      Names key name entry ∨ (∀ other, ¬ Names key other entry) ∧ IsLastNamed entries key name := by
  constructor
  · rintro ⟨before, last, after, heq, hnames, hafter⟩
    rcases concat_eq_append_cons_iff.mp heq with ⟨-, -, rfl⟩ | ⟨rest, rfl, rfl⟩
    · exact Or.inl hnames
    · obtain ⟨hrest, hentry⟩ := List.forall_mem_append.mp hafter
      exact Or.inr ⟨hentry entry List.mem_cons_self, before, last, rest, rfl, hnames, hrest⟩
  · rintro (hnames | ⟨hnot, before, last, after, rfl, hnames, hafter⟩)
    · exact ⟨entries, entry, [], rfl, hnames, List.forall_mem_nil _⟩
    · refine ⟨before, last, after ++ [entry], ?_, hnames, ?_⟩
      · rw [List.append_assoc, List.cons_append]
      · exact List.forall_mem_append.mpr ⟨hafter, List.forall_mem_singleton.mpr hnot⟩

/-- There is a last name just if there is one at all. -/
theorem exists_isLastNamed_iff :
    (∃ name, IsLastNamed entries key name) ↔ ∃ entry ∈ entries, ∃ name, Names key name entry := by
  induction entries using List.reverseRecOn with
  | nil => simp [IsLastNamed]
  | append_singleton entries entry ih =>
    simp only [List.mem_append, List.mem_singleton, or_and_right, exists_or, exists_eq_left, ← ih,
      isLastNamed_concat]
    by_cases hentry : ∃ name, Names key name entry
    · simp [hentry]
    · simp [not_exists.mp hentry]

theorem IsNamedBefore.concat (h : IsNamedBefore entries key key') (entry : Value × Value) :
    IsNamedBefore (entries ++ [entry]) key key' := by
  obtain ⟨before, first, after, rfl, hnames, hnot⟩ := h
  exact ⟨before, first, after ++ [entry], by simp, hnames, hnot⟩

/-- Whatever has been named before is named before what has not. -/
theorem isNamedBefore_of_not (h : ∃ entry ∈ entries, ∃ name, Names key name entry)
    (hnot : ∀ entry ∈ entries, ∀ name, ¬ Names key' name entry) :
    IsNamedBefore entries key key' := by
  obtain ⟨entry, hentry, hnames⟩ := h
  obtain ⟨before, after, rfl⟩ := List.append_of_mem hentry
  exact ⟨before, entry, after, rfl, hnames, fun earlier hearlier =>
    hnot earlier (by simp at hearlier ⊢; tauto)⟩

theorem not_isNamedBefore_self : ¬ IsNamedBefore entries key key := by
  rintro ⟨before, entry, after, -, ⟨name, hnames⟩, hnot⟩
  exact hnot entry (by simp) name hnames

end

/-! ## 2. The table -/

section

variable {table table' : List (String × String)} {entries before after : List (Value × Value)}
  {entry : Value × Value} {key name : String} {v : Value}

theorem outputName?_putOutputName (k key name : String) (table : List (String × String)) :
    outputName? k (putOutputName key name table) =
      if key = k then some name else outputName? k table := by
  induction table with
  | nil => simp [putOutputName, outputName?]
  | cons entry rest ih =>
    obtain ⟨k', old⟩ := entry
    rw [putOutputName]
    by_cases hkey : k' = key
    · subst hkey
      by_cases hk : k' = k <;> simp [outputName?, hk]
    · by_cases hk : k' = k
      · subst hk
        simp [outputName?, hkey, Ne.symm hkey]
      · simp [outputName?, hkey, hk, ih]

theorem exists_outputName?_iff :
    (∃ name, outputName? key table = some name) ↔ key ∈ table.map Prod.fst := by
  induction table with
  | nil => simp [outputName?]
  | cons entry rest ih =>
    obtain ⟨k, name⟩ := entry
    rw [outputName?, List.map_cons, List.mem_cons, ← ih]
    by_cases h : k = key
    · simp [h]
    · simp [h, Ne.symm h]

/-- The table with the name that one entry gives. -/
def addOutputName (table : List (String × String)) (entry : Value × Value) :
    Except ConfigError (List (String × String)) :=
  match outputNameOf entry.2 with
  | .error e => .error e
  | .ok none => .ok table
  | .ok (some name) =>
    match ConfigError.ofText entry.1.text with
    | .error e => .error e
    | .ok key => .ok (putOutputName key name table)

theorem addOutputNames_eq_foldlM (table : List (String × String))
    (entries : List (Value × Value)) :
    addOutputNames table entries = entries.foldlM addOutputName table := by
  induction entries generalizing table with
  | nil => rfl
  | cons entry rest ih =>
    rw [addOutputNames, List.foldlM_cons, addOutputName]
    cases outputNameOf entry.2 with
    | error e => rfl
    | ok name? =>
      cases name? with
      | none => exact ih table
      | some name =>
        cases ConfigError.ofText entry.1.text with
        | error e => rfl
        | ok key => exact ih _

theorem outputNameOf_ok_some_iff {payload : Value} :
    outputNameOf payload = .ok (some name) ↔
      ∃ output, payload.output? = some output ∧ output.Gives name := by
  rw [outputNameOf_eq]
  cases payload.output? with
  | none => simp
  | some output => simp [ConfigError.ofText_eq_ok_iff, Value.stripped?_eq_some_iff]

/-- An entry that is read puts the name that it gives under the text of its key, if it gives one.
Otherwise the table stays as it is. -/
theorem addOutputName_cases (h : addOutputName table entry = .ok table') :
    (∃ key name, Names key name entry ∧ table' = putOutputName key name table) ∨
      (∀ key name, ¬ Names key name entry) ∧ table' = table := by
  rw [addOutputName] at h
  cases hname : outputNameOf entry.2 with
  | error e =>
    rw [hname] at h
    cases h
  | ok name? =>
    rw [hname] at h
    cases name? with
    | none =>
      refine Or.inr ⟨fun key name hnames => ?_, (Except.ok.inj h).symm⟩
      rw [outputNameOf_ok_some_iff.mpr hnames.2] at hname
      cases hname
    | some name =>
      rw [Value.text] at h
      cases htext : entry.1.hasText with
      | false => simp [htext, ConfigError.ofText] at h
      | true =>
        refine Or.inl ⟨entry.1.shown, name, ⟨rfl, outputNameOf_ok_some_iff.mp hname⟩, ?_⟩
        simpa [htext, ConfigError.ofText] using h.symm

/-- The table of the entries: each page that is named has the last name that is given for it, and
the pages stand in the order of their first names. -/
structure IsTableOf (entries : List (Value × Value)) (table : List (String × String)) : Prop where
  names : ∀ key name, outputName? key table = some name ↔ IsLastNamed entries key name
  inOrder : (table.map Prod.fst).Pairwise (IsNamedBefore entries)

namespace IsTableOf

theorem mem_keys_iff (h : IsTableOf entries table) :
    key ∈ table.map Prod.fst ↔ ∃ entry ∈ entries, ∃ name, Names key name entry := by
  rw [← exists_outputName?_iff, ← exists_isLastNamed_iff]
  exact exists_congr fun name => h.names key name

/-- No page stands in the table twice. -/
theorem nodup_keys (h : IsTableOf entries table) : (table.map Prod.fst).Nodup := by
  refine h.inOrder.imp fun hbefore => ?_
  rintro rfl
  exact not_isNamedBefore_self hbefore

theorem concat (h : IsTableOf entries table) (hadd : addOutputName table entry = .ok table') :
    IsTableOf (entries ++ [entry]) table' := by
  have hkept : (table.map Prod.fst).Pairwise (IsNamedBefore (entries ++ [entry])) :=
    h.inOrder.imp fun hbefore => hbefore.concat entry
  rcases addOutputName_cases hadd with ⟨key, name, hnames, rfl⟩ | ⟨hnot, rfl⟩
  · refine ⟨fun k other => ?_, ?_⟩
    · rw [outputName?_putOutputName, isLastNamed_concat]
      by_cases hk : key = k
      · subst hk
        rw [if_pos rfl, Option.some.injEq]
        constructor
        · rintro rfl
          exact Or.inl hnames
        · rintro (hother | ⟨hnot, -⟩)
          · exact (hnames.unique hother).2
          · exact absurd hnames (hnot name)
      · have hnot : ∀ other, ¬ Names k other entry := fun other hother =>
          hk (hnames.unique hother).1
        rw [if_neg hk, h.names]
        exact ⟨fun hlast => Or.inr ⟨hnot, hlast⟩,
          fun hlast => (hlast.resolve_left (hnot other)).2⟩
    · rw [map_fst_putOutputName]
      split
      · exact hkept
      · rename_i hnew
        rw [h.mem_keys_iff] at hnew
        rw [List.pairwise_append]
        refine ⟨hkept, List.pairwise_singleton _ _, fun k hk k' hk' => ?_⟩
        rw [List.mem_singleton.mp hk']
        have hbefore : IsNamedBefore entries k key :=
          isNamedBefore_of_not (h.mem_keys_iff.mp hk)
            fun earlier hearlier other hother => hnew ⟨earlier, hearlier, other, hother⟩
        exact hbefore.concat entry
  · refine ⟨fun k other => ?_, hkept⟩
    rw [h.names, isLastNamed_concat]
    exact ⟨fun hlast => Or.inr ⟨hnot k, hlast⟩, fun hlast => (hlast.resolve_left (hnot k other)).2⟩

end IsTableOf

theorem isTableOf_of_addOutputNames (h : addOutputNames [] entries = .ok table) :
    IsTableOf entries table := by
  induction entries using List.reverseRecOn generalizing table with
  | nil =>
    cases h
    exact ⟨fun key name => by simp [outputName?, IsLastNamed], List.Pairwise.nil⟩
  | append_singleton entries entry ih =>
    rw [addOutputNames_eq_foldlM, List.foldlM_append, ← addOutputNames_eq_foldlM] at h
    obtain ⟨before, hbefore, hadd⟩ := bind_ok_iff.mp h
    obtain ⟨_, hlast, ⟨⟩⟩ := bind_ok_iff.mp hadd
    exact (ih hbefore).concat hlast

/-- An entry that names no file can be left out. -/
theorem addOutputNames_without (hnot : ∀ key name, ¬ Names key name entry)
    (h : addOutputNames [] (before ++ entry :: after) = .ok table) :
    addOutputNames [] (before ++ after) = .ok table := by
  simp only [addOutputNames_eq_foldlM, List.foldlM_append, List.foldlM_cons, bind_ok_iff] at h ⊢
  obtain ⟨start, hstart, next, hnext, hrest⟩ := h
  rcases addOutputName_cases hnext with ⟨key, name, hnames, -⟩ | ⟨-, rfl⟩
  · exact absurd hnames (hnot key name)
  · exact ⟨_, hstart, hrest⟩

/-! ## 3. Output files -/

theorem pageOutputsOf_of_entries? (h : v.entries? = some entries) :
    pageOutputsOf v = addOutputNames [] entries := by
  rw [pageOutputsOf, h, isVoid_of_entries? h]
  cases entries <;> rfl

theorem exists_pageOutputsOf_iff (h : v.entries? = some entries) :
    (∃ table, pageOutputsOf v = .ok table) ↔ ∀ entry ∈ entries, (outputDemand entry).met := by
  rw [pageOutputsOf_of_entries? h, (raises_addOutputNames [] entries).ok_iff, List.forall_mem_map]

theorem FirstUnmet.mem {ds : List Demand} {d : Demand} (h : FirstUnmet ds d) : d ∈ ds := by
  induction h with
  | here h => exact List.mem_cons_self
  | later h hrest ih => exact List.mem_cons_of_mem _ ih

theorem kind_of_pageOutputsOf_error {e : ConfigError} (h : v.entries? = some entries)
    (he : pageOutputsOf v = .error e) : e.kind = .value := by
  rw [pageOutputsOf_of_entries? h, (raises_addOutputNames [] entries).error_iff] at he
  obtain ⟨d, hd, rfl⟩ := he
  obtain ⟨entry, -, rfl⟩ := List.mem_map.mp hd.mem
  rfl

/-- A name that is looked up in the table stands for the file. If nothing is named for the page,
its file is the usual one, whatever that is. -/
theorem IsTableOf.outputPath {site : SiteConfig} (h : IsTableOf entries site.pageOutputs)
    (key : String) :
    (∀ name usual, IsLastNamed entries key name →
      site.outputPath key usual = site.outputDir.join (.ofText name)) ∧
    ((∀ usual, site.outputPath key usual = site.outputDir.join (.ofText usual)) ↔
      ∀ entry ∈ entries, ∀ name, ¬ Names key name entry) := by
  have hnamed : ∀ name usual, IsLastNamed entries key name →
      site.outputPath key usual = site.outputDir.join (.ofText name) := by
    intro name usual hlast
    rw [SiteConfig.outputPath, (h.names key name).mpr hlast, Option.getD_some]
  refine ⟨hnamed, fun husual entry hentry name hnames => ?_, fun hnot usual => ?_⟩
  · -- a name that is given cannot be that of two different files
    obtain ⟨last, hlast⟩ := exists_isLastNamed_iff.mpr ⟨entry, hentry, name, hnames⟩
    have hsame : site.outputDir.join (.ofText "a") = site.outputDir.join (.ofText "b") := by
      rw [← husual "a", ← husual "b", hnamed last "a" hlast, hnamed last "b" hlast]
    have ha : Path.ofText "a" = ⟨.relative, ["a"]⟩ := by decide
    have hb : Path.ofText "b" = ⟨.relative, ["b"]⟩ := by decide
    simp [ha, hb, Path.join, Path.isAbsolute] at hsame
  · have hnone : outputName? key site.pageOutputs = none := by
      rw [Option.eq_none_iff_forall_ne_some]
      intro name hname
      obtain ⟨entry, hentry, other, hother⟩ :=
        exists_isLastNamed_iff.mp ⟨name, (h.names key name).mp hname⟩
      exact hnot entry hentry other hother
    rw [SiteConfig.outputPath, hnone, Option.getD_none]

end

/-- A mapping gives a table of output files just if the names and the keys of the entries that give
one can be written. The table has a page just if some entry names a file for it; the name is that of
the last such entry, and the pages stand in the order of their first ones. An entry that names no
file can be left out. In a site with this table the file of a page is that of the name, and else the
usual one. -/
theorem pageOutputsOf_lastNamed {v : Value} {entries : List (Value × Value)}
    (h : v.entries? = some entries) :
    ((∃ table, pageOutputsOf v = .ok table) ↔
      ∀ entry ∈ entries, ∀ output, entry.2.output? = some output →
        output.hasText = true ∧ (¬ output.IsBlank → entry.1.hasText = true)) ∧
    (∀ e, pageOutputsOf v = .error e → e.kind = .value) ∧
    ∀ table, pageOutputsOf v = .ok table →
      (∀ key, key ∈ table.map Prod.fst ↔ ∃ entry ∈ entries, ∃ name, Names key name entry) ∧
      (∀ key name, outputName? key table = some name ↔ IsLastNamed entries key name) ∧
      (table.map Prod.fst).Pairwise (IsNamedBefore entries) ∧
      (∀ before entry after, entries = before ++ entry :: after →
        (∀ key name, ¬ Names key name entry) →
          pageOutputsOf (.map (before ++ after)) = .ok table) ∧
      ∀ site : SiteConfig, site.pageOutputs = table → ∀ key,
        (∀ name usual, IsLastNamed entries key name →
          site.outputPath key usual = site.outputDir.join (.ofText name)) ∧
        ((∀ usual, site.outputPath key usual = site.outputDir.join (.ofText usual)) ↔
          ∀ entry ∈ entries, ∀ name, ¬ Names key name entry) := by
  refine ⟨exists_pageOutputsOf_iff h, fun e he => kind_of_pageOutputsOf_error h he,
    fun table htable => ?_⟩
  rw [pageOutputsOf_of_entries? h] at htable
  have hof := isTableOf_of_addOutputNames htable
  refine ⟨fun key => hof.mem_keys_iff, hof.names, hof.inOrder, ?_, ?_⟩
  · rintro before entry after rfl hnot
    rw [pageOutputsOf_of_entries? rfl]
    exact addOutputNames_without hnot htable
  · rintro site rfl key
    exact hof.outputPath key

/-- A truth value and a text that are the same key once they are written, and an entry without a
name. -/
def collidingNames : List (Value × Value) :=
  [(.bool true, .string "a.html"), (.string "home", .null),
    (.string "True", .map [(.string "output", .string " b.html")])]

theorem pageOutputsOf_lastNamed_colliding :
    (Value.map collidingNames).entries? = some collidingNames ∧
      ∃ table, pageOutputsOf (.map collidingNames) = .ok table ∧
        outputName? "True" table = some "b.html" ∧ "home" ∉ table.map Prod.fst := by
  have hentries : (Value.map collidingNames).entries? = some collidingNames := rfl
  obtain ⟨hok, -, hall⟩ := pageOutputsOf_lastNamed hentries
  obtain ⟨table, htable⟩ := hok.mpr (by
    rintro entry (_ | ⟨_, _ | ⟨_, _ | ⟨_, ⟨⟩⟩⟩⟩) output ⟨⟩
    all_goals exact ⟨rfl, fun _ => rfl⟩)
  obtain ⟨hkeys, hnames, -⟩ := hall table htable
  refine ⟨hentries, table, htable, (hnames _ _).mpr ?_, fun hhome => ?_⟩
  · refine ⟨[_, _], _, [], rfl, ⟨rfl, _, rfl, ?_⟩, List.forall_mem_nil _⟩
    exact ⟨nofun, rfl, by decide, by decide⟩
  · obtain ⟨entry, hentry, name, hkey, output, houtput, -⟩ := (hkeys _).mp hhome
    rcases hentry with _ | ⟨_, _ | ⟨_, _ | ⟨_, ⟨⟩⟩⟩⟩
    · exact absurd hkey (by decide)
    · cases houtput
    · exact absurd hkey (by decide)

/-- The name of the second output file is a number of 4301 digits. -/
def hugeOutput : List (Value × Value) :=
  [(.string "home", .string "x.html"),
    (.string "releases", .map [(.string "output", .int (.ofNat (Nat.pow 10 Number.maxDigits)))])]

/-- A file is named for the first page, but there is no table. -/
theorem pageOutputsOf_hugeOutput :
    (∃ entry ∈ hugeOutput, ∃ name, Names "home" name entry) ∧
      ∃ e, pageOutputsOf (.map hugeOutput) = .error e ∧ e.kind = .value := by
  constructor
  · have hname : Names "home" "x.html" (.string "home", .string "x.html") :=
      ⟨rfl, _, rfl, nofun, rfl, by decide, by decide⟩
    exact ⟨_, List.mem_cons_self, _, hname⟩
  · refine ⟨.noText .tooManyDigits, ?_, rfl⟩
    decide +kernel

end StaticSite
