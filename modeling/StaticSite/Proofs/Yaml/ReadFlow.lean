/-
StaticSite.Proofs.Yaml.ReadFlow — data that is read back from brackets.

A list or a mapping is read entry by entry (`readEntries_joinLists`), and each
entry by the reader of what is nested in it. That reader takes the data that
is no longer than the depth it is allowed (`ReadsData`), since brackets make
data longer; so the depth of a whole line is more than enough
(`readsData_readFlowNode`).
-/
import StaticSite.Proofs.Yaml.ReadScalar

namespace StaticSite.Yaml

open StaticSite.Text

/-! ## 1. Blanks and markers -/

/-- A character of a line at which no blank is passed over. -/
def isToken (c : Char) : Bool :=
  isLineChar c && c != ' ' && c != '#'

theorem isToken_of_isStart {c : Char} (h : isStart c = true) : isToken c = true := by
  have hline : isLineChar c = true := by
    simp only [isStart, Bool.or_eq_true, beq_iff_eq] at h
    rcases h with (((halphanum | rfl) | rfl) | rfl) | rfl
    · exact isLineChar_of_isAlphanum halphanum
    all_goals decide
  have hspace : c ≠ ' ' := ne_of_class h (by decide)
  have hcomment : c ≠ '#' := ne_of_class h (by decide)
  simp [isToken, hline, hspace, hcomment]

theorem isToken_of_isEndMark {c : Char} (h : isEndMark c = true) : isToken c = true := by
  simp only [isEndMark, Bool.or_eq_true, beq_iff_eq] at h
  rcases h with (rfl | rfl) | rfl
  all_goals decide

section

variable {c : Char} (h : isToken c = true) (s : List Char) (column : Nat)
include h

theorem skipFrom_token (tabs crossed : Bool) :
    skipFrom tabs false crossed column (c :: s) = ⟨⟨c :: s, column⟩, crossed⟩ := by
  simp only [isToken, Bool.and_eq_true, bne_iff_ne] at h
  obtain ⟨⟨hline, hspace⟩, hcomment⟩ := h
  have htab : c ≠ '\t' := ne_of_class hline (by decide)
  simp [skipFrom, hspace, hcomment, htab, isBreak_of_isLineChar hline]

theorem skipBlanks_token : skipBlanks ⟨c :: s, column⟩ = ⟨⟨c :: s, column⟩, false⟩ :=
  skipFrom_token h s column false false

theorem skipFlowBlanks_token : skipFlowBlanks ⟨c :: s, column⟩ = ⟨c :: s, column⟩ := by
  rw [skipFlowBlanks, skipFrom_token h]

theorem skipFlowBlanks_space : skipFlowBlanks ⟨' ' :: c :: s, column⟩ = ⟨c :: s, column + 1⟩ := by
  have hspace : skipFrom true false false column (' ' :: c :: s) =
      skipFrom true false false (column + 1) (c :: s) := by
    simp [skipFrom]
  rw [skipFlowBlanks, hspace, skipFrom_token h]

theorem next_token : Cursor.next ⟨c :: s, column⟩ = ⟨s, column + 1⟩ := by
  simp only [isToken, Bool.and_eq_true] at h
  simp only [Cursor.next, columnAfter_of_isLineChar h.1.1]

end

theorem atMarker_start {c : Char} (hdash : c ≠ '-') (hdot : c ≠ '.') (s : List Char)
    (column : Nat) : atMarker ⟨c :: s, column⟩ = false := by
  simp only [atMarker]
  split
  · rename_i heq
    exact (hdash (List.cons.inj heq).1).elim
  · rename_i heq
    exact (hdot (List.cons.inj heq).1).elim
  · exact Bool.and_false _

theorem IsPlainWord.atMarker {w : List Char} (h : IsPlainWord w) (rest : List Char)
    (column : Nat) : atMarker ⟨w ++ rest, column⟩ = false := by
  cases h with
  | bare c s word =>
    have hc := word c List.mem_cons_self
    exact atMarker_start (ne_of_class hc (by decide)) (ne_of_class hc (by decide)) _ _
  | signed c s word =>
    have hc : c ≠ '-' := ne_of_class (word c List.mem_cons_self) (by decide)
    simp only [Yaml.atMarker, List.cons_append]
    split
    · rename_i heq
      exact (hc (List.cons.inj (List.cons.inj heq).2).1).elim
    · rename_i heq
      cases heq
    · exact Bool.and_false _

theorem FlowData.atMarker_text (d : FlowData) (rest : List Char) (column : Nat) :
    atMarker ⟨d.text ++ rest, column⟩ = false := by
  cases d with
  | null => exact atMarker_start (by decide) (by decide) _ _
  | bool b => exact (isPlainWord_truthText b).atMarker rest column
  | int n => exact (isPlainWord_intText n).atMarker rest column
  | string s => exact atMarker_start (by decide) (by decide) _ _
  | list items => exact atMarker_start (by decide) (by decide) _ _
  | map entries => exact atMarker_start (by decide) (by decide) _ _

theorem propertiesAt_start {c : Char} (h : isStart c = true) (setting : Setting) (inFlow : Bool)
    (s : List Char) (column : Nat) :
    propertiesAt setting inFlow ⟨c :: s, column⟩ = .ok (.none, ⟨c :: s, column⟩) := by
  have hnone : readProperty? setting ⟨c :: s, column⟩ = .ok none := by
    rw [readProperty?]
    split
    · rename_i heq
      exact (ne_of_class h (by decide) (List.cons.inj heq).1).elim
    · rename_i heq
      exact (ne_of_class h (by decide) (List.cons.inj heq).1).elim
    · rfl
  rw [propertiesAt, readProperties, hnone]

/-! ## 2. Entries -/

/-- The reader takes data that is no longer than a bound, and any text in quotes, from places
where the second version holds. -/
structure ReadsData (node : NodeReader) (bound : Nat) : Prop where
  text : ∀ (place : FlowPlace) (s : String) (rest : List Char) (column : Nat),
    place.version = .v12 → 0 < bound → node place ⟨quotedText s ++ rest, column⟩ =
      .ok (.scalar .absent false s.toList, ⟨rest, column + (quotedText s).length⟩)
  data : ∀ (place : FlowPlace) (d : FlowData) (c : Char) (rest : List Char) (column : Nat),
    place.version = .v12 → d.IsFit → d.text.length ≤ bound → isEndMark c = true →
      node place ⟨d.text ++ c :: rest, column⟩ =
        .ok (d.node, ⟨c :: rest, column + d.text.length⟩)

/-- A written entry is read as a node and, in a pair, as the value after it. -/
def ReadsEntry (node : NodeReader) (place : FlowPlace) (w : List Char)
    (entry : Node × Option Node) : Prop :=
  ∀ (c : Char) (rest : List Char) (column : Nat), isEndMark c = true →
    readEntry node place ⟨w ++ c :: rest, column⟩ =
      .ok (entry.1, entry.2, ⟨c :: rest, column + w.length⟩)

section

variable {node : NodeReader} {place : FlowPlace} {bound : Nat}

theorem isEndMark_closing : isEndMark place.closing = true := by
  rw [FlowPlace.closing]
  split
  · decide
  · decide

theorem starts_joinLists {α : Type} {e : List Char × α}
    (h : ∃ c s, e.1 = c :: s ∧ isStart c = true) (more : List (List Char × α)) :
    ∃ c s, joinLists [',', ' '] ((e :: more).map Prod.fst) = c :: s ∧ isStart c = true := by
  obtain ⟨c, s, hcs, hc⟩ := h
  cases more with
  | nil => exact ⟨c, s, hcs, hc⟩
  | cons e' more => exact ⟨c, _, by simp only [List.map_cons, joinLists, hcs]; rfl, hc⟩

theorem ne_closing {c : Char} (h : isStart c = true) : c ≠ place.closing := by
  rw [FlowPlace.closing]
  split
  · exact ne_of_class h (by decide)
  · exact ne_of_class h (by decide)

theorem comma_ne_closing : ',' ≠ place.closing := by
  rw [FlowPlace.closing]
  split
  · decide
  · decide

section

variable {w rest : List Char} {entry : Node × Option Node} {p : Cursor} {column : Nat}
  (hstart : ∃ c s, w = c :: s ∧ isStart c = true) (hread : ReadsEntry node place w entry)
include hstart hread

/-- The last entry is the one that the closing bracket follows. -/
theorem readEntries_last (hp : skipFlowBlanks p = ⟨w ++ place.closing :: rest, column⟩) :
    readEntries node place (bound + 1) p =
      .ok ([entry], ⟨rest, column + (w.length + 1)⟩) := by
  obtain ⟨c, s, rfl, hc⟩ := hstart
  have hclosing : isToken place.closing = true := isToken_of_isEndMark isEndMark_closing
  have hentry := hread place.closing rest column isEndMark_closing
  simp only [readEntries, hp, hentry, skipFlowBlanks_token hclosing, next_token hclosing]
  simp [ne_closing hc, Ne.symm comma_ne_closing, Nat.add_assoc]

/-- An entry that a comma follows is followed by more entries. -/
theorem readEntries_more {more : List (Node × Option Node)} {stop : Cursor}
    (hp : skipFlowBlanks p = ⟨w ++ ',' :: rest, column⟩)
    (hmore : readEntries node place bound ⟨rest, column + w.length + 1⟩ = .ok (more, stop)) :
    readEntries node place (bound + 1) p = .ok (entry :: more, stop) := by
  obtain ⟨c, s, rfl, hc⟩ := hstart
  have hcomma : isToken ',' = true := by decide
  have hentry := hread ',' rest column (by decide)
  simp only [readEntries, hp, hentry, skipFlowBlanks_token hcomma, next_token hcomma, hmore]
  simp [ne_closing hc]

end

/-- Entries that are joined by commas are read one by one. -/
theorem readEntries_joinLists {entries : List (List Char × Node × Option Node)}
    (hstart : ∀ e ∈ entries, ∃ c s, e.1 = c :: s ∧ isStart c = true)
    (hread : ∀ e ∈ entries, ReadsEntry node place e.1 e.2)
    (hbound : entries.length < bound) {p : Cursor} {rest : List Char} {column : Nat}
    (hp : skipFlowBlanks p =
      ⟨joinLists [',', ' '] (entries.map Prod.fst) ++ place.closing :: rest, column⟩) :
    readEntries node place bound p = .ok (entries.map Prod.snd,
      ⟨rest, column + ((joinLists [',', ' '] (entries.map Prod.fst)).length + 1)⟩) := by
  induction entries generalizing bound p column with
  | nil =>
    obtain ⟨bound, rfl⟩ := Nat.exists_eq_add_of_lt hbound
    have hclosing : isToken place.closing = true := isToken_of_isEndMark isEndMark_closing
    rw [readEntries, hp]
    simp [joinLists, next_token hclosing]
  | cons e more ih =>
    obtain ⟨bound, rfl⟩ := Nat.exists_eq_add_of_lt hbound
    rw [List.forall_mem_cons] at hstart hread
    cases more with
    | nil => exact readEntries_last hstart.1 hread.1 hp
    | cons e' more =>
      have hjoined : joinLists [',', ' '] ((e :: e' :: more).map Prod.fst) =
          e.1 ++ ',' :: ' ' :: joinLists [',', ' '] ((e' :: more).map Prod.fst) := by
        simp [joinLists]
      rw [hjoined, List.append_assoc] at hp
      rw [hjoined]
      obtain ⟨c, s, hcs, hc⟩ := starts_joinLists (hstart.2 e' List.mem_cons_self) more
      have hblanks : skipFlowBlanks ⟨' ' :: joinLists [',', ' '] ((e' :: more).map Prod.fst) ++
          place.closing :: rest, column + e.1.length + 1⟩ =
          ⟨joinLists [',', ' '] ((e' :: more).map Prod.fst) ++ place.closing :: rest,
            column + e.1.length + 1 + 1⟩ := by
        rw [hcs]
        exact skipFlowBlanks_space (isToken_of_isStart hc) _ _
      have hfewer : (e' :: more).length < (e :: e' :: more).length + bound := by
        simp only [List.length_cons]
        omega
      have hmore := ih hstart.2 hread.2 hfewer hblanks
      have hcolumn : ∀ n, column + e.1.length + 1 + 1 + (n + 1) =
          column + (e.1.length + (n + 1 + 1) + 1) := by omega
      rw [hcolumn] at hmore
      rw [List.length_append]
      exact readEntries_more hstart.1 hread.1 hp hmore

/-- The entries after an opening bracket are read up to the closing one. -/
theorem readEntries_brackets {entries : List (List Char × Node × Option Node)}
    (hstart : ∀ e ∈ entries, ∃ c s, e.1 = c :: s ∧ isStart c = true)
    (hread : ∀ e ∈ entries, ReadsEntry node place e.1 e.2) (rest : List Char) (column : Nat) :
    readEntries node place
      ((joinLists [',', ' '] (entries.map Prod.fst) ++ place.closing :: rest).length + 1)
      ⟨joinLists [',', ' '] (entries.map Prod.fst) ++ place.closing :: rest, column⟩ =
        .ok (entries.map Prod.snd,
          ⟨rest, column + ((joinLists [',', ' '] (entries.map Prod.fst)).length + 1)⟩) := by
  have hcount : entries.length ≤ (joinLists [',', ' '] (entries.map Prod.fst)).length := by
    rw [← List.length_map (f := Prod.fst)]
    refine length_le_length_joinLists fun part hpart => ?_
    obtain ⟨e, he, rfl⟩ := List.mem_map.mp hpart
    obtain ⟨c, s, hcs, -⟩ := hstart e he
    rw [hcs]
    exact List.cons_ne_nil c s
  refine readEntries_joinLists hstart hread ?_ ?_
  · rw [List.length_append]
    omega
  · cases entries with
    | nil => exact skipFlowBlanks_token (isToken_of_isEndMark isEndMark_closing) _ _
    | cons e more =>
      obtain ⟨c, s, hcs, hc⟩ := starts_joinLists (hstart e List.mem_cons_self) more
      rw [hcs]
      exact skipFlowBlanks_token (isToken_of_isStart hc) _ _

/-! ## 3. Items and pairs -/

theorem readEntry_start {c : Char} (hc : isStart c = true) (s : List Char) (column : Nat)
    {key : Node} {stop : Cursor} (hkey : node place ⟨c :: s, column⟩ = .ok (key, stop)) :
    readEntry node place ⟨c :: s, column⟩ =
      if place.atColon (skipFlowBlanks stop).rest then
        if Cursor.canBeKey ⟨c :: s, column⟩ (skipFlowBlanks stop) then
          readPairValue node place key (skipFlowBlanks stop)
        else .error .malformed
      else .ok (key, none, skipFlowBlanks stop) := by
  have hcolon : c ≠ ':' := ne_of_class hc (by decide)
  rw [readEntry]
  split
  · rename_i heq
    exact (ne_of_class hc (by decide) (List.cons.inj heq).1).elim
  · simp [hcolon, hkey]

/-- An item of a list is an entry without a value. -/
theorem readsEntry_item (hnode : ReadsData node bound) (hversion : place.version = .v12)
    {d : FlowData} (hd : d.IsFit) (hbound : d.text.length ≤ bound) :
    ReadsEntry node place d.text (d.node, none) := by
  intro c rest column hc
  have hread := hnode.data place d c rest column hversion hd hbound hc
  obtain ⟨a, s, has, ha⟩ := d.starts_text
  have hcolon : place.atColon (c :: rest) = false := by
    have hne : c ≠ ':' := by
      rintro rfl
      cases hc
    simp [FlowPlace.atColon, hne]
  rw [has, List.cons_append] at hread ⊢
  rw [readEntry_start ha _ _ hread, skipFlowBlanks_token (isToken_of_isEndMark hc), hcolon]
  rfl

/-- The value after the sign is read past the space. -/
theorem readValue_start {c : Char} (hc : isStart c = true) (s : List Char) (column : Nat) :
    readValue node place ⟨' ' :: c :: s, column⟩ = node place.past ⟨c :: s, column + 1⟩ := by
  have hcomma : c ≠ ',' := ne_of_class hc (by decide)
  have hcolon : c ≠ ':' := ne_of_class hc (by decide)
  rw [readValue, skipFlowBlanks_space (isToken_of_isStart hc)]
  simp [FlowPlace.atEntryEnd, FlowPlace.atSecondColon, hcomma, hcolon, ne_closing hc]

/-- An entry of a mapping is a key in quotes and, after the sign, its value. -/
theorem readsEntry_pair (hnode : ReadsData node bound) (hversion : place.version = .v12)
    (hplace : place.inList = false) {key : String} {d : FlowData} (hd : d.IsFit)
    (hkey : (quotedText key).length ≤ FlowData.maxKeyText) (hbound : d.text.length ≤ bound) :
    ReadsEntry node place (entryText key d.text)
      (.scalar .absent false key.toList, some d.node) := by
  intro c rest column hc
  obtain ⟨a, s, has, ha⟩ := d.starts_text
  have hpositive : 0 < bound := by
    rw [has, List.length_cons] at hbound
    omega
  have hline : entryText key d.text ++ c :: rest =
      quotedText key ++ ':' :: ' ' :: (d.text ++ c :: rest) := by
    simp [entryText]
  have hlength : column + (entryText key d.text).length =
      column + (quotedText key).length + 1 + 1 + d.text.length := by
    simp only [entryText, List.length_append, List.length_cons]
    omega
  have hread := hnode.text place key (':' :: ' ' :: (d.text ++ c :: rest)) column hversion hpositive
  have hcolon : isToken ':' = true := by decide
  have hsign : place.atColon (':' :: ' ' :: (d.text ++ c :: rest)) = true := by
    simp [FlowPlace.atColon, hplace]
  have hshort : Cursor.canBeKey ⟨quotedText key ++ ':' :: ' ' :: (d.text ++ c :: rest), column⟩
      ⟨':' :: ' ' :: (d.text ++ c :: rest), column + (quotedText key).length⟩ = true := by
    refine Cursor.canBeKey_append (fun b hb => isLineChar_of_mem_quotedText hb) ?_ _
    exact Nat.le_trans hkey (by decide)
  have hvalue := hnode.data place.past d c rest (column + (quotedText key).length + 1 + 1)
    hversion hd hbound hc
  have hpair : readPairValue node place (.scalar .absent false key.toList)
      ⟨':' :: ' ' :: (d.text ++ c :: rest), column + (quotedText key).length⟩ =
        .ok (.scalar .absent false key.toList, some d.node,
          ⟨c :: rest, column + (quotedText key).length + 1 + 1 + d.text.length⟩) := by
    rw [readPairValue, skipFlowBlanks_token hcolon]
    simp only [hsign, if_true, next_token hcolon]
    rw [has, List.cons_append] at hvalue ⊢
    rw [readValue_start ha, hvalue]
  rw [hline, hlength]
  have hstart : isStart '"' = true := by decide
  refine (readEntry_start hstart _ _ hread).trans ?_
  rw [skipFlowBlanks_token hcolon, if_pos hsign]
  exact (if_pos hshort).trans hpair

end

/-! ## 4. Nodes -/

section

variable {node : NodeReader} {bound : Nat}

theorem length_le_of_mem_bracketText {opening closing : Char} {member : List Char}
    {members : List (List Char)} (h : member ∈ members)
    (hbound : (bracketText opening closing members).length ≤ bound + 1) :
    member.length ≤ bound := by
  have hjoined := length_le_of_mem_joinLists [',', ' '] h
  simp only [bracketText, List.length_cons, List.length_append] at hbound
  omega

theorem readContent?_word {w rest : List Char} (hw : IsPlainWord w) {place : FlowPlace}
    (hversion : place.version = .v12) {inFlow : Bool} (hrest : EndsPlain inFlow rest)
    (indent column : Nat) (start : Cursor) :
    readContent? node place inFlow indent start ⟨w ++ rest, column⟩ =
      .ok (some (.scalar .absent true w, ⟨rest, column + w.length⟩)) := by
  have hleaf := readLeaf?_word hw hrest indent column
  obtain ⟨c, s, rfl, -⟩ := hw.starts
  have hc := hw.chars c List.mem_cons_self
  rw [readContent?]
  split
  · rename_i heq
    exact (ne_of_class hc (by decide) (List.cons.inj heq).1).elim
  · rename_i heq
    exact (ne_of_class hc (by decide) (List.cons.inj heq).1).elim
  · rw [hversion, hleaf]

theorem readContent?_quotedText (node : NodeReader) (s : String) {place : FlowPlace}
    (hversion : place.version = .v12) (inFlow : Bool) (rest : List Char) (indent column : Nat)
    (start : Cursor) :
    readContent? node place inFlow indent start ⟨quotedText s ++ rest, column⟩ =
      .ok (some (.scalar .absent false s.toList, ⟨rest, column + (quotedText s).length⟩)) := by
  have hleaf := readLeaf?_quotedText s inFlow rest indent column
  rw [← hversion] at hleaf
  rw [quotedText, List.cons_append] at hleaf ⊢
  exact hleaf

theorem length_bracketText (opening closing : Char) (members : List (List Char)) :
    (bracketText opening closing members).length =
      (joinLists [',', ' '] members).length + 1 + 1 := by
  simp [bracketText]

section

variable {place : FlowPlace} {start : Cursor} {entries : List (List Char × Node × Option Node)}
  (hstart : ∀ e ∈ entries, ∃ c s, e.1 = c :: s ∧ isStart c = true)
include hstart

theorem readContent?_list
    (hread : ∀ e ∈ entries, ReadsEntry node (place.inside true start) e.1 e.2)
    (inFlow : Bool) (indent column : Nat) (rest : List Char) :
    readContent? node place inFlow indent start
      ⟨bracketText '[' ']' (entries.map Prod.fst) ++ rest, column⟩ =
        .ok (some (.seq .absent (entries.map fun e => itemOf e.2.1 e.2.2),
          ⟨rest, column + (bracketText '[' ']' (entries.map Prod.fst)).length⟩)) := by
  have hentries := readEntries_brackets hstart hread rest (column + 1)
  have hline : bracketText '[' ']' (entries.map Prod.fst) ++ rest =
      '[' :: (joinLists [',', ' '] (entries.map Prod.fst) ++
        (place.inside true start).closing :: rest) := by
    rw [bracketText, List.cons_append, List.append_assoc]
    rfl
  have hcolumn : column + (bracketText '[' ']' (entries.map Prod.fst)).length =
      column + 1 + ((joinLists [',', ' '] (entries.map Prod.fst)).length + 1) := by
    rw [length_bracketText]
    omega
  rw [hline, hcolumn]
  simp only [readContent?, next_token (show isToken '[' = true by decide), hentries, List.map_map]
  rfl

theorem readContent?_map
    (hread : ∀ e ∈ entries, ReadsEntry node (place.inside false start) e.1 e.2)
    (inFlow : Bool) (indent column : Nat) (rest : List Char) :
    readContent? node place inFlow indent start
      ⟨bracketText '\x7b' '\x7d' (entries.map Prod.fst) ++ rest, column⟩ =
        .ok (some (.map .absent (entries.map fun e => (e.2.1, e.2.2.getD .empty)),
          ⟨rest, column + (bracketText '\x7b' '\x7d' (entries.map Prod.fst)).length⟩)) := by
  have hentries := readEntries_brackets hstart hread rest (column + 1)
  have hline : bracketText '\x7b' '\x7d' (entries.map Prod.fst) ++ rest =
      '\x7b' :: (joinLists [',', ' '] (entries.map Prod.fst) ++
        (place.inside false start).closing :: rest) := by
    rw [bracketText, List.cons_append, List.append_assoc]
    rfl
  have hcolumn : column + (bracketText '\x7b' '\x7d' (entries.map Prod.fst)).length =
      column + 1 + ((joinLists [',', ' '] (entries.map Prod.fst)).length + 1) := by
    rw [length_bracketText]
    omega
  rw [hline, hcolumn]
  simp only [readContent?, next_token (show isToken '\x7b' = true by decide), hentries,
    List.map_map]
  rfl

end

/-- An item of data with its line. -/
def writtenItem (d : FlowData) : List Char × Node × Option Node :=
  (d.text, d.node, none)

/-- An entry of data with its line. -/
def writtenEntry (e : String × FlowData) : List Char × Node × Option Node :=
  (entryText e.1 e.2.text, .scalar .absent false e.1.toList, some e.2.node)

/-- Data is read by what it starts with, once what is nested in it can be read. -/
theorem readContent?_text (hnode : ReadsData node bound) {place : FlowPlace}
    (hversion : place.version = .v12) {d : FlowData} (hd : d.IsFit)
    (hbound : d.text.length ≤ bound + 1) {inFlow : Bool} {rest : List Char}
    (hrest : EndsPlain inFlow rest) (indent column : Nat) (start : Cursor) :
    readContent? node place inFlow indent start ⟨d.text ++ rest, column⟩ =
      .ok (some (d.node, ⟨rest, column + d.text.length⟩)) := by
  cases hd with
  | null =>
    have hword : IsPlainWord "null".toList := .bare _ _ (List.all_eq_true.mp (by decide))
    exact readContent?_word hword hversion hrest indent column start
  | bool b => exact readContent?_word (isPlainWord_truthText b) hversion hrest indent column start
  | int n short =>
    exact readContent?_word (isPlainWord_intText n) hversion hrest indent column start
  | string s => exact readContent?_quotedText node s hversion inFlow rest indent column start
  | list items fit =>
    have htexts : (items.map writtenItem).map Prod.fst = items.map FlowData.text := List.map_map
    have hnodes : ((items.map writtenItem).map fun e => itemOf e.2.1 e.2.2) =
        items.map FlowData.node := List.map_map
    rw [FlowData.text, FlowData.itemTexts_eq, ← htexts] at hbound ⊢
    rw [FlowData.node, FlowData.itemNodes_eq, ← hnodes]
    refine readContent?_list (fun e he => ?_) (fun e he => ?_) inFlow indent column rest
    · obtain ⟨d, -, rfl⟩ := List.mem_map.mp he
      exact d.starts_text
    · have hitem := length_le_of_mem_bracketText (List.mem_map_of_mem he) hbound
      obtain ⟨d, hd, rfl⟩ := List.mem_map.mp he
      have hinside : (place.inside true start).version = .v12 := hversion
      exact readsEntry_item hnode hinside (fit d hd) hitem
  | map entries fit short distinct =>
    have htexts : (entries.map writtenEntry).map Prod.fst =
        entries.map fun e => entryText e.1 e.2.text := List.map_map
    have hnodes : ((entries.map writtenEntry).map fun e => (e.2.1, e.2.2.getD .empty)) =
        entries.map fun e => (.scalar .absent false e.1.toList, e.2.node) := List.map_map
    rw [FlowData.text, FlowData.entryTexts_eq, ← htexts] at hbound ⊢
    rw [FlowData.node, FlowData.entryNodes_eq, ← hnodes]
    refine readContent?_map (fun e he => ?_) (fun e he => ?_) inFlow indent column rest
    · obtain ⟨e, -, rfl⟩ := List.mem_map.mp he
      exact ⟨_, _, rfl, by decide⟩
    · have hentry := length_le_of_mem_bracketText (List.mem_map_of_mem he) hbound
      obtain ⟨given, hgiven, rfl⟩ := List.mem_map.mp he
      have hvalue : given.2.text.length ≤ bound := by
        simp only [writtenEntry, entryText, List.length_append, List.length_cons] at hentry
        omega
      have hinside : (place.inside false start).version = .v12 := hversion
      exact readsEntry_pair hnode hinside rfl
        (fit given hgiven) (short given hgiven) hvalue

end

/-- Inside brackets, data is read that is no longer than the depth. -/
theorem readsData_readFlowNode (setting : Setting) (depth : Nat) :
    ReadsData (readFlowNode setting depth) depth := by
  induction depth with
  | zero =>
    refine ⟨fun _ _ _ _ _ h => absurd h (Nat.lt_irrefl 0), fun _ d _ _ _ _ _ h _ => ?_⟩
    obtain ⟨c, s, hcs, -⟩ := d.starts_text
    simp [hcs] at h
  | succ depth ih =>
    have hstep : ∀ (place : FlowPlace) (c : Char) (s : List Char) (column : Nat) (node : Node)
        (stop : Cursor), isStart c = true → atMarker ⟨c :: s, column⟩ = false →
        readContent? (readFlowNode setting depth) place true 0 ⟨c :: s, column⟩
          ⟨c :: s, column⟩ = .ok (some (node, stop)) →
        readFlowNode setting (depth + 1) place ⟨c :: s, column⟩ = .ok (node, stop) := by
      intro place c s column node stop hc hmarker hcontent
      rw [readFlowNode, hmarker, if_neg Bool.false_ne_true, propertiesAt_start hc]
      simp only [readAfterProperties?, Properties.isNone, Properties.none]
      simp [hcontent, withProperties, Node.withProperties?, Properties.isNone]
    refine ⟨fun place s rest column hversion _ => ?_,
      fun place d c rest column hversion hd hbound hc => ?_⟩
    · have hcontent := readContent?_quotedText (readFlowNode setting depth) s hversion true
        rest 0 column ⟨quotedText s ++ rest, column⟩
      rw [quotedText, List.cons_append] at hcontent ⊢
      exact hstep place _ _ _ _ _ (by decide) (atMarker_start (by decide) (by decide) _ _) hcontent
    · have hcontent := readContent?_text ih hversion hd hbound (endsPlain_mark hc rest) 0 column
        ⟨d.text ++ c :: rest, column⟩
      have hmarker := d.atMarker_text (c :: rest) column
      obtain ⟨a, s, has, ha⟩ := d.starts_text
      rw [has, List.cons_append] at hcontent hmarker ⊢
      exact hstep place a _ _ _ _ ha hmarker hcontent

end StaticSite.Yaml
