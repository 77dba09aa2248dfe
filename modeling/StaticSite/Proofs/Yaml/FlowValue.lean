/-
StaticSite.Proofs.Yaml.FlowValue — what the tree of a line of data stands for.

The tree has no aliases, so that it is its own resolution. Texts in quotes are
strings whatever they look like, and the words outside quotes are the null,
the truth values and the integers that they were written for
(`plainMeaning_intText`). No key is a sign, and none is there twice; so the
tree stands for the data (`value_node`).
-/
import Mathlib.Data.List.TakeWhile
import StaticSite.Proofs.Text.Strip
import StaticSite.Proofs.Yaml.FlowText
import StaticSite.Yaml.Meaning

namespace StaticSite.Yaml

open StaticSite.Number

/-! ## 1. No aliases -/

theorem expandItems_of_forall {items : List Node}
    (h : ∀ node ∈ items, ∀ anchors, node.expand anchors = .ok (node, anchors))
    (anchors : Anchors) : expandItems anchors items = .ok (items, anchors) := by
  induction items with
  | nil => rfl
  | cons node rest ih =>
    rw [List.forall_mem_cons] at h
    simp only [expandItems, h.1, ih h.2]

theorem expandEntries_of_forall {entries : List (Node × Node)}
    (h : ∀ e ∈ entries, ∀ anchors,
      e.1.expand anchors = .ok (e.1, anchors) ∧ e.2.expand anchors = .ok (e.2, anchors))
    (anchors : Anchors) : expandEntries anchors entries = .ok (entries, anchors) := by
  induction entries with
  | nil => rfl
  | cons e rest ih =>
    rw [List.forall_mem_cons] at h
    simp only [expandEntries, (h.1 _).1, (h.1 _).2, ih h.2]

theorem itemsComeBack_of_forall {items : List Node} (h : ∀ node ∈ items, node.comesBack = false) :
    itemsComeBack items = false := by
  induction items with
  | nil => rfl
  | cons node rest ih =>
    rw [List.forall_mem_cons] at h
    simp [itemsComeBack, h.1, ih h.2]

theorem entriesComeBack_of_forall {entries : List (Node × Node)}
    (h : ∀ e ∈ entries, e.1.comesBack = false ∧ e.2.comesBack = false) :
    entriesComeBack entries = false := by
  induction entries with
  | nil => rfl
  | cons e rest ih =>
    rw [List.forall_mem_cons] at h
    simp [entriesComeBack, h.1.1, h.1.2, ih h.2]

namespace FlowData

variable {d : FlowData}

theorem IsFit.expand_node (hd : d.IsFit) :
    ∀ anchors, d.node.expand anchors = .ok (d.node, anchors) := by
  induction hd with
  | null | bool | int | string => exact fun _ => rfl
  | list items _ ih =>
    intro anchors
    have hitems : expandItems anchors (items.map node) = .ok (items.map node, anchors) := by
      refine expandItems_of_forall (fun n hn => ?_) anchors
      obtain ⟨d, hd, rfl⟩ := List.mem_map.mp hn
      exact ih d hd
    rw [node, itemNodes_eq, Node.expand, hitems]
  | map entries _ _ _ ih =>
    intro anchors
    have hentries : expandEntries anchors (entryNodes entries) =
        .ok (entryNodes entries, anchors) := by
      rw [entryNodes_eq]
      refine expandEntries_of_forall (fun e he anchors => ?_) anchors
      obtain ⟨given, hgiven, rfl⟩ := List.mem_map.mp he
      exact ⟨rfl, ih given hgiven anchors⟩
    rw [node, Node.expand, hentries]

theorem IsFit.comesBack_node (hd : d.IsFit) : d.node.comesBack = false := by
  induction hd with
  | null | bool | int | string => rfl
  | list items _ ih =>
    rw [node, itemNodes_eq, Node.comesBack]
    refine itemsComeBack_of_forall fun n hn => ?_
    obtain ⟨d, hd, rfl⟩ := List.mem_map.mp hn
    exact ih d hd
  | map entries _ _ _ ih =>
    rw [node, entryNodes_eq, Node.comesBack]
    refine entriesComeBack_of_forall fun e he => ?_
    obtain ⟨given, hgiven, rfl⟩ := List.mem_map.mp he
    exact ⟨rfl, ih given hgiven⟩

theorem IsFit.resolve_node (hd : d.IsFit) : d.node.resolve = .ok d.node := by
  simp [Node.resolve, hd.expand_node, hd.comesBack_node]

end FlowData

/-! ## 2. Integers -/

/-- A character of the numeral of an integer. -/
def isNumeralChar (c : Char) : Bool :=
  isDigit c || c == '-'

theorem intText_ne_nil (n : Int) : intText n ≠ [] := by
  cases n with
  | ofNat n => exact natText_ne_nil n
  | negSucc n => exact List.cons_ne_nil _ _

theorem isNumeralChar_of_mem_intText {c : Char} {n : Int} (h : c ∈ intText n) :
    isNumeralChar c = true := by
  cases n with
  | ofNat n => simp [isNumeralChar, isDigit_of_mem_natText h]
  | negSucc n =>
    rcases List.mem_cons.mp h with rfl | hdigit
    · decide
    · simp [isNumeralChar, isDigit_of_mem_natText hdigit]

section

variable {p : Char → Bool} {s : List Char} (hs : ∀ c ∈ s, p c = true)
include hs

/-- A text of characters of a class is no text with any other character in it. -/
theorem ne_of_all {word : List Char} (h : word.all p = false) : s ≠ word := by
  rintro rfl
  rw [List.all_eq_true.mpr hs] at h
  cases h

theorem isWord_of_all {small capital large : String}
    (h : ∀ word ∈ [small, capital, large], word.toList.all p = false) :
    isWord small capital large s = false := by
  simp only [List.forall_mem_cons] at h
  simp [isWord, ne_of_all hs h.1, ne_of_all hs h.2.1, ne_of_all hs h.2.2.1]

theorem dropLineFeed_of_all (hp : p '\n' = false) : dropLineFeed s = s := by
  rw [dropLineFeed, if_neg]
  rw [beq_iff_eq]
  intro hlast
  have hfeed := hs _ (List.mem_of_getLast? hlast)
  rw [hp] at hfeed
  cases hfeed

end

/-- A character of a number with a sign and points. -/
def isNumberChar (c : Char) : Bool :=
  isNumeralChar c || c == '.'

theorem isNumberChar_of_isDigit {c : Char} (hc : isDigit c = true) : isNumberChar c = true := by
  simp [isNumberChar, isNumeralChar, hc]

theorem toNat_of_isNumberChar {c : Char} (hc : isNumberChar c = true) :
    45 ≤ c.toNat ∧ c.toNat ≤ 57 := by
  simp only [isNumberChar, isNumeralChar, Bool.or_eq_true, beq_iff_eq] at hc
  rcases hc with (hdigit | rfl) | rfl
  · have hrange := toNat_of_isDigit hdigit
    omega
  · decide
  · decide

theorem isLineChar_of_isNumberChar {c : Char} (hc : isNumberChar c = true) :
    isLineChar c = true := by
  have hrange := toNat_of_isNumberChar hc
  simp only [isLineChar, Bool.and_eq_true, decide_eq_true_eq]
  omega

theorem isGraphic_of_isNumberChar {c : Char} (hc : isNumberChar c = true) :
    Text.IsGraphic c := by
  have hrange := toNat_of_isNumberChar hc
  rw [Text.IsGraphic]
  omega

/-- A number in the characters of ASCII is its own numeral. -/
theorem plainNumeral_of_isNumberChar {s : List Char} (hs : ∀ c ∈ s, isNumberChar c = true) :
    plainNumeral s = s := by
  have hspace : ∀ c ∈ s, isAsciiSpace c = false := by
    intro c hc
    have hbounds := toNat_of_isNumberChar (hs c hc)
    have hne : c ≠ ' ' := by
      rintro rfl
      exact absurd hbounds.1 (by decide)
    simp only [isAsciiSpace, beq_eq_false_iff_ne.mpr hne, Bool.false_or, Bool.and_eq_false_iff,
      decide_eq_false_iff_not]
    omega
  have hplain : s.map plainChar = s := by
    refine (List.map_congr_left fun c hc => ?_).trans (List.map_id s)
    have hbounds := toNat_of_isNumberChar (hs c hc)
    rw [plainChar, if_pos (by omega)]
    rfl
  have hstart : s.dropWhile isAsciiSpace = s := by
    rw [List.dropWhile_eq_self_iff]
    intro hlength
    simp [hspace _ (List.getElem_mem hlength)]
  rw [plainNumeral, hplain, hstart, Text.dropEndWhile_eq_self_iff]
  exact fun c hc => hspace c (List.mem_of_getLast? hc)

theorem isTrueWord_of_isNumberChar {s : List Char} (hs : ∀ c ∈ s, isNumberChar c = true)
    (version : Version) : isTrueWord version s = false := by
  have htrue : isWord "true" "True" "TRUE" s = false := isWord_of_all hs (by decide)
  have hyes : isWord "yes" "Yes" "YES" s = false := isWord_of_all hs (by decide)
  have hon : isWord "on" "On" "ON" s = false := isWord_of_all hs (by decide)
  have hsmall : s ≠ ['y'] := ne_of_all hs (by decide)
  have hcapital : s ≠ ['Y'] := ne_of_all hs (by decide)
  simp [isTrueWord, htrue, hyes, hon, hsmall, hcapital]

theorem isFalseWord_of_isNumberChar {s : List Char} (hs : ∀ c ∈ s, isNumberChar c = true)
    (version : Version) : isFalseWord version s = false := by
  have hfalse : isWord "false" "False" "FALSE" s = false := isWord_of_all hs (by decide)
  have hno : isWord "no" "No" "NO" s = false := isWord_of_all hs (by decide)
  have hoff : isWord "off" "Off" "OFF" s = false := isWord_of_all hs (by decide)
  have hsmall : s ≠ ['n'] := ne_of_all hs (by decide)
  have hcapital : s ≠ ['N'] := ne_of_all hs (by decide)
  simp [isFalseWord, hfalse, hno, hoff, hsmall, hcapital]

/-- A text with nothing but digits, signs and points is no word. -/
theorem plainMeaning_of_isNumberChar {s : List Char} (hs : ∀ c ∈ s, isNumberChar c = true)
    (hne : s ≠ []) (version : Version) :
    plainMeaning version s =
      if isDecimal version s then (readFloat version s).map fun x => .value (.float x)
      else if isInteger version s then (readInteger version s).map fun n => .value (.int n)
      else if isStamp s then
        match stampText? s with
        | some stamp => stamp.value.map .value
        | none => .error .badDate
      else .ok (.value (stringValue s)) := by
  have hnull : ¬ (s.isEmpty || s = ['~'] || isWord "null" "Null" "NULL" s) = true := by
    have htilde : s ≠ ['~'] := ne_of_all hs (by decide)
    rw [isWord_of_all hs (by decide), List.isEmpty_eq_false_iff.mpr hne]
    simp [htilde]
  have htruth : ¬ (isTrueWord version s || isFalseWord version s) = true := by
    simp [isTrueWord_of_isNumberChar hs, isFalseWord_of_isNumberChar hs]
  rw [plainMeaning]
  simp only [dropLineFeed_of_all hs (by decide)]
  rw [if_neg hnull, if_neg htruth, if_neg (ne_of_all hs (by decide))]
  exact if_neg (ne_of_all hs (by decide))

section

variable {s : List Char} (hs : ∀ c ∈ s, isDigit c = true) (hne : s ≠ [])
include hs

theorem isSpaced_of_digits : ∀ c ∈ s, isSpaced c = true := by
  intro c hc
  simp [isSpaced, hs c hc]

theorem head_ne_of_digits {c d : Char} {t : List Char} (hd : isDigit d = false) (h : s = c :: t) :
    c ≠ d := by
  rintro rfl
  rw [hs c (h ▸ List.mem_cons_self)] at hd
  cases hd

theorem dropSign_of_digits : dropSign s = s := by
  rw [dropSign.eq_def]
  split
  · exact (head_ne_of_digits hs (by decide) rfl rfl).elim
  · exact (head_ne_of_digits hs (by decide) rfl rfl).elim
  · rfl

theorem isNegative_of_digits : isNegative s = false := by
  cases s with
  | nil => rfl
  | cons c s => simpa [isNegative] using head_ne_of_digits hs (d := '-') (by decide) rfl

/-- Digits have no letter after a zero that names a base. -/
theorem second_ne_of_digits {c d : Char} {t : List Char} (hd : isDigit d = false)
    (h : s = '0' :: c :: t) : c ≠ d := by
  rintro rfl
  rw [hs c (by simp [h])] at hd
  cases hd

include hne

theorem isInteger_of_digits : isUnsignedInteger .v12 s = true := by
  have hall : allOf isSpaced s = true := by
    rw [allOf, List.isEmpty_eq_false_iff.mpr hne, List.all_eq_true.mpr (isSpaced_of_digits hs)]
    rfl
  unfold isUnsignedInteger
  rw [Bool.or_eq_true]
  refine .inr ?_
  split
  · rename_i hversion
    cases hversion
  · split
    · exact (second_ne_of_digits hs (by decide) rfl rfl).elim
    · exact hall

omit hne in
theorem not_isUnsignedDecimal_of_digits : isUnsignedDecimal s = false := by
  have hrest : s.dropWhile isSpaced = [] :=
    List.dropWhile_eq_nil_iff.mpr (isSpaced_of_digits hs)
  simp [isUnsignedDecimal, hrest, isExponent]

omit hne in
theorem not_isPointDecimal_of_digits : isPointDecimal s = false := by
  unfold isPointDecimal
  split
  · exact (head_ne_of_digits hs (by decide) rfl rfl).elim
  · rfl

omit hne in
theorem plainNumeral_of_digits : plainNumeral s = s :=
  plainNumeral_of_isNumberChar fun c hc => isNumberChar_of_isDigit (hs c hc)

variable {n : Nat} (hlength : s.length ≤ Number.maxDigits) (hread : readNat? 10 s = some n)
include hlength hread

omit hne in
/-- Digits that are not too many are read as the number that they make. -/
theorem integer?_of_digits : integer? 10 s = some (n : Int) := by
  have hbase : dropBase 10 (dropSign s) = s := by
    rw [dropSign_of_digits hs]
    unfold dropBase
    split
    · rfl
    · rfl
  simp only [integer?, plainNumeral_of_digits hs, hbase, hread, isNegative_of_digits hs]
  simp [isLimited, Nat.not_lt.mpr hlength]

omit hne in
theorem readUnsigned_of_digits : readUnsigned .v12 s = .ok (n : Int) := by
  unfold readUnsigned
  split
  · exact (second_ne_of_digits hs (by decide) rfl rfl).elim
  · exact (second_ne_of_digits hs (by decide) rfl rfl).elim
  · exact (second_ne_of_digits hs (by decide) rfl rfl).elim
  · simp only [integer?_of_digits hs hlength hread]
  all_goals contradiction

end

section

variable {n : Int}

theorem dropSign_intText : dropSign (intText n) = natText n.natAbs := by
  cases n with
  | ofNat n => exact dropSign_of_digits fun c hc => isDigit_of_mem_natText hc
  | negSucc n => rfl

theorem isNegative_intText : isNegative (intText n) = decide (n < 0) := by
  cases n with
  | ofNat n =>
    have hsign : isNegative (natText n) = false :=
      isNegative_of_digits fun c hc => isDigit_of_mem_natText hc
    rw [show intText (.ofNat n) = natText n from rfl, hsign]
    exact (decide_eq_false (Int.not_lt.mpr (Int.natCast_nonneg n))).symm
  | negSucc n => simp [intText, isNegative]

variable (hshort : (natText n.natAbs).length ≤ FlowData.maxDigits)
include hshort

theorem readInteger_intText : readInteger .v12 (intText n) = .ok n := by
  have hspacing : withoutSpacing (intText n) = intText n := by
    rw [withoutSpacing, List.filter_eq_self]
    intro c hc
    have hnumeral := isNumeralChar_of_mem_intText hc
    rw [bne_iff_ne]
    rintro rfl
    cases hnumeral
  have hne : (intText n).isEmpty = false := List.isEmpty_eq_false_iff.mpr (intText_ne_nil n)
  have hread : readUnsigned .v12 (natText n.natAbs) = .ok (n.natAbs : Int) :=
    readUnsigned_of_digits (fun c hc => isDigit_of_mem_natText hc)
      (Nat.le_trans hshort (by decide)) (readNat?_toDigits (by decide) (by decide) _)
  rw [readInteger, hspacing, hne, if_neg Bool.false_ne_true, dropSign_intText, hread,
    isNegative_intText]
  simp only [Except.map, decide_eq_true_eq]
  congr 1
  split
  · omega
  · omega

/-- The numeral of an integer stands for that integer. -/
theorem plainMeaning_intText : plainMeaning .v12 (intText n) = .ok (.value (.int n)) := by
  have hchars : ∀ c ∈ intText n, isNumeralChar c = true :=
    fun c hc => isNumeralChar_of_mem_intText hc
  have hdigits : ∀ c ∈ natText n.natAbs, isDigit c = true := fun c hc => isDigit_of_mem_natText hc
  have hdecimal : ¬ isDecimal .v12 (intText n) = true := by
    have hsigned : ∀ c ∈ natText n.natAbs, isNumeralChar c = true := by
      intro c hc
      simp [isNumeralChar, hdigits c hc]
    simp only [isDecimal, dropSign_intText, not_isUnsignedDecimal_of_digits hdigits,
      not_isPointDecimal_of_digits hdigits]
    rw [isWord_of_all hchars (by decide), isWord_of_all hsigned (by decide)]
    decide
  have hinteger : isInteger .v12 (intText n) = true := by
    have hline : (intText n).head? ≠ some '_' := by
      intro hhead
      have hnumeral := hchars _ (List.mem_of_head? hhead)
      cases hnumeral
    rw [isInteger, dropSign_intText, isInteger_of_digits hdigits (natText_ne_nil _), Bool.true_and,
      bne_iff_ne]
    exact hline
  rw [plainMeaning_of_isNumberChar (fun c hc => by simp [isNumberChar, hchars c hc])
    (intText_ne_nil n), if_neg hdecimal, if_pos hinteger, readInteger_intText hshort]
  rfl

end

/-! ## 3. Values -/

/-- Nodes outside keys, as the second version reads them. -/
def flowMode : Mode :=
  ⟨.v12, false⟩

theorem itemValues_of_forall {items : List FlowData}
    (h : ∀ d ∈ items, d.node.value flowMode = .ok d.value) :
    itemValues flowMode (items.map FlowData.node) = .ok (items.map FlowData.value) := by
  induction items with
  | nil => rfl
  | cons d rest ih =>
    rw [List.forall_mem_cons] at h
    simp [itemValues, h.1, ih h.2, join]

/-- A text in quotes is a key, and no sign. -/
theorem asKey_text (version : Version) (mode : Mode) (s : String) :
    (Node.scalar .absent false s.toList).asKey version
      ((Node.scalar .absent false s.toList).value mode) = .key (.ok (.string s)) := by
  have hvalue : (Node.scalar .absent false s.toList).value mode = .ok (.string s) := by
    simp [Node.value, scalarValue, asksForCollection, scalarMeaning, Meaning.value?, atTop,
      stringValue]
  rw [hvalue, Node.asKey]
  simp [Node.sign?, scalarMeaning, keyOf, atTop]

theorem mapParts_of_forall {entries : List (String × FlowData)}
    (h : ∀ e ∈ entries, e.2.node.value flowMode = .ok e.2.value) (found : Bool) :
    mapParts flowMode found
        (entries.map fun e => (.scalar .absent false e.1.toList, e.2.node)) =
      .ok ⟨[], entries.map fun e => ⟨.ok (.string e.1), .ok e.2.value⟩⟩ := by
  induction entries with
  | nil => rfl
  | cons e rest ih =>
    rw [List.forall_mem_cons] at h
    rw [List.map_cons, mapParts, asKey_text]
    simp only [ih h.2, h.1, List.map_cons]

/-- Entries whose keys are texts. -/
def keyedEntries (entries : List (String × Value)) : List (Value × Value) :=
  entries.map fun e => (.string e.1, e.2)

theorem any_sameKey_string (key : String) (keys : List String) :
    (keys.map Value.string).any (Value.sameKey (.string key)) = decide (key ∈ keys) := by
  induction keys with
  | nil => rfl
  | cons k rest ih =>
    rw [List.map_cons, List.any_cons, ih, show Value.sameKey (.string key) (.string k) =
      (key == k) from rfl]
    simp [List.mem_cons, beq_eq_decide]

/-- Entries with different texts for their keys are read one by one. -/
theorem readAll_of_distinct {entries : List (String × Value)} (seen : List String)
    (h : (entries.map Prod.fst).Nodup) (hseen : ∀ e ∈ entries, e.1 ∉ seen) :
    readAll true (seen.map .string) (entries.map fun e => ⟨.ok (.string e.1), .ok e.2⟩) =
      .ok (keyedEntries entries) := by
  induction entries generalizing seen with
  | nil => rfl
  | cons e rest ih =>
    rw [List.map_cons, List.nodup_cons] at h
    rw [List.forall_mem_cons] at hseen
    have hcheck : checkKey true (seen.map .string) (.string e.1) = .ok () := by
      rw [checkKey, any_sameKey_string, decide_eq_false hseen.1]
      rfl
    have hrest : readAll true ((e.1 :: seen).map .string)
        (rest.map fun e => ⟨.ok (.string e.1), .ok e.2⟩) = .ok (keyedEntries rest) := by
      refine ih _ h.2 fun other hother => ?_
      rw [List.mem_cons, not_or]
      refine ⟨?_, hseen.2 other hother⟩
      intro hsame
      exact h.1 (List.mem_map.mpr ⟨other, hother, hsame⟩)
    rw [List.map_cons, readAll]
    simp only [hcheck, join]
    rw [show Value.string e.1 :: seen.map .string = (e.1 :: seen).map .string from rfl, hrest]
    rfl

theorem putKey_of_new {key : String} {table : List (String × Value)}
    (h : key ∉ table.map Prod.fst) (v : Value) :
    Value.putKey (.string key) v (keyedEntries table) = keyedEntries (table ++ [(key, v)]) := by
  induction table with
  | nil => rfl
  | cons e rest ih =>
    rw [List.map_cons, List.mem_cons, not_or] at h
    have hother : Value.sameKey (.string e.1) (.string key) = false :=
      beq_eq_false_iff_ne.mpr (Ne.symm h.1)
    rw [keyedEntries, List.map_cons, Value.putKey, hother, if_neg Bool.false_ne_true]
    exact congrArg _ (ih h.2)

/-- A table of entries with different keys is made of them in their order. -/
theorem tableOf_of_distinct {entries : List (String × Value)}
    (h : (entries.map Prod.fst).Nodup) : tableOf (keyedEntries entries) = keyedEntries entries := by
  have hput : ∀ (table entries : List (String × Value)),
      ((table ++ entries).map Prod.fst).Nodup →
      (keyedEntries entries).foldl (fun table e => Value.putKey e.1 e.2 table)
        (keyedEntries table) = keyedEntries (table ++ entries) := by
    intro table entries
    induction entries generalizing table with
    | nil => simp [keyedEntries]
    | cons e rest ih =>
      intro hkeys
      have hnew : e.1 ∉ table.map Prod.fst := by
        rw [List.map_append, List.nodup_append] at hkeys
        intro hmem
        exact hkeys.2.2 _ hmem _ (by simp) rfl
      rw [show keyedEntries (e :: rest) = (.string e.1, e.2) :: keyedEntries rest from rfl,
        List.foldl_cons, putKey_of_new hnew]
      have hrest := ih (table ++ [e]) (by simpa using hkeys)
      rwa [List.append_assoc, List.singleton_append] at hrest
  exact hput [] entries h

/-- The tree of data within the limits stands for the data. -/
theorem FlowData.IsFit.value_node {d : FlowData} (hd : d.IsFit) :
    d.node.value flowMode = .ok d.value := by
  induction hd with
  | null => rfl
  | bool b => cases b <;> rfl
  | int n short =>
    have hmeaning := plainMeaning_intText short
    simp [FlowData.node, FlowData.value, Node.value, scalarValue, asksForCollection,
      scalarMeaning, flowMode, hmeaning, Meaning.value?, atTop]
  | string s =>
    simp [FlowData.node, FlowData.value, Node.value, scalarValue, asksForCollection,
      scalarMeaning, stringValue, Meaning.value?, atTop]
  | list items _ ih =>
    rw [FlowData.node, FlowData.value, FlowData.itemNodes_eq, FlowData.itemValues_eq, Node.value]
    simp only [collectionType, itemValues_of_forall ih, Except.map, nested]
  | map entries _ _ distinct ih =>
    have hvalues : entries.map (fun e => (Value.string e.1, e.2.value)) =
        keyedEntries (entries.map fun e => (e.1, e.2.value)) := by
      simp [keyedEntries]
    have hkeys : ((entries.map fun e => (e.1, e.2.value)).map Prod.fst).Nodup := by
      rw [List.map_map]
      exact distinct
    have hentries := readAll_of_distinct [] hkeys fun _ _ => List.not_mem_nil
    have hparts : MapParts.map
        ⟨[], entries.map fun e => ⟨.ok (.string e.1), .ok e.2.value⟩⟩ =
          .ok (.map (keyedEntries (entries.map fun e => (e.1, e.2.value)))) := by
      rw [List.map_map] at hentries
      simp only [MapParts.map, MapParts.entries, MapParts.all, List.nil_append, List.isEmpty_nil]
      rw [show readAll true [] (entries.map fun e => ⟨.ok (.string e.1), .ok e.2.value⟩) = _
        from hentries]
      simp only [Except.map, tableOf_of_distinct hkeys]
    rw [FlowData.node, FlowData.value, FlowData.entryNodes_eq, FlowData.entryValues_eq, Node.value,
      hvalues]
    simp only [collectionType, mapParts_of_forall ih, hparts, nested]

end StaticSite.Yaml
