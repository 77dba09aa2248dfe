/-
StaticSite.Proofs.Page.CodeRows — the lines of a block of code read back from it.

The inside of a block is cut into rows at its line ends. There is one row for
each line, in the same order (`rowsOf_joinWith`), as neither a line nor the
prompt has a line end of its own. With a prompt a row is empty just if there
is no line: an empty line still has the prompt in front. So the lines are read
back from the rows (`codeBlock_rows`). Without a prompt, no line and an empty
one look alike.
-/
import StaticSite.Page.CodeBlock
import StaticSite.Proofs.Text.Splitting
import Mathlib.Data.List.Forall2

namespace StaticSite

open StaticSite.Markup StaticSite.Text

/-! ## 1. Rows -/

/-- The rows of a text: what stands between its line ends. -/
def rowsOf (s : String) : List String :=
  (splitOn (· == '\n') s.toList).map String.ofList

/-- Rows without line ends are found again when they have been joined. -/
theorem rowsOf_joinWith {rows : List String} (hne : rows ≠ [])
    (h : ∀ row ∈ rows, '\n' ∉ row.toList) : rowsOf (joinWith "\n" rows) = rows := by
  have hsplit : splitOn (· == '\n') (joinWith "\n" rows).toList = rows.map String.toList := by
    rw [toList_joinWith]
    refine splitOn_joinLists rfl (by simpa using hne) ?_
    intro chars hchars c hc
    obtain ⟨row, hrow, rfl⟩ := List.mem_map.mp hchars
    rw [beq_eq_false_iff_ne]
    rintro rfl
    exact h row hrow hc
  rw [rowsOf, hsplit, List.map_map]
  exact List.map_id'' (fun row => String.ofList_toList) rows

/-! ## 2. Blocks -/

/-- A block of code around its inside. -/
def blockAround (inside : String) : String :=
  "<div class=\"code-block\">" ++ inside ++ "</div>"

/-- A prompt as it stands in front of a line. -/
def promptSpan (sign : String) : String :=
  "<span class=\"prefix\">" ++ sign ++ "</span>"

/-- An element with nothing but a class, from what its tags are written as. -/
theorem element_class {tag cls opening closing : String}
    (hopening : "<" ++ tag ++ " class=\"" ++ escape cls ++ "\">" = opening)
    (hclosing : "</" ++ tag ++ ">" = closing) (body : String) :
    element tag [("class", cls)] body = opening ++ body ++ closing := by
  have hname : attributeName "class" = "class" := rfl
  have hmark : "\"" ++ ">" = "\">" := by decide
  have hclass : " " ++ "class" ++ "=\"" = " class=\"" := by decide
  subst hopening hclosing
  simp only [element, renderElement, renderTexts, valuedAttribute, hname, String.append_empty,
    String.append_assoc, ← hmark, ← hclass]

theorem divOf_codeBlock (inside : String) : divOf "code-block" inside = blockAround inside :=
  element_class (by decide) (by decide) inside

theorem spanOf_prefix (sign : String) : spanOf "prefix" sign = promptSpan sign :=
  element_class (by decide) (by decide) sign

theorem codeBlock_eq (lines : List (Option String)) (prompt : Option String) :
    codeBlock lines prompt = blockAround (joinWith "\n" (lines.map (codeLine prompt))) :=
  divOf_codeBlock _

theorem promptSpan_append_ne (sign s : String) : promptSpan sign ++ s ≠ "" := by
  intro hempty
  have hspan : "<span class=\"prefix\">" ++ sign ++ "</span>" = "" :=
    (String.append_eq_empty_iff.mp hempty).1
  have hclosing : "</span>" ≠ "" := by decide
  exact hclosing (String.append_eq_empty_iff.mp hspan).2

/-! ## 3. Lines and rows -/

/-- A row shows a line after a prompt: it is empty just if there is no line, and otherwise the line
follows the prompt as it stands. -/
structure IsRowOf (sign : String) (line : Option String) (row : String) : Prop where
  empty_iff : row = "" ↔ line = none
  text : ∀ s, line = some s → row = promptSpan sign ++ s

/-- The line that a row shows after a prompt, if the row is empty or starts with the prompt. -/
def lineIn? (sign row : String) : Option (Option String) :=
  if row = "" then some none
  else (row.toList.dropPrefix? (promptSpan sign).toList).map fun s => some (String.ofList s)

section

variable {sign : String} (hsign : sign ≠ "")

include hsign

theorem codeLine_some (s : String) : codeLine (some sign) (some s) = promptSpan sign ++ s := by
  have hnonempty : sign.isEmpty = false := by simpa using hsign
  rw [codeLine, hnonempty, ← spanOf_prefix]
  rfl

theorem isRowOf_codeLine (line : Option String) :
    IsRowOf sign line (codeLine (some sign) line) := by
  cases line with
  | none => exact ⟨iff_of_true rfl rfl, fun s hs => nomatch hs⟩
  | some s =>
    rw [codeLine_some hsign]
    refine ⟨iff_of_false (promptSpan_append_ne sign s) (Option.some_ne_none s), fun t ht => ?_⟩
    rw [Option.some.inj ht]

end

/-- A row that shows a line is read as this line. -/
theorem IsRowOf.lineIn?_eq {sign row : String} {line : Option String} (h : IsRowOf sign line row) :
    lineIn? sign row = some line := by
  cases line with
  | none => rw [lineIn?, if_pos (h.empty_iff.mpr rfl)]
  | some s =>
    have hrow : row ≠ "" := fun hempty => nomatch h.empty_iff.mp hempty
    have hrest : row.toList.dropPrefix? (promptSpan sign).toList = some s.toList := by
      rw [h.text s rfl, String.toList_append]
      exact List.dropPrefix?_append_of_beq _ (beq_self_eq_true _)
    rw [lineIn?, if_neg hrow, hrest, Option.map_some, String.ofList_toList]

theorem mapM_lineIn? {sign : String} {lines : List (Option String)} {rows : List String}
    (h : List.Forall₂ (IsRowOf sign) lines rows) :
    rows.mapM (lineIn? sign) = some lines := by
  induction h with
  | nil => rfl
  | cons hrow hrows ih => rw [List.mapM_cons, hrow.lineIn?_eq, ih]; rfl

/-- What a block has as a row for a line without a prompt. -/
theorem codeLine_of_no_prompt {prompt : Option String} (h : prompt = none ∨ prompt = some "")
    (line : Option String) : codeLine prompt line = line.getD "" := by
  cases line with
  | none => rfl
  | some s => rcases h with rfl | rfl <;> rfl

/-! ## 4. Reading back -/

theorem not_mem_append {c : Char} {s t : String} (hs : c ∉ s.toList) (ht : c ∉ t.toList) :
    c ∉ (s ++ t).toList := by
  rw [String.toList_append, List.mem_append, not_or]
  exact ⟨hs, ht⟩

section

variable {lines : List (Option String)} {prompt : Option String}

/-- Line ends come neither from a line nor from the prompt. -/
theorem not_mem_codeLine {line : Option String} (hline : ∀ s ∈ line, '\n' ∉ s.toList)
    (hprompt : ∀ sign ∈ prompt, '\n' ∉ sign.toList) :
    '\n' ∉ (codeLine prompt line).toList := by
  cases line with
  | none => exact List.not_mem_nil
  | some s =>
    cases prompt with
    | none => exact hline s rfl
    | some sign =>
      rcases eq_or_ne sign "" with hempty | hsign
      · rw [codeLine_of_no_prompt (Or.inr (congrArg some hempty))]
        exact hline s rfl
      · have hspan : '\n' ∉ (promptSpan sign).toList :=
          not_mem_append (not_mem_append (by decide) (hprompt sign rfl)) (by decide)
        rw [codeLine_some hsign]
        exact not_mem_append hspan (hline s rfl)

/-- The inside of a block has one row for each line, in the same order. -/
theorem rowsOf_inside (hne : lines ≠ [])
    (hlines : ∀ line ∈ lines, ∀ s ∈ line, '\n' ∉ s.toList)
    (hprompt : ∀ sign ∈ prompt, '\n' ∉ sign.toList) :
    rowsOf (joinWith "\n" (lines.map (codeLine prompt))) = lines.map (codeLine prompt) := by
  refine rowsOf_joinWith (by simpa using hne) fun row hrow => ?_
  obtain ⟨line, hline, rfl⟩ := List.mem_map.mp hrow
  exact not_mem_codeLine (hlines line hline) hprompt

end

/-- A block of code has as its rows its lines in their order. After a prompt, a row is empty just if
there is no line, and holds the line as it stands otherwise, so the lines are read back from the
rows. Without a prompt, or with an empty one, the rows are the lines themselves, and empty where
there is none. -/
theorem codeBlock_rows {lines : List (Option String)} (hne : lines ≠ [])
    (hlines : ∀ line ∈ lines, ∀ s ∈ line, '\n' ∉ s.toList) :
    (∀ sign, sign ≠ "" → '\n' ∉ sign.toList →
      ∃ inside, codeBlock lines (some sign) = blockAround inside ∧
        List.Forall₂ (IsRowOf sign) lines (rowsOf inside) ∧
        (rowsOf inside).mapM (lineIn? sign) = some lines) ∧
      ∀ prompt, prompt = none ∨ prompt = some "" →
        ∃ inside, codeBlock lines prompt = blockAround inside ∧
          rowsOf inside = lines.map fun line => line.getD "" := by
  constructor
  · intro sign hsign hunbroken
    have hrows : rowsOf (joinWith "\n" (lines.map (codeLine (some sign)))) =
        lines.map (codeLine (some sign)) :=
      rowsOf_inside hne hlines fun s hs => Option.some.inj hs ▸ hunbroken
    have hshown : List.Forall₂ (IsRowOf sign) lines (lines.map (codeLine (some sign))) :=
      List.forall₂_map_right_iff.mpr
        (List.forall₂_same.mpr fun line _ => isRowOf_codeLine hsign line)
    refine ⟨_, codeBlock_eq lines (some sign), ?_, ?_⟩
    · rw [hrows]
      exact hshown
    · rw [hrows]
      exact mapM_lineIn? hshown
  · intro prompt hprompt
    refine ⟨_, codeBlock_eq lines prompt, ?_⟩
    rw [rowsOf_inside hne hlines]
    · exact List.map_congr_left fun line _ => codeLine_of_no_prompt hprompt line
    · rintro sign rfl
      rcases hprompt with hnone | hempty
      · cases hnone
      · rw [Option.some.inj hempty]
        exact List.not_mem_nil

/-- Lines of all kinds: none at either end, an empty one, and one that looks like a row. -/
def oddLines : List (Option String) :=
  [none, some "", some "<span class=\"prefix\">$ </span>ls", none, some "</div>", none]

theorem codeBlock_rows_oddLines :
    oddLines ≠ [] ∧ (∀ line ∈ oddLines, ∀ s ∈ line, '\n' ∉ s.toList) ∧
      (∃ inside, codeBlock oddLines (some shellPrompt) = blockAround inside ∧
        List.Forall₂ (IsRowOf shellPrompt) oddLines (rowsOf inside) ∧
        (rowsOf inside).mapM (lineIn? shellPrompt) = some oddLines) ∧
      ∃ inside, codeBlock oddLines none = blockAround inside ∧
        rowsOf inside = oddLines.map fun line => line.getD "" := by
  have hlines : ∀ line ∈ oddLines, ∀ s ∈ line, '\n' ∉ s.toList := by decide
  have hne : oddLines ≠ [] := by decide
  have hrows := codeBlock_rows hne hlines
  exact ⟨hne, hlines, hrows.1 shellPrompt (by decide) (by decide), hrows.2 none (Or.inl rfl)⟩

end StaticSite
