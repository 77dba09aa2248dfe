/-
StaticSite.Proofs.Markdown.SafeEmphasis — emphasis in a safe text is safe.

The elements that runs of signs make hold parts of the text and signs that
have found no partner, and no sign is an angle bracket. So what has been
read stays safe while runs are opened and closed (`OpenText.IsSafe.addRun`),
part by part to the end of the text (`allSafe_emphasize`).
-/
import Mathlib.Data.List.SplitBy
import StaticSite.Proofs.Markdown.Safety

namespace StaticSite.Markdown

/-! ## 1. Runs -/

theorem SignRun.allSafe_signs {r : SignRun} (h : r.sign ≠ '<') (count : Nat) :
    AllSafe (r.signs count) :=
  allSafe_replicate (.char h) count

theorem sign_of_signRun {before after : Option Atom} {part : Atoms} {r : SignRun}
    (h : signRun? before part after = some r) : r.sign ≠ '<' := by
  unfold signRun? at h
  dsimp only at h
  split_ifs at h
  · cases h
    exact (by decide : '*' ≠ '<')
  · cases h
    exact (by decide : '_' ≠ '<')

/-! ## 2. Openings -/

/-- The sign is no angle bracket, and the text after it is safe. -/
structure Opening.IsSafe (o : Opening) : Prop where
  sign : o.run.sign ≠ '<'
  content : AllSafe o.content

namespace Opening.IsSafe

variable {o : Opening}

theorem literal (h : o.IsSafe) : AllSafe o.literal := by
  have helements := h.content.dropWhile (p := fun a => !isEmphasis a)
  unfold Opening.literal
  dsimp only
  split
  · exact allSafe_append.mpr ⟨helements.take 1, helements⟩
  · exact allSafe_append.mpr ⟨SignRun.allSafe_signs h.sign _, h.content⟩

theorem inside (h : o.IsSafe) : AllSafe o.inside := by
  have hcontent := h.content
  unfold Opening.inside
  split
  · next n tag attributes first rest _ heq =>
    dsimp only
    split
    · exact hcontent
    · rw [heq] at hcontent
      obtain ⟨hnode, hrest⟩ := allSafe_cons.mp hcontent
      have hsigns := allSafe_append.mpr ⟨hnode.content, SignRun.allSafe_signs h.sign (n + 1)⟩
      exact allSafe_cons.mpr ⟨hnode.withContent (allSafe_append.mpr ⟨hsigns, hrest.takeWhile⟩),
        hrest.drop _⟩
  · exact hcontent

theorem shorten (h : o.IsSafe) {element : Atom} (helement : element.IsSafe) (used : Nat)
    (again : Bool) : (o.shorten used element again).IsSafe :=
  ⟨h.sign, allSafe_cons.mpr ⟨helement, allSafe_nil⟩⟩

end Opening.IsSafe

/-- All openings are safe. -/
def AllOpeningsSafe (openings : List Opening) : Prop :=
  ∀ o ∈ openings, o.IsSafe

theorem AllOpeningsSafe.literals {openings : List Opening} (h : AllOpeningsSafe openings) :
    AllSafe (openings.reverse.flatMap Opening.literal) := by
  intro a ha
  obtain ⟨o, ho, ha⟩ := List.mem_flatMap.mp ha
  exact (h o (List.mem_reverse.mp ho)).literal a ha

/-! ## 3. What has been read -/

namespace OpenText

/-- The text and the openings are safe. -/
structure IsSafe (t : OpenText) : Prop where
  before : AllSafe t.before
  openings : AllOpeningsSafe t.openings

namespace IsSafe

variable {t : OpenText} {r : SignRun}

theorem addText (h : t.IsSafe) {s : Atoms} (hs : AllSafe s) : (t.addText s).IsSafe := by
  have hopenings := h.openings
  unfold OpenText.addText
  split
  · exact ⟨allSafe_append.mpr ⟨h.before, hs⟩, h.openings⟩
  · next o around heq =>
    rw [heq] at hopenings
    obtain ⟨ho, haround⟩ := List.forall_mem_cons.mp hopenings
    have hlonger : ({ o with content := o.content ++ s } : Opening).IsSafe :=
      ⟨ho.sign, allSafe_append.mpr ⟨ho.content, hs⟩⟩
    exact ⟨h.before, List.forall_mem_cons.mpr ⟨hlonger, haround⟩⟩

theorem finish (h : t.IsSafe) : AllSafe t.finish :=
  allSafe_append.mpr ⟨h.before, h.openings.literals⟩

/-- The text with a change to each opening that concerns neither its sign nor its content. -/
theorem mapOpenings (h : t.IsSafe) {f : Opening → Opening}
    (hf : ∀ o : Opening, (f o).run = o.run ∧ (f o).content = o.content) :
    ({ t with openings := t.openings.map f } : OpenText).IsSafe := by
  refine ⟨h.before, fun o ho => ?_⟩
  obtain ⟨original, horiginal, rfl⟩ := List.mem_map.mp ho
  obtain ⟨hrun, hcontent⟩ := hf original
  have hsafe := h.openings original horiginal
  exact ⟨hrun ▸ hsafe.sign, hcontent ▸ hsafe.content⟩

theorem bar (h : t.IsSafe) (r : SignRun) : (OpenText.bar t r).IsSafe := by
  unfold OpenText.bar
  dsimp only
  split
  · exact h
  · exact h.mapOpenings fun o => ⟨rfl, rfl⟩

theorem addRest (h : t.IsSafe) (hr : r.sign ≠ '<') (remainder : Bool) :
    (t.addRest r remainder).IsSafe := by
  unfold OpenText.addRest
  split
  · exact h
  · split
    · exact ⟨h.before, List.forall_mem_cons.mpr ⟨⟨hr, allSafe_nil⟩, h.openings⟩⟩
    · exact h.addText (SignRun.allSafe_signs hr _)

end IsSafe

/-! ## 4. Closing -/

/-- What has been read is safe, and the sign of the run that closes openings is no angle
bracket. -/
structure Closing.IsSafe (c : Closing) : Prop where
  text : c.text.IsSafe
  sign : c.run.sign ≠ '<'

theorem Closing.IsSafe.closeOne {c next : Closing} (h : c.IsSafe)
    (hnext : closeOne? c = some next) : next.IsSafe := by
  unfold closeOne? at hnext
  split at hnext
  · cases hnext
  · next index _ =>
    have hdrop : AllOpeningsSafe (c.text.openings.drop index) :=
      fun o ho => h.text.openings o (List.drop_subset _ _ ho)
    have htake : AllOpeningsSafe (c.text.openings.take index) :=
      fun o ho => h.text.openings o (List.take_subset _ _ ho)
    split at hnext
    · cases hnext
    · next o around heq =>
      rw [heq] at hdrop
      obtain ⟨ho, haround⟩ := List.forall_mem_cons.mp hdrop
      have helement (tag : Tag) : (Atom.node tag []
          (o.inside ++ (c.text.openings.take index).reverse.flatMap Opening.literal)).IsSafe :=
        .bare (allSafe_append.mpr ⟨ho.inside, htake.literals⟩)
      cases hnext
      refine ⟨?_, h.sign⟩
      dsimp only
      split
      · have hless : ({ c.text with openings := around } : OpenText).IsSafe :=
          ⟨h.text.before, haround⟩
        exact hless.addText (allSafe_cons.mpr ⟨helement _, allSafe_nil⟩)
      · exact ⟨h.text.before,
          List.forall_mem_cons.mpr ⟨ho.shorten (helement _) _ _, haround⟩⟩

theorem Closing.IsSafe.closeAll {c : Closing} (h : c.IsSafe) (bound : Nat) :
    (closeAll bound c).IsSafe := by
  induction bound generalizing c with
  | zero => exact h
  | succ bound ih =>
    rw [OpenText.closeAll]
    split
    · exact h
    · split
      · exact h
      · next next hnext => exact ih (h.closeOne hnext)

namespace IsSafe

variable {t : OpenText} {r : SignRun}

theorem addRun (h : t.IsSafe) (hr : r.sign ≠ '<') : (t.addRun r).1.IsSafe := by
  unfold OpenText.addRun
  split
  · exact h.addRest hr false
  · have hstart : Closing.IsSafe ⟨t, r, false, false⟩ := ⟨h, hr⟩
    have hclosed := hstart.closeAll r.length
    dsimp only
    generalize closeAll r.length ⟨t, r, false, false⟩ = c at hclosed
    have hbarred : (if c.begun then c.text else c.text.bar r).IsSafe := by
      split
      · exact hclosed.text
      · exact hclosed.text.bar r
    have hsettled := hbarred.mapOpenings (f := Opening.settle) fun o => ⟨rfl, rfl⟩
    exact hsettled.addRest hclosed.sign c.begun

theorem addParts (h : t.IsSafe) {parts : List Atoms} (hparts : ∀ part ∈ parts, AllSafe part)
    (before : Option Atom) (taken : Bool) : (addParts before taken parts t).IsSafe := by
  induction parts generalizing t before taken with
  | nil => exact h
  | cons part rest ih =>
    obtain ⟨hpart, hrest⟩ := List.forall_mem_cons.mp hparts
    have hfree : AllSafe (if taken then part.drop 1 else part) := by
      split
      · exact hpart.drop 1
      · exact hpart
    unfold OpenText.addParts
    dsimp only
    split
    · next r hr => exact ih (h.addRun (sign_of_signRun hr)) hrest _ _
    · exact ih (h.addText hfree) hrest _ _

end IsSafe

end OpenText

/-! ## 5. The text -/

theorem allSafe_emphasize {s : Atoms} (h : AllSafe s) : AllSafe (emphasize s) := by
  have hempty : OpenText.empty.IsSafe :=
    ⟨allSafe_nil, fun _ ho => absurd ho List.not_mem_nil⟩
  refine (hempty.addParts (fun part hpart => ?_) none false).finish
  refine h.of_subset fun a ha => ?_
  rw [← List.flatten_splitBy sameKind s]
  exact List.mem_flatten_of_mem hpart ha

end StaticSite.Markdown
