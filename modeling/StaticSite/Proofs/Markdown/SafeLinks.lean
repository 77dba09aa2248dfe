/-
StaticSite.Proofs.Markdown.SafeLinks — links and images of safe texts.

The text of a link, its target and its title are parts of the text it stands
in, or the target and the title are those of a reference. A target in angle
brackets does not exist in a safe text (`angleTarget?_eq_none`).
-/
import StaticSite.Proofs.Markdown.SafeBlocks

namespace StaticSite.Markdown

variable {s t text rest : Atoms}

/-! ## 1. Angle brackets -/

theorem AllSafe.ne_angle (h : AllSafe s) (r : Atoms) : s ≠ .char '<' :: r := by
  rintro rfl
  exact (allSafe_cons.mp h).1.ne rfl

theorem angleTarget?_eq_none (h : AllSafe s) : angleTarget? s = none := by
  unfold angleTarget?
  split
  · exact absurd rfl (h.ne_angle _)
  · rfl

/-! ## 2. Brackets -/

theorem AllSafe.bracketed (h : AllSafe s) {depth : Nat}
    (ht : bracketed? depth s = some (text, rest)) : AllSafe text ∧ AllSafe rest := by
  induction s generalizing depth text with
  | nil => cases ht
  | cons a s ih =>
    obtain ⟨ha, hs⟩ := allSafe_cons.mp h
    have hmore {depth : Nat}
        (ht : (bracketed? depth s).map (fun found => (a :: found.1, found.2)) = some (text, rest)) :
        AllSafe text ∧ AllSafe rest := by
      obtain ⟨⟨inner, after⟩, hinner, heq⟩ := Option.map_eq_some_iff.mp ht
      cases heq
      obtain ⟨htext, hrest⟩ := ih hs hinner
      exact ⟨allSafe_cons.mpr ⟨ha, htext⟩, hrest⟩
    unfold bracketed? at ht
    split at ht
    · cases depth with
      | zero =>
        cases ht
        exact ⟨allSafe_nil, hs⟩
      | succ depth => exact hmore ht
    · exact hmore ht

theorem AllSafe.opening (h : AllSafe s) {image : Bool} {before : Atoms}
    (ht : opening? image before s = some (text, rest)) : AllSafe text ∧ AllSafe rest := by
  unfold opening? at ht
  split at ht
  · split at ht
    · exact (allSafe_cons.mp (allSafe_cons.mp h).2).2.bracketed ht
    · cases ht
  · split at ht
    · split at ht
      · cases ht
      · exact (allSafe_cons.mp h).2.bracketed ht
    · cases ht

/-! ## 3. Targets -/

/-- The place and the title are safe. -/
structure Target.IsSafe (t : Target) : Prop where
  place : AllSafe t.place
  title : IsSafeTitle t.title

theorem AllSafe.dequote (h : AllSafe s) : AllSafe (dequote s) := by
  rw [Markdown.dequote]
  split_ifs
  · exact (h.drop 1).dropLast
  · exact h

theorem AllSafe.blankToSpace (h : AllSafe s) : AllSafe (s.map blankToSpace) := by
  intro a ha
  obtain ⟨b, hb, rfl⟩ := List.mem_map.mp ha
  rw [Markdown.blankToSpace]
  split_ifs
  · exact .char (by decide)
  · exact h b hb

theorem Target.isSafe_ofParts {place : Atoms} (hplace : AllSafe place) {title : Option Atoms}
    (htitle : IsSafeTitle title) : (Target.ofParts place title).IsSafe := by
  refine ⟨hplace.flatten.trim, fun t ht => ?_⟩
  obtain ⟨original, horiginal, rfl⟩ := Option.map_eq_some_iff.mp ht
  exact (htitle original horiginal).trim.flatten.dequote.blankToSpace

theorem AllSafe.targetOf (h : AllSafe s) (st : Search) (index : Nat) :
    (targetOf st index s).IsSafe := by
  have hplain (n : Nat) : (Target.ofParts (s.take n) none).IsSafe :=
    Target.isSafe_ofParts (h.take n) isSafeTitle_none
  have htitled (n first stop : Nat) :
      (Target.ofParts (s.take n) (some (slice first stop s))).IsSafe :=
    Target.isSafe_ofParts (h.take n) (isSafeTitle_some.mpr ((h.take stop).drop first))
  unfold Markdown.targetOf
  dsimp only
  split
  · split
    · exact htitled _ _ _
    · split
      · split
        · exact htitled _ _ _
        · exact hplain _
      · exact hplain _
  · split
    · exact htitled _ _ _
    · exact hplain _
  · exact hplain _

theorem AllSafe.plainTarget (h : AllSafe s) {target : Target}
    (ht : plainTarget? s = some (target, rest)) : target.IsSafe ∧ AllSafe rest := by
  unfold plainTarget? at ht
  dsimp only at ht
  split at ht
  · cases ht
    exact ⟨h.targetOf _ _, h.drop _⟩
  · split at ht
    · cases ht
      exact ⟨Target.isSafe_ofParts (h.take _) isSafeTitle_none, h.drop _⟩
    · cases ht

theorem AllSafe.targetAt (h : AllSafe s) {target : Target}
    (ht : targetAt? s = some (target, rest)) : target.IsSafe ∧ AllSafe rest := by
  unfold targetAt? at ht
  split at ht
  · next inner =>
    have hinner := (allSafe_cons.mp h).2.dropBlank
    dsimp only at ht
    rw [angleTarget?_eq_none hinner] at ht
    exact hinner.plainTarget ht
  · cases ht

theorem AllReferencesSafe.referenceTarget {references : References}
    (h : AllReferencesSafe references) {label : Atoms} {target : Target}
    (ht : referenceTarget? references label = some target) : target.IsSafe := by
  unfold referenceTarget? at ht
  split at ht
  · cases ht
  · obtain ⟨r, hr, rfl⟩ := Option.map_eq_some_iff.mp ht
    have hsafe := h.find hr
    exact ⟨hsafe.target, hsafe.title⟩

/-! ## 4. Elements -/

theorem Target.IsSafe.linkTo {target : Target} (h : target.IsSafe) (image : Bool)
    {inner : Atoms → Atoms} (htext : AllSafe text) (hinner : AllSafe (inner text)) :
    (linkTo image inner text target).IsSafe := by
  have hname : ∀ name ∈ ["alt", "src", "href", "title"], Markup.isName name = true := by decide
  have htitleName : ∀ entry ∈ titleAttribute target.title, Markup.isName entry.1 = true := by
    cases target.title with
    | none => simp [titleAttribute]
    | some title => exact List.forall_mem_singleton.mpr (hname "title" (by simp))
  have htitleValue : ∀ entry ∈ titleAttribute target.title, AllSafe entry.2 := by
    cases htitle : target.title with
    | none => simp [titleAttribute]
    | some title => exact List.forall_mem_singleton.mpr (h.title title htitle)
  cases image with
  | true =>
    refine .node ?_ ?_ (fun htag => by cases htag) allSafe_nil
    · simp only [List.cons_append, List.nil_append, List.forall_mem_cons]
      exact ⟨hname "alt" (by simp), hname "src" (by simp), htitleName⟩
    · simp only [List.cons_append, List.nil_append, List.forall_mem_cons]
      exact ⟨htext.flatten, h.place, htitleValue⟩
  | false =>
    refine .node ?_ ?_ (fun htag => by cases htag) hinner
    · exact List.forall_mem_cons.mpr ⟨hname "href" (by simp), htitleName⟩
    · exact List.forall_mem_cons.mpr ⟨h.place, htitleValue⟩

end StaticSite.Markdown
