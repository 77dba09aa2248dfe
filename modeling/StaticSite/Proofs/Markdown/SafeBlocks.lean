/-
StaticSite.Proofs.Markdown.SafeBlocks — blocks and references whose texts are safe.

A block is safe if all texts in it are (`Block.IsSafe`), at whatever depth,
and only a list has a number to start with. The operations on blocks work on
the last child, so a safe block stays safe if what is put there is safe; an
outline stays safe under whatever keeps the blocks inside it safe
(`Outline.IsSafe.inLast`, `Outline.IsSafe.atDepth`). The element that a safe
block makes is safe (`Block.IsSafe.toAtom`).
-/
import StaticSite.Proofs.Markdown.Safety

namespace StaticSite.Markdown

/-! ## 1. Blocks -/

/-- All texts in the block are safe. -/
inductive Block.IsSafe : Block → Prop where
  | mk {b : Block} (hbare : b.tag = .paragraph → b.start = none) (htext : AllSafe b.text)
      (hchildren : ∀ entry ∈ b.children, entry.1.IsSafe)
      (htails : ∀ entry ∈ b.children, AllSafe entry.2) : IsSafe b

namespace Block

theorem isSafe_ofText (tag : Tag) {text : Atoms} (h : AllSafe text) : (ofText tag text).IsSafe :=
  .mk (fun _ => rfl) h (fun _ hentry => absurd hentry List.not_mem_nil)
    (fun _ hentry => absurd hentry List.not_mem_nil)

theorem isSafe_empty (tag : Tag) : (empty tag).IsSafe :=
  isSafe_ofText tag allSafe_nil

namespace IsSafe

variable {b c : Block}

theorem bare (h : b.IsSafe) : b.tag = .paragraph → b.start = none := by
  cases h with
  | mk hbare htext hchildren htails => exact hbare

theorem text (h : b.IsSafe) : AllSafe b.text := by
  cases h with
  | mk hbare htext hchildren htails => exact htext

theorem children (h : b.IsSafe) : ∀ entry ∈ b.children, entry.1.IsSafe := by
  cases h with
  | mk hbare htext hchildren htails => exact hchildren

theorem tails (h : b.IsSafe) : ∀ entry ∈ b.children, AllSafe entry.2 := by
  cases h with
  | mk hbare htext hchildren htails => exact htails

theorem last (h : b.IsSafe) (hlast : b.last? = some c) : c.IsSafe := by
  rw [last?, Option.map_eq_some_iff] at hlast
  obtain ⟨entry, hentry, rfl⟩ := hlast
  exact h.children entry (List.mem_of_getLast? hentry)

theorem lastTail (h : b.IsSafe) : AllSafe b.lastTail := by
  rw [Block.lastTail]
  cases hlast : b.children.getLast? with
  | none => exact allSafe_nil
  | some entry => exact h.tails entry (List.mem_of_getLast? hlast)

/-- The block with other text. -/
theorem withText (h : b.IsSafe) {text : Atoms} (htext : AllSafe text) :
    { b with text := text }.IsSafe :=
  .mk h.bare htext h.children h.tails

/-- The block with other children. -/
theorem withChildren (h : b.IsSafe) {children : List (Block × Atoms)}
    (hchildren : ∀ entry ∈ children, entry.1.IsSafe ∧ AllSafe entry.2) :
    { b with children := children }.IsSafe :=
  .mk h.bare h.text (fun entry hentry => (hchildren entry hentry).1)
    fun entry hentry => (hchildren entry hentry).2

theorem add (h : b.IsSafe) (hc : c.IsSafe) : (b.add c).IsSafe := by
  refine h.withChildren fun entry hentry => ?_
  rcases List.mem_append.mp hentry with hentry | hentry
  · exact ⟨h.children entry hentry, h.tails entry hentry⟩
  · rw [List.mem_singleton.mp hentry]
    exact ⟨hc, allSafe_nil⟩

theorem setLast (h : b.IsSafe) (hc : c.IsSafe) {tail : Atoms} (htail : AllSafe tail) :
    (b.setLast c tail).IsSafe := by
  refine h.withChildren fun entry hentry => ?_
  rcases List.mem_append.mp hentry with hentry | hentry
  · have hmem := List.dropLast_subset _ hentry
    exact ⟨h.children entry hmem, h.tails entry hmem⟩
  · rw [List.mem_singleton.mp hentry]
    exact ⟨hc, htail⟩

theorem mapLast {f : Block → Block} (h : b.IsSafe) (hf : ∀ c : Block, c.IsSafe → (f c).IsSafe) :
    (b.mapLast f).IsSafe := by
  rw [Block.mapLast]
  split
  · exact h
  · next c hlast => exact h.setLast (hf c (h.last hlast)) h.lastTail

theorem wrapText (h : b.IsSafe) : b.wrapText.IsSafe := by
  rw [Block.wrapText]
  split_ifs
  · exact h
  · refine (h.withText allSafe_nil).withChildren fun entry hentry => ?_
    rcases List.mem_cons.mp hentry with rfl | hentry
    · exact ⟨isSafe_ofText .paragraph h.text, allSafe_nil⟩
    · exact ⟨h.children entry hentry, h.tails entry hentry⟩

theorem wrapTail (h : b.IsSafe) : b.wrapTail.IsSafe := by
  rw [Block.wrapTail]
  split
  · exact h
  · next c hlast =>
    split_ifs
    · exact h
    · exact (h.setLast (h.last hlast) allSafe_nil).add (isSafe_ofText .paragraph h.lastTail.dropBlank)

end IsSafe

theorem allSafe_childAtoms {children : List (Block × Atoms)}
    (hatoms : ∀ entry ∈ children, entry.1.toAtom.IsSafe)
    (htails : ∀ entry ∈ children, AllSafe entry.2) : AllSafe (childAtoms children) := by
  induction children with
  | nil =>
    rw [childAtoms]
    exact allSafe_nil
  | cons entry rest ih =>
    obtain ⟨child, tail⟩ := entry
    rw [List.forall_mem_cons] at hatoms htails
    rw [childAtoms, allSafe_cons, allSafe_append]
    exact ⟨hatoms.1, htails.1, ih hatoms.2 htails.2⟩

theorem IsSafe.toAtom {b : Block} (h : b.IsSafe) : b.toAtom.IsSafe := by
  induction h with
  | @mk b hbare htext hchildren htails ih =>
    have hcontent : AllSafe (b.text ++ childAtoms b.children) :=
      allSafe_append.mpr ⟨htext, allSafe_childAtoms ih htails⟩
    obtain ⟨tag, start, text, children⟩ := b
    unfold Block.toAtom
    split_ifs
    · exact .bare (allSafe_cons.mpr ⟨.bare htext, allSafe_nil⟩)
    · cases start with
      | none => exact .bare hcontent
      | some digits =>
        have hname : Markup.isName "start" = true := by decide
        refine .node ?_ ?_ ?_ hcontent
        · rw [List.forall_mem_singleton]
          exact hname
        · rw [List.forall_mem_singleton]
          exact allSafe_verbatimText digits
        · intro htag
          exact absurd (hbare htag) (Option.some_ne_none digits)

end Block

/-! ## 2. References -/

/-- The target and the title are safe. -/
structure Reference.IsSafe (r : Reference) : Prop where
  target : AllSafe r.target
  title : IsSafeTitle r.title

/-- All references are safe. -/
def AllReferencesSafe (references : References) : Prop :=
  ∀ r ∈ references, r.IsSafe

theorem AllReferencesSafe.find {references : References} (h : AllReferencesSafe references)
    {label : List Char} {r : Reference} (hfind : findReference? label references = some r) :
    r.IsSafe := by
  induction references with
  | nil => cases hfind
  | cons first rest ih =>
    obtain ⟨hfirst, hrest⟩ := List.forall_mem_cons.mp h
    rw [findReference?] at hfind
    split_ifs at hfind
    · cases hfind
      exact hfirst
    · exact ih hrest hfind

/-! ## 3. Outlines -/

namespace Outline

/-- The block that is being filled and the references are safe. -/
structure IsSafe (o : Outline) : Prop where
  block : o.block.IsSafe
  references : AllReferencesSafe o.references

/-- Outlines are safe after the function if they are before. -/
def KeepsSafe (f : Outline → Outline) : Prop :=
  ∀ o : Outline, o.IsSafe → (f o).IsSafe

namespace IsSafe

variable {o : Outline} {f : Outline → Outline}

theorem map {g : Block → Block} (h : o.IsSafe) (hg : (g o.block).IsSafe) : (o.map g).IsSafe :=
  ⟨hg, h.references⟩

theorem add (h : o.IsSafe) {c : Block} (hc : c.IsSafe) : (o.map (·.add c)).IsSafe :=
  ⟨h.block.add hc, h.references⟩

theorem inLast (h : o.IsSafe) (hf : KeepsSafe f) : (o.inLast f).IsSafe := by
  rw [Outline.inLast]
  split
  · exact h
  · next c hlast =>
    have hfilled := hf ⟨c, o.references⟩ ⟨h.block.last hlast, h.references⟩
    exact ⟨h.block.setLast hfilled.block h.block.lastTail, hfilled.references⟩

theorem inNew (h : o.IsSafe) {c : Block} (hc : c.IsSafe) (hf : KeepsSafe f) :
    (o.inNew c f).IsSafe :=
  (h.add hc).inLast hf

theorem atDepth (h : o.IsSafe) (hf : KeepsSafe f) (n : Nat) : (atDepth n f o).IsSafe := by
  induction n generalizing o with
  | zero => exact hf o h
  | succ n ih => exact h.inLast fun _ hinner => ih hinner

end IsSafe

end Outline

end StaticSite.Markdown
