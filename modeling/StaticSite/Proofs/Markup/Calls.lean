/-
StaticSite.Proofs.Markup.Calls — which deferred bodies are called.

Evaluating a tree calls each deferred body that stands in for missing
content, unless it lies in a body that is not called itself: once, and in
document order (`Node.CallsOnce`). A deferred body beside content makes no
difference. Content that is deferred instead gives the same markup, and
there is one call more for each such element, if it is evaluated.

These changes are made to any choice of the elements with content at once
(`Node.remakeAt`). The proof compares the changed tree with the walk over the
tree as it was (`Node.RendersTo`).
-/
import StaticSite.Proofs.Markup.Position

namespace StaticSite.Markup

/-! ## 1. Trees that can be written -/

/-- Is it an element that cannot be written? It asks for a constructor that there is not, or is given
attributes that cannot be written. -/
def Node.isUnwritable : Node → Bool
  | .element tag _ _ attributes => !(tag.isKnown && attributes.isWritable)
  | _ => false

/-- Every element that is evaluated can be written. -/
def Node.IsWritable (node : Node) : Prop :=
  ∀ p, ¬ node.Evaluates Node.isUnwritable p

theorem Node.isWritable_iff {node : Node} :
    node.IsWritable ↔ node.places Node.isUnwritable = [] := by
  simp only [IsWritable, ← mem_places, List.eq_nil_iff_forall_not_mem]

instance (node : Node) : Decidable node.IsWritable :=
  decidable_of_iff _ Node.isWritable_iff.symm

theorem rootIf_eq_nil_iff {node : Node} {kind : Node → Bool} :
    Node.rootIf kind node = [] ↔ kind node = false := by
  simp [Node.rootIf]

theorem TagRef.exists_opening_of_isUnwritable {tag : TagRef} {content deferred : Option Node}
    {attributes : GivenAttributes}
    (h : (Node.element tag content deferred attributes).isUnwritable = false) :
    ∃ opening, tag.opening attributes = .ok opening := by
  rw [Node.isUnwritable, Bool.not_eq_false', Bool.and_eq_true] at h
  exact exists_opening_iff.mpr h

/-! ## 2. Elements made anew -/

/-- An element with content and no deferred body beside it. -/
def contentOnly (tag : TagRef) (content : Node) (attributes : GivenAttributes) : Node :=
  .element tag (some content) none attributes

/-- An element whose content is deferred. -/
def contentDeferred (tag : TagRef) (content : Node) (attributes : GivenAttributes) : Node :=
  .element tag none (some content) attributes

mutual

/-- A tree whose elements with content are made anew at the chosen positions. These are positions
of the tree as it was. -/
def Node.remakeAt (remake : TagRef → Node → GivenAttributes → Node) (chosen : Position → Bool) :
    Node → Node
  | .text s => .text s
  | .group nodes => .group (remakeAll remake chosen 0 nodes)
  | .element tag (some content) spare attributes =>
    let content := content.remakeAt remake fun p => chosen (.content :: p)
    if chosen [] then remake tag content attributes
    else
      .element tag (some content) (remakeBody remake (fun p => chosen (.deferred :: p)) spare)
        attributes
  | .element tag none body attributes =>
    .element tag none (remakeBody remake (fun p => chosen (.deferred :: p)) body) attributes

/-- The same in a body, if there is one. -/
def remakeBody (remake : TagRef → Node → GivenAttributes → Node) (chosen : Position → Bool) :
    Option Node → Option Node
  | none => none
  | some node => some (node.remakeAt remake chosen)

/-- The same in the members of a group from an index on. -/
def remakeAll (remake : TagRef → Node → GivenAttributes → Node) (chosen : Position → Bool) (i : Nat) :
    List Node → List Node
  | [] => []
  | node :: rest =>
    node.remakeAt remake (fun p => chosen (.member i :: p)) :: remakeAll remake chosen (i + 1) rest

end

/-! ## 3. Deferred bodies beside content -/

theorem evaluateAll_remakeAll {remake : TagRef → Node → GivenAttributes → Node} {nodes : List Node}
    (h : ∀ node ∈ nodes, ∀ chosen here,
      (node.remakeAt remake chosen).evaluate here = node.evaluate here)
    (chosen : Position → Bool) (here : Position) (i : Nat) :
    evaluateAll here i (remakeAll remake chosen i nodes) = evaluateAll here i nodes := by
  induction nodes generalizing i with
  | nil => rw [remakeAll]
  | cons node rest ih =>
    obtain ⟨hnode, hrest⟩ := List.forall_mem_cons.mp h
    rw [remakeAll, evaluateAll, evaluateAll, hnode, ih hrest]

/-- A deferred body beside content makes no difference. -/
theorem Node.evaluate_remakeAt_contentOnly (node : Node) (chosen : Position → Bool)
    (here : Position) : (node.remakeAt contentOnly chosen).evaluate here = node.evaluate here := by
  induction node using Node.evaluated_induction generalizing chosen here with
  | text s => rw [remakeAt]
  | group nodes ih => rw [remakeAt, evaluate, evaluate, evaluateAll_remakeAll ih]
  | given tag content spare attributes ih =>
    rw [remakeAt, evaluate]
    split
    · rw [contentOnly, evaluate, ih]
    · rw [evaluate, ih]
  | deferred tag body attributes ih => rw [remakeAt, remakeBody, evaluate, evaluate, ih]
  | empty tag attributes => rw [remakeAt, remakeBody]

/-! ## 4. Deferred contents -/

/-- The tree gives the markup with the calls that the walk lists. With contents deferred it gives
the same markup, with one call more for each of these elements that the walk comes to. -/
structure Node.RendersTo (node : Node) (html : String) : Prop where
  gives : node.Gives html (node.places Node.defers)
  gives_deferred : ∀ chosen : Position → Bool, ∃ calls,
    (node.remakeAt contentDeferred chosen).Gives html calls ∧
      calls.length =
        (node.places Node.defers).length + ((node.places Node.hasContent).filter chosen).length

/-- The same for the members of a group from an index on. -/
structure AllRenderTo (i : Nat) (nodes : List Node) (html : String) : Prop where
  gives : GiveAll i nodes html (placesAll Node.defers i nodes)
  gives_deferred : ∀ chosen : Position → Bool, ∃ calls,
    GiveAll i (remakeAll contentDeferred chosen i nodes) html calls ∧
      calls.length = (placesAll Node.defers i nodes).length +
        ((placesAll Node.hasContent i nodes).filter chosen).length

theorem length_filter_map_turn (turn : Turn) (ps : List Position) (chosen : Position → Bool) :
    ((ps.map (turn :: ·)).filter chosen).length =
      (ps.filter fun p => chosen (turn :: p)).length := by
  rw [List.filter_map, List.length_map]
  rfl

theorem allRenderTo_nil (i : Nat) : AllRenderTo i [] "" :=
  ⟨giveAll_nil i, fun _ => ⟨[], giveAll_nil i, rfl⟩⟩

theorem AllRenderTo.cons {i : Nat} {node : Node} {rest : List Node} {first others : String}
    (hnode : node.RendersTo first) (hrest : AllRenderTo (i + 1) rest others) :
    AllRenderTo i (node :: rest) (first ++ others) := by
  refine ⟨GiveAll.cons hnode.gives hrest.gives, fun chosen => ?_⟩
  obtain ⟨calls, hcalls, hlength⟩ := hnode.gives_deferred fun p => chosen (.member i :: p)
  obtain ⟨more, hmore, hmoreLength⟩ := hrest.gives_deferred chosen
  refine ⟨_, GiveAll.cons hcalls hmore, ?_⟩
  simp only [placesAll, List.length_append, List.filter_append, length_filter_map_turn,
    List.length_map, hlength, hmoreLength]
  exact Nat.add_add_add_comm ..

theorem exists_allRenderTo {nodes : List Node} (i : Nat)
    (h : ∀ node ∈ nodes, ∃ html, node.RendersTo html) : ∃ html, AllRenderTo i nodes html := by
  induction nodes generalizing i with
  | nil => exact ⟨"", allRenderTo_nil i⟩
  | cons node rest ih =>
    obtain ⟨⟨first, hfirst⟩, hrest⟩ := List.forall_mem_cons.mp h
    obtain ⟨others, hothers⟩ := ih (i + 1) hrest
    exact ⟨first ++ others, .cons hfirst hothers⟩

theorem Node.rendersTo_text (s : String) : (Node.text s).RendersTo s :=
  ⟨.text s, fun _ => ⟨[], .text s, rfl⟩⟩

theorem Node.rendersTo_group {nodes : List Node} {html : String} (h : AllRenderTo 0 nodes html) :
    (Node.group nodes).RendersTo html := by
  have hplaces : ∀ kind : Node → Bool, kind (.group nodes) = false →
      (Node.group nodes).places kind = placesAll kind 0 nodes := by
    intro kind hkind
    rw [places, rootIf_eq_nil_iff.mpr hkind, List.nil_append]
  constructor
  · rw [hplaces _ rfl]
    exact .group h.gives
  · intro chosen
    obtain ⟨calls, hcalls, hlength⟩ := h.gives_deferred chosen
    rw [remakeAt, hplaces _ rfl, hplaces _ rfl]
    exact ⟨calls, .group hcalls, hlength⟩

section

variable {tag : TagRef} {attributes : GivenAttributes} {opening : Opening} {html : String}
  {body : Node}

/-- The content of an element may be deferred itself. That is one call more. -/
theorem Node.rendersTo_given (h : body.RendersTo html)
    (hopening : tag.opening attributes = .ok opening) (spare : Option Node) :
    (Node.element tag (some body) spare attributes).RendersTo
      (renderElement opening (some html)) := by
  have hdefers : (Node.element tag (some body) spare attributes).places Node.defers =
      (body.places Node.defers).map (.content :: ·) := rfl
  have hcontent : (Node.element tag (some body) spare attributes).places Node.hasContent =
      [] :: (body.places Node.hasContent).map (.content :: ·) := rfl
  constructor
  · rw [hdefers]
    exact h.gives.given hopening spare
  · intro chosen
    obtain ⟨calls, hcalls, hlength⟩ := h.gives_deferred fun p => chosen (.content :: p)
    rw [remakeAt, hdefers, hcontent]
    split
    · next hhere =>
      -- the element itself is chosen, so its content is called as well
      refine ⟨_, hcalls.deferred hopening, ?_⟩
      rw [List.filter_cons_of_pos hhere]
      simp only [List.length_cons, List.length_map, length_filter_map_turn, hlength]
      rfl
    · next hhere =>
      refine ⟨_, hcalls.given hopening _, ?_⟩
      rw [List.filter_cons_of_neg hhere]
      simp only [List.length_map, length_filter_map_turn, hlength]

/-- A deferred body is called, and then what is in it. -/
theorem Node.rendersTo_deferred (h : body.RendersTo html)
    (hopening : tag.opening attributes = .ok opening) :
    (Node.element tag none (some body) attributes).RendersTo
      (renderElement opening (some html)) := by
  have hdefers : (Node.element tag none (some body) attributes).places Node.defers =
      [] :: (body.places Node.defers).map (.deferred :: ·) := rfl
  have hcontent : (Node.element tag none (some body) attributes).places Node.hasContent =
      (body.places Node.hasContent).map (.deferred :: ·) := rfl
  constructor
  · rw [hdefers]
    exact h.gives.deferred hopening
  · intro chosen
    obtain ⟨calls, hcalls, hlength⟩ := h.gives_deferred fun p => chosen (.deferred :: p)
    rw [remakeAt, remakeBody, hdefers, hcontent]
    refine ⟨_, hcalls.deferred hopening, ?_⟩
    simp only [List.length_cons, List.length_map, length_filter_map_turn, hlength]
    exact Nat.add_right_comm ..

theorem Node.rendersTo_empty (hopening : tag.opening attributes = .ok opening) :
    (Node.element tag none none attributes).RendersTo (renderElement opening none) :=
  ⟨.empty hopening, fun _ => ⟨[], .empty hopening, rfl⟩⟩

end

/-- A tree that can be written gives its markup. -/
theorem Node.exists_rendersTo (node : Node) (h : node.IsWritable) :
    ∃ html, node.RendersTo html := by
  rw [isWritable_iff] at h
  induction node using Node.evaluated_induction with
  | text s => exact ⟨s, rendersTo_text s⟩
  | group nodes ih =>
    rw [places, List.append_eq_nil_iff] at h
    have hmembers : ∀ part ∈ nodes, part.places Node.isUnwritable = [] := by
      intro part hpart
      obtain ⟨j, hj⟩ := List.mem_iff_getElem?.mp hpart
      refine List.eq_nil_iff_forall_not_mem.mpr fun p hp => ?_
      exact List.eq_nil_iff_forall_not_mem.mp h.2 _ (mem_placesAll.mpr ⟨j, part, p, hj, rfl, hp⟩)
    obtain ⟨html, hhtml⟩ :=
      exists_allRenderTo 0 fun part hpart => ih part hpart (hmembers part hpart)
    exact ⟨html, rendersTo_group hhtml⟩
  | given tag content spare attributes ih =>
    rw [places, List.append_eq_nil_iff, rootIf_eq_nil_iff, List.map_eq_nil_iff] at h
    obtain ⟨opening, hopening⟩ := TagRef.exists_opening_of_isUnwritable h.1
    obtain ⟨html, hhtml⟩ := ih h.2
    exact ⟨_, rendersTo_given hhtml hopening spare⟩
  | deferred tag body attributes ih =>
    rw [places, List.append_eq_nil_iff, rootIf_eq_nil_iff, List.map_eq_nil_iff] at h
    obtain ⟨opening, hopening⟩ := TagRef.exists_opening_of_isUnwritable h.1
    obtain ⟨html, hhtml⟩ := ih h.2
    exact ⟨_, rendersTo_deferred hhtml hopening⟩
  | empty tag attributes =>
    rw [places, rootIf_eq_nil_iff] at h
    obtain ⟨opening, hopening⟩ := TagRef.exists_opening_of_isUnwritable h
    exact ⟨_, rendersTo_empty hopening⟩

/-! ## 5. Once, and in document order -/

/-- The calls are those of the deferred bodies that stand in for missing content and do not lie in
one that is not called; each is there once, and they are in document order. -/
structure Node.CallsOnce (node : Node) (calls : List Position) : Prop where
  mem_iff : ∀ p, p ∈ calls ↔ node.HasAt Node.defers p ∧ ∀ q, q ++ [.deferred] <+: p → q ∈ calls
  inOrder : calls.Pairwise Position.Before
  once : calls.Nodup

/-- The deferred bodies on the way to an evaluated position are evaluated themselves. -/
theorem Node.isReached_iff {node : Node} {p : Position} :
    node.IsReached p ↔ ∀ q, q ++ [.deferred] <+: p → q ∈ node.places Node.defers := by
  constructor
  · intro h q hq
    refine mem_places.mpr ⟨h q hq, fun q' hq' => h q' ?_⟩
    exact hq'.trans ((List.prefix_append q [.deferred]).trans hq)
  · exact fun h q hq => (mem_places.mp (h q hq)).1

theorem Node.nodup_places {node : Node} {kind : Node → Bool} : (node.places kind).Nodup := by
  refine pairwise_places.imp ?_
  rintro p _ hpq rfl
  exact p.not_before_self hpq

theorem Node.callsOnce_places (node : Node) : node.CallsOnce (node.places Node.defers) where
  mem_iff p := by rw [mem_places, Evaluates, isReached_iff]
  inOrder := pairwise_places
  once := nodup_places

/-- A tree that can be written has markup, and evaluating it calls the deferred bodies that count,
each once and in document order, and no others. A deferred body beside content changes nothing.
Deferring the contents of any elements keeps the markup and adds one call for each of these
elements that is evaluated. -/
theorem Node.evaluate_callsOnce (node : Node) (h : node.IsWritable) :
    ∃ html calls, (node.evaluate []).perform [] = (.ok html, calls) ∧
      node.render = .ok ⟨html, calls.length⟩ ∧ node.CallsOnce calls ∧
      (∀ (chosen : Position → Bool) (here : Position),
        (node.remakeAt contentOnly chosen).evaluate here = node.evaluate here) ∧
      ∀ chosen : Position → Bool, ∃ moved : List Position, moved.Nodup ∧
        (∀ p, p ∈ moved ↔ chosen p = true ∧ node.HasAt Node.hasContent p ∧
          ∀ q, q ++ [.deferred] <+: p → q ∈ calls) ∧
        (node.remakeAt contentDeferred chosen).render =
          .ok ⟨html, calls.length + moved.length⟩ := by
  obtain ⟨html, hhtml⟩ := node.exists_rendersTo h
  refine ⟨html, node.places Node.defers, ?_, hhtml.gives.render, node.callsOnce_places,
    node.evaluate_remakeAt_contentOnly, fun chosen => ?_⟩
  · simpa using hhtml.gives [] []
  · obtain ⟨calls, hcalls, hlength⟩ := hhtml.gives_deferred chosen
    refine ⟨(node.places Node.hasContent).filter chosen, nodup_places.filter _, fun p => ?_, ?_⟩
    · rw [List.mem_filter, mem_places, Evaluates, isReached_iff, and_comm]
    · rw [hcalls.render, hlength]

/-- A list in a division: its items have content, deferred bodies, both or neither, and one of the
bodies beside content defers another. -/
def nestedTree : Node :=
  .element (.shorthand "div") none (some (.group [
    .element (.shorthand "ul") (some (.group [
      .element (.shorthand "li") none
        (some (.element (.shorthand "code") none (some (.text "q")) {})) {},
      .element (.shorthand "li") (some (.element (.tag "b") none (some (.text "m")) {}))
        (some (.element (.tag "i") none (some (.text "n")) {})) {}])) none {},
    .element (.tag "br") none none {}])) {}

example : nestedTree.render =
    .ok ⟨"<div><ul><li><code>q</code></li><li><b>m</b></li></ul><br /></div>", 4⟩ := rfl

theorem Node.evaluate_callsOnce_nestedTree :
    nestedTree.IsWritable ∧
    ∃ html calls, (nestedTree.evaluate []).perform [] = (.ok html, calls) ∧
      nestedTree.render = .ok ⟨html, calls.length⟩ ∧ nestedTree.CallsOnce calls ∧
      (∀ (chosen : Position → Bool) (here : Position),
        (nestedTree.remakeAt contentOnly chosen).evaluate here = nestedTree.evaluate here) ∧
      ∀ chosen : Position → Bool, ∃ moved : List Position, moved.Nodup ∧
        (∀ p, p ∈ moved ↔ chosen p = true ∧ nestedTree.HasAt Node.hasContent p ∧
          ∀ q, q ++ [.deferred] <+: p → q ∈ calls) ∧
        (nestedTree.remakeAt contentDeferred chosen).render =
          .ok ⟨html, calls.length + moved.length⟩ :=
  ⟨by decide, nestedTree.evaluate_callsOnce (by decide)⟩

end StaticSite.Markup
