/-
StaticSite.Proofs.Markup.Evaluation — what the evaluation of a tree comes to.

A tree gives its markup and calls some deferred bodies, in an order. Neither
depends on where the tree stands or on what was called before: the position
of the tree comes in front of the positions of its calls, and these are noted
after the earlier ones (`Node.Gives`). There is one lemma for each way that a
tree can be put together. The bodies that are evaluated also carry an
induction (`Node.evaluated_induction`).

An element gives its markup if its tag is known and its attributes can be
written (`TagRef.exists_opening_iff`).
-/
import StaticSite.Markup.Node

namespace StaticSite.Markup

/-! ## 1. Elements that can be written -/

/-- Has the value a text, if it needs one? -/
def AttrValue.isWritable : AttrValue → Bool
  | .int n => Number.isWritable n
  | _ => true

/-- Can the attributes be written: have their values texts, and is none of them given by the name of
a parameter? -/
def GivenAttributes.isWritable (given : GivenAttributes) : Bool :=
  (given.table ++ given.named).all (fun entry => entry.2.isWritable) &&
    given.named.all fun entry => !parameterNames.contains entry.1

/-- Is there such a tag? -/
def TagRef.isKnown : TagRef → Bool
  | .tag _ => true
  | .shorthand name => (shorthand? name).isSome

theorem exists_renderAttribute_iff {name : String} {value : AttrValue} :
    (∃ written, renderAttribute name value = .ok written) ↔ value.isWritable = true := by
  cases value with
  | switch on => cases on <;> simp [renderAttribute, AttrValue.isWritable]
  | int n =>
    by_cases h : Number.isWritable n = true <;> simp [renderAttribute, AttrValue.isWritable, h]
  | _ => simp [renderAttribute, AttrValue.isWritable]

theorem renderAttributes_cons_eq_ok_iff {name written : String} {value : AttrValue}
    {rest : Attributes} :
    renderAttributes ((name, value) :: rest) = .ok written ↔
      ∃ first others, renderAttribute name value = .ok first ∧
        renderAttributes rest = .ok others ∧ written = first ++ others := by
  rw [renderAttributes]
  cases renderAttribute name value with
  | error e => simp [bind, Except.bind]
  | ok first =>
    cases renderAttributes rest <;> simp [bind, Except.bind, pure, Except.pure, eq_comm]

theorem exists_renderAttributes_iff {entries : Attributes} :
    (∃ written, renderAttributes entries = .ok written) ↔
      ∀ entry ∈ entries, entry.2.isWritable = true := by
  induction entries with
  | nil => simp [renderAttributes]
  | cons entry rest ih =>
    obtain ⟨name, value⟩ := entry
    rw [List.forall_mem_cons, ← ih, ← @exists_renderAttribute_iff name]
    simp only [renderAttributes_cons_eq_ok_iff]
    constructor
    · rintro ⟨_, first, others, hfirst, hothers, -⟩
      exact ⟨⟨first, hfirst⟩, others, hothers⟩
    · rintro ⟨⟨first, hfirst⟩, others, hothers⟩
      exact ⟨_, first, others, hfirst, hothers, rfl⟩

theorem GivenAttributes.render_eq_ok_iff {given : GivenAttributes} {written : String} :
    given.render = .ok written ↔
      (∀ entry ∈ given.named, parameterNames.contains entry.1 = false) ∧
        renderAttributes (given.table ++ given.named) = .ok written := by
  have hnone : given.named.find? (fun entry => parameterNames.contains entry.1) = none ↔
      ∀ entry ∈ given.named, parameterNames.contains entry.1 = false := by
    simp only [List.find?_eq_none, Bool.not_eq_true]
  rw [render, ← hnone]
  cases given.named.find? fun entry => parameterNames.contains entry.1 <;> simp

theorem GivenAttributes.exists_render_iff {given : GivenAttributes} :
    (∃ written, given.render = .ok written) ↔ given.isWritable = true := by
  simp only [render_eq_ok_iff, exists_and_left, exists_renderAttributes_iff, isWritable,
    Bool.and_eq_true, List.all_eq_true, Bool.not_eq_true']
  exact and_comm

theorem TagRef.exists_resolve_iff {tag : TagRef} :
    (∃ name, tag.resolve = .ok name) ↔ tag.isKnown = true := by
  cases tag with
  | tag name => simp [resolve, isKnown]
  | shorthand name => cases h : shorthand? name <;> simp [resolve, isKnown, h]

theorem TagRef.opening_eq_ok_iff {tag : TagRef} {given : GivenAttributes} {opening : Opening} :
    tag.opening given = .ok opening ↔
      tag.resolve = .ok opening.tag ∧ given.render = .ok opening.attributes := by
  obtain ⟨name, written⟩ := opening
  rw [TagRef.opening]
  cases tag.resolve with
  | error e => simp [bind, Except.bind]
  | ok known => cases given.render <;> simp [bind, Except.bind, pure, Except.pure]

theorem TagRef.exists_opening_iff {tag : TagRef} {given : GivenAttributes} :
    (∃ opening, tag.opening given = .ok opening) ↔
      tag.isKnown = true ∧ given.isWritable = true := by
  rw [← exists_resolve_iff, ← GivenAttributes.exists_render_iff]
  simp only [opening_eq_ok_iff]
  constructor
  · rintro ⟨opening, hname, hwritten⟩
    exact ⟨⟨_, hname⟩, _, hwritten⟩
  · rintro ⟨⟨name, hname⟩, written, hwritten⟩
    exact ⟨⟨name, written⟩, hname, hwritten⟩

/-! ## 2. Induction -/

/-- An induction over what is evaluated of a tree: a deferred body counts only if there is no
content. -/
theorem Node.evaluated_induction {motive : Node → Prop} (text : ∀ s, motive (.text s))
    (group : ∀ nodes, (∀ node ∈ nodes, motive node) → motive (.group nodes))
    (given : ∀ tag content deferred attributes, motive content →
      motive (.element tag (some content) deferred attributes))
    (deferred : ∀ tag body attributes, motive body →
      motive (.element tag none (some body) attributes))
    (empty : ∀ tag attributes, motive (.element tag none none attributes)) :
    ∀ node, motive node
  | .text s => text s
  | .group nodes =>
    group nodes fun part _ => evaluated_induction text group given deferred empty part
  | .element tag (some content) spare attributes =>
    given tag content spare attributes
      (evaluated_induction text group given deferred empty content)
  | .element tag none (some body) attributes =>
    deferred tag body attributes (evaluated_induction text group given deferred empty body)
  | .element tag none none attributes => empty tag attributes

/-! ## 3. Trees -/

/-- Evaluating the tree, wherever it stands, gives the markup and makes the calls, in this order. -/
def Node.Gives (node : Node) (html : String) (calls : List Position) : Prop :=
  ∀ here before, (node.evaluate here).perform before =
    (.ok html, before ++ calls.map (here ++ ·))

/-- The same for the members of a group from an index on. -/
def GiveAll (i : Nat) (nodes : List Node) (html : String) (calls : List Position) : Prop :=
  ∀ here before, (evaluateAll here i nodes).perform before =
    (.ok html, before ++ calls.map (here ++ ·))

/-- What is called in a part of a tree is called in the tree, one turn further down. -/
theorem map_append_turn (here : Position) (turn : Turn) (calls : List Position) :
    calls.map (here ++ [turn] ++ ·) = (calls.map (turn :: ·)).map (here ++ ·) := by
  simp

theorem Node.Gives.render {node : Node} {html : String} {calls : List Position}
    (h : node.Gives html calls) : node.render = .ok ⟨html, calls.length⟩ := by
  rw [Node.render, h [] []]
  simp

namespace Node.Gives

variable {tag : TagRef} {attributes : GivenAttributes} {opening : Opening} {body : Node}
  {html : String} {calls : List Position}

theorem text (s : String) : (Node.text s).Gives s [] := by
  intro here before
  rw [evaluate, Action.perform_pure, List.map_nil, List.append_nil]

theorem group {nodes : List Node} (h : GiveAll 0 nodes html calls) :
    (Node.group nodes).Gives html calls := by
  intro here before
  rw [evaluate, h here before]

/-- An element with content takes no notice of a deferred body. -/
theorem given (hbody : body.Gives html calls) (hopening : tag.opening attributes = .ok opening)
    (deferred : Option Node) :
    (Node.element tag (some body) deferred attributes).Gives (renderElement opening (some html))
      (calls.map (.content :: ·)) := by
  intro here before
  rw [evaluate, Action.perform_bind, hbody, map_append_turn]
  simp only [Action.perform_bind, perform_opening hopening, Action.perform_pure]

/-- A deferred body is called before anything in it is. -/
theorem deferred (hbody : body.Gives html calls)
    (hopening : tag.opening attributes = .ok opening) :
    (Node.element tag none (some body) attributes).Gives (renderElement opening (some html))
      ([] :: calls.map (.deferred :: ·)) := by
  intro here before
  have hinside := hbody (here ++ [.deferred]) (before ++ [here])
  rw [map_append_turn] at hinside
  rw [evaluate]
  simp only [Action.perform_bind, perform_opening hopening, perform_noteCall, hinside,
    Action.perform_pure, List.map_cons, List.append_nil, List.append_assoc, List.singleton_append]

theorem empty (hopening : tag.opening attributes = .ok opening) :
    (Node.element tag none none attributes).Gives (renderElement opening none) [] := by
  intro here before
  rw [evaluate]
  simp only [Action.perform_bind, perform_opening hopening, Action.perform_pure, List.map_nil,
    List.append_nil]

end Node.Gives

/-! ## 4. Groups -/

theorem giveAll_nil (i : Nat) : GiveAll i [] "" [] := by
  intro here before
  rw [evaluateAll, Action.perform_pure, List.map_nil, List.append_nil]

/-- The calls of the first member come before those of the others. -/
theorem GiveAll.cons {i : Nat} {node : Node} {rest : List Node} {first others : String}
    {calls more : List Position} (hnode : node.Gives first calls)
    (hrest : GiveAll (i + 1) rest others more) :
    GiveAll i (node :: rest) (first ++ others) (calls.map (.member i :: ·) ++ more) := by
  intro here before
  rw [evaluateAll, Action.perform_bind, hnode, map_append_turn]
  simp only [Action.perform_bind, hrest _ _, Action.perform_pure, List.map_append,
    List.append_assoc]

end StaticSite.Markup
