/-
StaticSite.Proofs.Markup.Position — the positions of a tree that are evaluated.

A deferred body is evaluated only if its element has no content. So a
position counts if each element on the way that is entered through its
deferred body has no content (`Node.IsReached`). These positions are listed
by walking the tree as the evaluation does (`Node.places`), and the walk
comes to them in document order, each element before what is in it.
-/
import StaticSite.Proofs.Markup.Evaluation

namespace StaticSite.Markup

/-! ## 1. Positions -/

/-- The node that a turn leads to. -/
def Node.child? : Node → Turn → Option Node
  | .group nodes, .member i => nodes[i]?
  | .element _ content _ _, .content => content
  | .element _ _ deferred _, .deferred => deferred
  | _, _ => none

/-- The node at a position. -/
def Node.at? : Node → Position → Option Node
  | node, [] => some node
  | node, turn :: rest => (node.child? turn).bind (·.at? rest)

/-- Does an element leave its body to a deferred one, for want of content? -/
def Node.defers : Node → Bool
  | .element _ none (some _) _ => true
  | _ => false

/-- Is it an element with content? -/
def Node.hasContent : Node → Bool
  | .element _ (some _) _ _ => true
  | _ => false

variable {node part : Node} {turn : Turn} {p : Position} {kind : Node → Bool}

/-- At the position there is a node of the kind. -/
def Node.HasAt (node : Node) (kind : Node → Bool) (p : Position) : Prop :=
  ∃ part, node.at? p = some part ∧ kind part = true

theorem Node.hasAt_nil : node.HasAt kind [] ↔ kind node = true := by
  simp [HasAt, at?]

theorem Node.hasAt_cons : node.HasAt kind (turn :: p) ↔
    ∃ part, node.child? turn = some part ∧ part.HasAt kind p := by
  simp only [HasAt, at?, Option.bind_eq_some_iff]
  constructor
  · rintro ⟨last, ⟨part, hpart, hlast⟩, hkind⟩
    exact ⟨part, hpart, last, hlast, hkind⟩
  · rintro ⟨part, hpart, last, hlast, hkind⟩
    exact ⟨last, ⟨part, hpart, hlast⟩, hkind⟩

/-! ## 2. Document order -/

/-- Of two turns at one node, the one that comes first. -/
inductive Turn.Before : Turn → Turn → Prop
  | members {i j : Nat} (h : i < j) : Before (.member i) (.member j)
  | bodies : Before .content .deferred

/-- Document order: a node comes before what is in it, and else the first turn that differs
decides. -/
def Position.Before : Position → Position → Prop :=
  List.Lex Turn.Before

theorem Turn.not_before_self (turn : Turn) : ¬ turn.Before turn := by
  intro h
  cases h with
  | members h => exact Nat.lt_irrefl _ h

theorem Position.not_before_self (p : Position) : ¬ p.Before p :=
  List.lex_irrefl Turn.not_before_self p

/-- The same turn in front of all positions does not change their order. -/
theorem pairwise_map_turn {ps : List Position} (turn : Turn) (h : ps.Pairwise Position.Before) :
    (ps.map (turn :: ·)).Pairwise Position.Before :=
  h.map _ fun _ _ hpq => .cons hpq

/-! ## 3. Evaluated positions -/

/-- Every element on the way that is entered through its deferred body leaves its body to it. -/
def Node.IsReached (node : Node) (p : Position) : Prop :=
  ∀ q, q ++ [.deferred] <+: p → node.HasAt Node.defers q

/-- At the position there is a node of the kind, and it is evaluated. -/
def Node.Evaluates (node : Node) (kind : Node → Bool) (p : Position) : Prop :=
  node.HasAt kind p ∧ node.IsReached p

theorem Node.isReached_nil : node.IsReached [] := by
  intro q hq
  exact absurd (List.prefix_nil.mp hq) (by simp)

theorem Node.isReached_cons (hpart : node.child? turn = some part) :
    node.IsReached (turn :: p) ↔ (turn = .deferred → node.defers = true) ∧ part.IsReached p := by
  constructor
  · intro h
    refine ⟨fun hturn => ?_, fun q hq => ?_⟩
    · exact hasAt_nil.mp (h [] (by simp [hturn]))
    · obtain ⟨part', hpart', hat⟩ := hasAt_cons.mp
        (h (turn :: q) (List.cons_prefix_cons.mpr ⟨rfl, hq⟩))
      rw [hpart, Option.some.injEq] at hpart'
      rwa [hpart']
  · rintro ⟨hhere, hrest⟩ q hq
    cases q with
    | nil => exact hasAt_nil.mpr (hhere (List.cons_prefix_cons.mp hq).1.symm)
    | cons first q =>
      obtain ⟨rfl, hin⟩ := List.cons_prefix_cons.mp hq
      exact hasAt_cons.mpr ⟨part, hpart, hrest q hin⟩

theorem Node.evaluates_nil : node.Evaluates kind [] ↔ kind node = true := by
  simp only [Evaluates, hasAt_nil, isReached_nil, and_true]

/-- One turn further down, the position is one of the node that the turn leads to. -/
theorem Node.evaluates_cons : node.Evaluates kind (turn :: p) ↔
    ∃ part, node.child? turn = some part ∧ (turn = .deferred → node.defers = true) ∧
      part.Evaluates kind p := by
  constructor
  · rintro ⟨hat, hreached⟩
    obtain ⟨part, hpart, hat⟩ := hasAt_cons.mp hat
    obtain ⟨hhere, hreached⟩ := (isReached_cons hpart).mp hreached
    exact ⟨part, hpart, hhere, hat, hreached⟩
  · rintro ⟨part, hpart, hhere, hat, hreached⟩
    exact ⟨hasAt_cons.mpr ⟨part, hpart, hat⟩, (isReached_cons hpart).mpr ⟨hhere, hreached⟩⟩

/-! ## 4. The walk -/

/-- The root of a tree, if it is of the kind. -/
def Node.rootIf (kind : Node → Bool) (node : Node) : List Position :=
  if kind node then [[]] else []

mutual

/-- The positions of the nodes of a kind, as the evaluation comes to them. -/
def Node.places (kind : Node → Bool) : Node → List Position
  | .text s => Node.rootIf kind (.text s)
  | .group nodes => Node.rootIf kind (.group nodes) ++ placesAll kind 0 nodes
  | .element tag (some content) deferred attributes =>
    Node.rootIf kind (.element tag (some content) deferred attributes) ++
      (content.places kind).map (.content :: ·)
  | .element tag none (some deferred) attributes =>
    Node.rootIf kind (.element tag none (some deferred) attributes) ++
      (deferred.places kind).map (.deferred :: ·)
  | .element tag none none attributes => Node.rootIf kind (.element tag none none attributes)

/-- The same in the members of a group from an index on. -/
def placesAll (kind : Node → Bool) (i : Nat) : List Node → List Position
  | [] => []
  | node :: rest => (node.places kind).map (.member i :: ·) ++ placesAll kind (i + 1) rest

end

theorem Node.mem_rootIf : p ∈ Node.rootIf kind node ↔ p = [] ∧ kind node = true := by
  rw [rootIf]
  split <;> simp_all

theorem mem_placesAll {i : Nat} {nodes : List Node} : p ∈ placesAll kind i nodes ↔
    ∃ j part q, nodes[j]? = some part ∧ p = .member (i + j) :: q ∧ q ∈ part.places kind := by
  induction nodes generalizing i with
  | nil => simp [placesAll]
  | cons node rest ih =>
    rw [placesAll, List.mem_append, List.mem_map, ih]
    constructor
    · rintro (⟨q, hq, rfl⟩ | ⟨j, part, q, hpart, rfl, hq⟩)
      · exact ⟨0, node, q, rfl, rfl, hq⟩
      · exact ⟨j + 1, part, q, hpart, by rw [Nat.add_right_comm, Nat.add_assoc], hq⟩
    · rintro ⟨j, part, q, hpart, rfl, hq⟩
      cases j with
      | zero =>
        obtain rfl : node = part := by simpa using hpart
        exact .inl ⟨q, hq, rfl⟩
      | succ j => exact .inr ⟨j, part, q, hpart, by rw [Nat.add_right_comm, Nat.add_assoc], hq⟩

/-- The walk comes to the evaluated positions and to no others. -/
theorem Node.mem_places : p ∈ node.places kind ↔ node.Evaluates kind p := by
  induction node using Node.evaluated_induction generalizing p with
  | text s =>
    rw [places, mem_rootIf]
    cases p with
    | nil => simp [evaluates_nil]
    | cons turn p => simp [evaluates_cons, child?]
  | group nodes ih =>
    rw [places, List.mem_append, mem_rootIf, mem_placesAll]
    cases p with
    | nil => simp [evaluates_nil]
    | cons turn p =>
      rw [evaluates_cons]
      cases turn with
      | member i =>
        constructor
        · rintro (⟨h, -⟩ | ⟨j, part, q, hpart, hp, hq⟩)
          · simp at h
          · obtain ⟨rfl, rfl⟩ : i = j ∧ p = q := by simpa using hp
            exact ⟨part, hpart, by simp, (ih part (List.mem_of_getElem? hpart)).mp hq⟩
        · rintro ⟨part, hpart, -, hp⟩
          have hmember : part ∈ nodes := List.mem_of_getElem? hpart
          exact .inr ⟨i, part, p, hpart, by simp, (ih part hmember).mpr hp⟩
      | content => simp [child?]
      | deferred => simp [child?]
  | given tag content spare attributes ih =>
    -- the turn into the spare body is refused, as the element does not defer
    rw [places, List.mem_append, mem_rootIf]
    cases p with
    | nil => simp [evaluates_nil]
    | cons turn p => cases turn <;> simp [evaluates_cons, child?, defers, ih]
  | deferred tag body attributes ih =>
    rw [places, List.mem_append, mem_rootIf]
    cases p with
    | nil => simp [evaluates_nil]
    | cons turn p => cases turn <;> simp [evaluates_cons, child?, defers, ih]
  | empty tag attributes =>
    rw [places, mem_rootIf]
    cases p with
    | nil => simp [evaluates_nil]
    | cons turn p => cases turn <;> simp [evaluates_cons, child?]

theorem pairwise_rootIf : (Node.rootIf kind node).Pairwise Position.Before := by
  rw [Node.rootIf]
  split <;> simp

/-- The root comes before everything in it. -/
theorem pairwise_rootIf_append {ps : List Position} (hroot : ∀ q ∈ ps, q ≠ [])
    (h : ps.Pairwise Position.Before) :
    (Node.rootIf kind node ++ ps).Pairwise Position.Before := by
  rw [Node.rootIf]
  split
  · refine List.pairwise_cons.mpr ⟨fun q hq => ?_, h⟩
    obtain ⟨turn, rest, rfl⟩ := List.exists_cons_of_ne_nil (hroot q hq)
    exact .nil
  · exact h

theorem pairwise_placesAll {i : Nat} {nodes : List Node}
    (h : ∀ node ∈ nodes, (node.places kind).Pairwise Position.Before) :
    (placesAll kind i nodes).Pairwise Position.Before := by
  induction nodes generalizing i with
  | nil => exact List.Pairwise.nil
  | cons node rest ih =>
    rw [placesAll, List.pairwise_append]
    obtain ⟨hnode, hrest⟩ := List.forall_mem_cons.mp h
    refine ⟨pairwise_map_turn _ hnode, ih hrest, fun q hq q' hq' => ?_⟩
    obtain ⟨r, -, rfl⟩ := List.mem_map.mp hq
    obtain ⟨j, -, r', -, rfl, -⟩ := mem_placesAll.mp hq'
    exact .rel (.members (by omega))

/-- The walk keeps to document order. -/
theorem Node.pairwise_places : (node.places kind).Pairwise Position.Before := by
  have hturn : ∀ (turn : Turn) (ps : List Position), ∀ q ∈ ps.map (turn :: ·), q ≠ [] := by
    simp
  induction node using Node.evaluated_induction with
  | text s => exact pairwise_rootIf
  | group nodes ih =>
    rw [places]
    refine pairwise_rootIf_append (fun q hq => ?_) (pairwise_placesAll ih)
    obtain ⟨j, -, r, -, rfl, -⟩ := mem_placesAll.mp hq
    simp
  | given tag content spare attributes ih =>
    rw [places]
    exact pairwise_rootIf_append (hturn _ _) (pairwise_map_turn _ ih)
  | deferred tag body attributes ih =>
    rw [places]
    exact pairwise_rootIf_append (hturn _ _) (pairwise_map_turn _ ih)
  | empty tag attributes => exact pairwise_rootIf

end StaticSite.Markup
