/-
StaticSite.Proofs.Yaml.OpenTree — trees in which one place is left open.

A node can be put into the open place of a mapping or a list. What the tree
stands for then depends on that node only by its value (`Makes`): a fault of
the node is a fault of the tree, and unless the tree has a fault of its own,
its value has the value of the node in one place. In a mapping that place is
the field with the name of the open entry, if no later entry has that name
too; all other fields stay the same (`OpenTable`).
-/
import StaticSite.Yaml.Meaning
import StaticSite.Proofs.Config.Shape

namespace StaticSite

/-! ## 1. Tables -/

/-- A table in which the value of one field is left open. The other fields are the same whatever
it is. -/
structure OpenTable (name : String) where
  fill : Value → List (Value × Value)
  field_name : ∀ v, Value.field? name (fill v) = some v
  field_other : ∀ {other}, other ≠ name → ∀ v w,
    Value.field? other (fill v) = Value.field? other (fill w)

namespace Value

/-- A list or a mapping that comes back inside itself has a mark. -/
def marked : Option Nat → Value → Value
  | none, v => v
  | some mark, v => .tied mark v

@[simp]
theorem entries?_marked (mark : Option Nat) (v : Value) :
    (v.marked mark).entries? = v.entries? := by
  cases mark <;> rfl

@[simp]
theorem items?_marked (mark : Option Nat) (v : Value) : (v.marked mark).items? = v.items? := by
  cases mark <;> rfl

theorem sameKey_of_string {k : Value} {name : String} :
    sameKey k (.string name) = true ↔ k = .string name := by
  cases k with
  | string s => rw [sameKey, beq_iff_eq, string.injEq]
  | _ => simp [sameKey, asInt?, floatIs]

/-- Putting a value under a key changes no other field. -/
theorem field?_putKey (name : String) (key v : Value) (table : List (Value × Value)) :
    field? name (putKey key v table) =
      if sameKey key (.string name) then some v else field? name table := by
  induction table with
  | nil => simp only [putKey, field?, findKey]
  | cons e rest ih =>
    obtain ⟨k, old⟩ := e
    rw [field?] at ih ⊢
    rw [putKey]
    cases hput : sameKey k key with
    | false =>
      rw [if_neg Bool.false_ne_true, findKey, ih, field?, field?, findKey]
      cases hk : sameKey k (.string name) with
      | false => rfl
      | true =>
        -- A key that is the name is another key than this one.
        rw [sameKey_of_string] at hk
        have hkey : sameKey key (.string name) = false := by
          rw [← Bool.not_eq_true, sameKey_of_string]
          rintro rfl
          rw [hk, sameKey_of_string.mpr rfl] at hput
          cases hput
        rw [hkey]
        rfl
    | true =>
      rw [if_pos rfl, findKey, field?, findKey]
      cases hkey : sameKey key (.string name) with
      | true =>
        rw [sameKey_of_string] at hkey
        rw [hkey] at hput
        rw [hput]
        rfl
      | false =>
        have hk : sameKey k (.string name) = false := by
          rw [← Bool.not_eq_true, sameKey_of_string]
          rintro rfl
          rw [sameKey_string_iff.mp hput, sameKey_of_string.mpr rfl] at hkey
          cases hkey
        rw [hk]
        rfl

/-- A field depends on the entries that were put in before by that field only. -/
theorem field?_foldl_congr (name : String) {table other : List (Value × Value)}
    (h : field? name table = field? name other) (entries : List (Value × Value)) :
    field? name (entries.foldl (fun table e => putKey e.1 e.2 table) table) =
      field? name (entries.foldl (fun table e => putKey e.1 e.2 table) other) := by
  induction entries generalizing table other with
  | nil => exact h
  | cons e rest ih => exact ih (by rw [field?_putKey, field?_putKey, h])

theorem field?_foldl_of_not_mem {name : String} {entries : List (Value × Value)}
    (h : ∀ e ∈ entries, e.1 ≠ .string name) (table : List (Value × Value)) :
    field? name (entries.foldl (fun table e => putKey e.1 e.2 table) table) =
      field? name table := by
  induction entries generalizing table with
  | nil => rfl
  | cons e rest ih =>
    rw [List.forall_mem_cons] at h
    have hkey : sameKey e.1 (.string name) = false := by
      rw [← Bool.not_eq_true, sameKey_of_string]
      exact h.1
    rw [List.foldl_cons, ih h.2, field?_putKey, hkey, if_neg Bool.false_ne_true]

end Value

theorem Yaml.tableOf_open (before after : List (Value × Value)) (key v : Value) :
    Yaml.tableOf (before ++ (key, v) :: after) =
      after.foldl (fun table e => Value.putKey e.1 e.2 table)
        (Value.putKey key v (Yaml.tableOf before)) := by
  rw [Yaml.tableOf, List.foldl_append]
  rfl

/-- The table that entries make, with the value of one of them left open. No later one has its
name. -/
def OpenTable.ofEntries {name : String} (before after : List (Value × Value))
    (h : ∀ e ∈ after, e.1 ≠ .string name) : OpenTable name where
  fill v := Yaml.tableOf (before ++ (.string name, v) :: after)
  field_name v := by
    rw [Yaml.tableOf_open, Value.field?_foldl_of_not_mem h, Value.field?_putKey,
      Value.sameKey_of_string.mpr rfl, if_pos rfl]
  field_other {other} hother v w := by
    have hkey : Value.sameKey (.string name) (.string other) = false := by
      rw [← Bool.not_eq_true, Value.sameKey_of_string, Value.string.injEq]
      exact Ne.symm hother
    rw [Yaml.tableOf_open, Yaml.tableOf_open]
    refine Value.field?_foldl_congr other ?_ after
    rw [Value.field?_putKey, Value.field?_putKey, hkey, if_neg Bool.false_ne_true,
      if_neg Bool.false_ne_true]

namespace Yaml

/-! ## 2. What is made of a value -/

/-- What is made of a value that may be a fault: a fault makes a fault. A value makes what the
function says, unless all values make the same fault. -/
structure Makes {α : Type} (φ : Except Fault Value → Except Fault α) (K : Value → α) : Prop where
  error : ∀ f, ∃ f', φ (.error f) = .error f'
  ok : (∃ f, ∀ v, φ (.ok v) = .error f) ∨ ∀ v, φ (.ok v) = .ok (K v)

namespace Makes

variable {α β γ : Type} {φ : Except Fault Value → Except Fault α} {K : Value → α}

theorem id : Makes (fun r => r) fun v => v where
  error f := ⟨f, rfl⟩
  ok := .inr fun _ => rfl

/-- One fault whatever the value is. -/
theorem const (f : Fault) (K : Value → α) : Makes (fun _ => .error f) K where
  error _ := ⟨f, rfl⟩
  ok := .inl ⟨f, fun _ => rfl⟩

/-- What is made of a result has the faults of the result, and may have one of its own. -/
theorem comp (h : Makes φ K) (ψ : Except Fault α → Except Fault β) (L : α → β)
    (herror : ∀ f, ∃ f', ψ (.error f) = .error f')
    (hok : (∃ f, ∀ a, ψ (.ok a) = .error f) ∨ ∀ a, ψ (.ok a) = .ok (L a)) :
    Makes (fun r => ψ (φ r)) fun v => L (K v) where
  error f := by
    obtain ⟨f', hf'⟩ := h.error f
    obtain ⟨g, hg⟩ := herror f'
    exact ⟨g, by rw [hf', hg]⟩
  ok := by
    rcases h.ok with ⟨f, hf⟩ | hφ
    · obtain ⟨g, hg⟩ := herror f
      exact .inl ⟨g, fun v => by rw [hf v, hg]⟩
    · rcases hok with ⟨g, hg⟩ | hψ
      · exact .inl ⟨g, fun v => by rw [hφ v, hg]⟩
      · exact .inr fun v => by rw [hφ v, hψ]

theorem map (h : Makes φ K) (g : α → β) : Makes (fun r => (φ r).map g) fun v => g (K v) :=
  h.comp (Except.map g) g (fun f => ⟨f, rfl⟩) (.inr fun _ => rfl)

theorem nested (h : Makes φ K) (mode : Mode) : Makes (fun r => Yaml.nested mode (φ r)) K :=
  h.comp (Yaml.nested mode) (fun a => a) (fun _ => ⟨_, rfl⟩) (.inr fun _ => rfl)

/-- A first member that is left open, and those after it. -/
theorem join_left (h : Makes φ K) (f : α → β → γ) {rest : Except Fault β} {b : β}
    (hrest : ∀ b', rest = .ok b' → b' = b) :
    Makes (fun r => join f (φ r) rest) fun v => f (K v) b := by
  refine h.comp (join f · rest) (f · b) (fun g => ?_) ?_
  · cases rest with
    | error e => exact ⟨g.least e, rfl⟩
    | ok b' => exact ⟨g, rfl⟩
  · cases rest with
    | error e => exact .inl ⟨e, fun _ => rfl⟩
    | ok b' =>
      obtain rfl := hrest b' rfl
      exact .inr fun _ => rfl

/-- A first member, and one after it that is left open. -/
theorem join_right (h : Makes φ K) (f : β → α → γ) {first : Except Fault β} {b : β}
    (hfirst : ∀ b', first = .ok b' → b' = b) :
    Makes (fun r => join f first (φ r)) fun v => f b (K v) := by
  refine h.comp (join f first) (f b) (fun g => ?_) ?_
  · cases first with
    | error e => exact ⟨e.least g, rfl⟩
    | ok b' => exact ⟨g, rfl⟩
  · cases first with
    | error e => exact .inl ⟨e, fun _ => rfl⟩
    | ok b' =>
      obtain rfl := hfirst b' rfl
      exact .inr fun _ => rfl

end Makes

/-- A result, if there is one. -/
theorem exists_eq_of_ok {α : Type} [Inhabited α] (r : Except Fault α) :
    ∃ a, ∀ a', r = .ok a' → a' = a := by
  cases r with
  | error f =>
    refine ⟨default, fun a' h => ?_⟩
    cases h
  | ok a => exact ⟨a, fun a' h => (Except.ok.inj h).symm⟩

/-! ## 3. Entries -/

theorem join_ok_iff {α β γ : Type} {f : α → β → γ} {first : Except Fault α}
    {rest : Except Fault β} {c : γ} :
    join f first rest = .ok c ↔ ∃ a b, first = .ok a ∧ rest = .ok b ∧ c = f a b := by
  cases first <;> cases rest <;> simp [join, eq_comm]

/-- The keys that are read are keys of the entries. -/
theorem key_of_readAll {once : Bool} {entries : List EntryValue} {seen : List Value}
    {table : List (Value × Value)} (h : readAll once seen entries = .ok table) :
    ∀ e ∈ table, ∃ entry ∈ entries, entry.key = .ok e.1 := by
  induction entries generalizing seen table with
  | nil =>
    cases h
    exact List.forall_mem_nil _
  | cons entry rest ih =>
    rw [readAll] at h
    split at h
    · cases h
    · rename_i key hkey
      obtain ⟨e, more, he, hmore, rfl⟩ := join_ok_iff.mp h
      obtain ⟨v, -, -, -, rfl⟩ := join_ok_iff.mp he
      rw [List.forall_mem_cons]
      refine ⟨⟨entry, List.mem_cons_self, hkey⟩, fun e he => ?_⟩
      obtain ⟨other, hother, hotherKey⟩ := ih hmore e he
      exact ⟨other, List.mem_cons_of_mem _ hother, hotherKey⟩

/-- Entries are read around one whose value is left open. -/
theorem readAll_open (once : Bool) (key : Value) (first last : List EntryValue)
    (seen : List Value) :
    ∃ before after : List (Value × Value),
      Makes (fun r => readAll once seen (first ++ ⟨.ok key, r⟩ :: last))
        (fun v => before ++ (key, v) :: after) ∧
      ∀ e ∈ after, ∃ entry ∈ last, entry.key = .ok e.1 := by
  induction first generalizing seen with
  | nil =>
    have hentry : Makes (fun r => join (fun v _ => (key, v)) r (checkKey once seen key))
        fun v => (key, v) := Makes.id.join_left (fun v _ => (key, v)) (b := ()) fun _ _ => rfl
    obtain ⟨after, hafter, hkeys⟩ : ∃ after : List (Value × Value),
        (∀ table, readAll once (key :: seen) last = .ok table → table = after) ∧
          ∀ e ∈ after, ∃ entry ∈ last, entry.key = .ok e.1 := by
      cases hlast : readAll once (key :: seen) last with
      | error f =>
        refine ⟨[], fun table h => ?_, List.forall_mem_nil _⟩
        cases h
      | ok after => exact ⟨after, fun _ h => (Except.ok.inj h).symm, key_of_readAll hlast⟩
    exact ⟨[], after, hentry.join_left List.cons hafter, hkeys⟩
  | cons entry first ih =>
    simp only [List.cons_append, readAll]
    cases entry.key with
    | error f => exact ⟨[], [], .const _ _, List.forall_mem_nil _⟩
    | ok other =>
      obtain ⟨before, after, hmakes, hafter⟩ := ih (other :: seen)
      obtain ⟨e, he⟩ := exists_eq_of_ok
        (join (fun v _ => (other, v)) entry.value (checkKey once seen other))
      exact ⟨e :: before, after, hmakes.join_right List.cons he, hafter⟩

/-- The keys of a mapping are those that its entries have. -/
theorem key_of_mapParts {mode : Mode} {found : Bool} {entries : List (Node × Node)}
    {parts : MapParts} (h : mapParts mode found entries = .ok parts) :
    ∀ e ∈ parts.own, ∃ entry ∈ entries,
      entry.1.asKey mode.version (entry.1.value mode.forKey) = .key e.key := by
  induction entries generalizing found parts with
  | nil =>
    cases h
    exact List.forall_mem_nil _
  | cons entry rest ih =>
    obtain ⟨keyNode, valueNode⟩ := entry
    have hlater : ∀ {found more}, mapParts mode found rest = .ok more → ∀ e ∈ more.own,
        ∃ entry ∈ (keyNode, valueNode) :: rest,
          entry.1.asKey mode.version (entry.1.value mode.forKey) = .key e.key := by
      intro found more hmore e he
      obtain ⟨entry, hentry, hkey⟩ := ih hmore e he
      exact ⟨entry, List.mem_cons_of_mem _ hentry, hkey⟩
    rw [mapParts] at h
    split at h
    · split at h
      · cases h
      · split at h
        · cases h
        · split at h
          · cases h
          · rename_i hmore
            cases h
            exact fun e he => hlater hmore e he
    · rename_i hkey
      split at h
      · cases h
      · rename_i hmore
        cases h
        exact List.forall_mem_cons.mpr ⟨⟨_, List.mem_cons_self, hkey⟩, hlater hmore⟩

/-- The parts of a mapping around an entry whose value is left open. -/
theorem mapParts_open {mode : Mode} {key : Node} {k : Value}
    (hkey : key.asKey mode.version (key.value mode.forKey) = .key (.ok k)) (found : Bool)
    (before after : List (Node × Node)) :
    (∃ e, ∀ node, mapParts mode found (before ++ (key, node) :: after) = .error e) ∨
      ∃ merged first last,
        (∀ node, mapParts mode found (before ++ (key, node) :: after) =
          .ok ⟨merged, first ++ ⟨.ok k, node.value mode⟩ :: last⟩) ∧
        ∀ e ∈ last, ∃ entry ∈ after,
          entry.1.asKey mode.version (entry.1.value mode.forKey) = .key e.key := by
  induction before generalizing found with
  | nil =>
    simp only [List.nil_append, mapParts, hkey]
    cases hafter : mapParts mode found after with
    | error e => exact .inl ⟨e, fun _ => rfl⟩
    | ok parts =>
      exact .inr ⟨parts.merged, [], parts.own, fun _ => rfl, key_of_mapParts hafter⟩
  | cons entry before ih =>
    obtain ⟨keyNode, valueNode⟩ := entry
    simp only [List.cons_append, mapParts]
    cases keyNode.asKey mode.version (keyNode.value mode.forKey) with
    | merge =>
      cases found with
      | true => exact .inl ⟨.duplicateKey, fun _ => rfl⟩
      | false =>
        cases valueNode.mergedEntries mode with
        | error e => exact .inl ⟨e, fun _ => rfl⟩
        | ok brought =>
          rcases ih (!brought.isEmpty) with ⟨e, he⟩ | ⟨merged, first, last, hparts, hlast⟩
          · exact .inl ⟨e, fun node => by simp only [he node]; rfl⟩
          · refine .inr ⟨brought ++ merged, first, last, fun node => ?_, hlast⟩
            simp only [hparts node]
            rfl
    | key k' =>
      rcases ih found with ⟨e, he⟩ | ⟨merged, first, last, hparts, hlast⟩
      · exact .inl ⟨e, fun node => by simp only [he node]⟩
      · refine .inr ⟨merged, ⟨k', valueNode.value mode⟩ :: first, last, fun node => ?_, hlast⟩
        simp only [hparts node, List.cons_append]

/-! ## 4. Trees -/

/-- A node with a mark, if there is one. -/
def Node.marked : Option Nat → Node → Node
  | none, node => node
  | some mark, node => .tied mark node

theorem Node.value_marked (mode : Mode) (mark : Option Nat) (node : Node) :
    (node.marked mark).value mode = (node.value mode).map (Value.marked mark) := by
  cases mark with
  | none => cases h : node.value mode <;> simp [Node.marked, h, Except.map, Value.marked]
  | some mark =>
    rw [Node.marked, Node.value]
    rfl

/-- A mapping in which the value of one entry is left open. -/
structure OpenMap where
  mark : Option Nat
  tag : Tag
  before : List (Node × Node)
  key : Node
  after : List (Node × Node)

/-- The mapping with a node in the open place. -/
def OpenMap.fill (m : OpenMap) (node : Node) : Node :=
  (Node.map m.tag (m.before ++ (m.key, node) :: m.after)).marked m.mark

/-- The open entry is the last one with a name, in what is read as a mapping. -/
structure OpenMap.IsAt (m : OpenMap) (mode : Mode) (name : String) : Prop where
  isMap : collectionType m.tag .map = .ok .map
  key : m.key.asKey mode.version (m.key.value mode.forKey) = .key (.ok (.string name))
  last : ∀ e ∈ m.after,
    e.1.asKey mode.version (e.1.value mode.forKey) ≠ .key (.ok (.string name))

/-- The value of a mapping with a place left open is a table with a field left open. -/
theorem OpenMap.IsAt.makes {m : OpenMap} {mode : Mode} {name : String} (h : m.IsAt mode name) :
    ∃ φ, ∃ table : OpenTable name, (∀ node, (m.fill node).value mode = φ (node.value mode)) ∧
      Makes φ fun v => (Value.map (table.fill v)).marked m.mark := by
  rcases mapParts_open h.key false m.before m.after with
    ⟨e, he⟩ | ⟨merged, first, last, hparts, hlast⟩
  · have hfault : ∀ node, (m.fill node).value mode = atFilling mode e := by
      intro node
      rw [fill, Node.value_marked, Node.value, h.isMap, he node]
      rfl
    exact ⟨fun _ => atFilling mode e, .ofEntries [] [] (List.forall_mem_nil _), hfault, .const _ _⟩
  · obtain ⟨before, after, hmakes, hafter⟩ :=
      readAll_open merged.isEmpty (.string name) (merged ++ first) last []
    have hnames : ∀ e ∈ after, e.1 ≠ .string name := by
      intro e he hname
      obtain ⟨entry, hentry, hkey⟩ := hafter e he
      obtain ⟨node, hnode, hmeaning⟩ := hlast entry hentry
      rw [hkey, hname] at hmeaning
      exact h.last node hnode hmeaning
    refine ⟨_, .ofEntries before after hnames, fun node => ?_,
      (((hmakes.map tableOf).map Value.map).nested mode).map (Value.marked m.mark)⟩
    rw [fill, Node.value_marked, Node.value, h.isMap, hparts node]
    simp only [MapParts.map, MapParts.entries, MapParts.all, List.append_assoc]

/-- A list in which the place of one item is left open. -/
structure OpenList where
  mark : Option Nat
  tag : Tag
  before : List Node
  after : List Node

/-- The list with a node in the open place. -/
def OpenList.fill (l : OpenList) (node : Node) : Node :=
  (Node.seq l.tag (l.before ++ node :: l.after)).marked l.mark

theorem itemValues_open (mode : Mode) (before after : List Node) :
    ∃ φ, ∃ first last : List Value, first.length = before.length ∧
      (∀ node, itemValues mode (before ++ node :: after) = φ (Node.value mode node)) ∧
      Makes φ fun v => first ++ v :: last := by
  induction before with
  | nil =>
    obtain ⟨last, hlast⟩ := exists_eq_of_ok (itemValues mode after)
    exact ⟨_, [], last, rfl, fun node => rfl, Makes.id.join_left List.cons hlast⟩
  | cons item before ih =>
    obtain ⟨φ, first, last, hlength, hvalue, hmakes⟩ := ih
    obtain ⟨v, hv⟩ := exists_eq_of_ok (item.value mode)
    refine ⟨_, v :: first, last, congrArg Nat.succ hlength, fun node => ?_,
      hmakes.join_right List.cons hv⟩
    rw [List.cons_append, itemValues, hvalue]

/-- The value of a list with a place left open is a list with an item left open. -/
theorem OpenList.makes (l : OpenList) (hseq : collectionType l.tag .seq = .ok .seq) (mode : Mode) :
    ∃ φ, ∃ first last : List Value, first.length = l.before.length ∧
      (∀ node, (l.fill node).value mode = φ (node.value mode)) ∧
      Makes φ fun v => (Value.list (first ++ v :: last)).marked l.mark := by
  obtain ⟨φ, first, last, hlength, hvalue, hmakes⟩ := itemValues_open mode l.before l.after
  refine ⟨_, first, last, hlength, fun node => ?_,
    ((hmakes.map Value.list).nested mode).map (Value.marked l.mark)⟩
  rw [fill, Node.value_marked, Node.value, hseq]
  simp only [hvalue]

end Yaml

end StaticSite
