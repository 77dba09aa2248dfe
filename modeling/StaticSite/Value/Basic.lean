/-
StaticSite.Value.Basic — the values that a data file holds.

A value is a scalar, a list, a mapping in the order of its file, or a set.
Keys are values too; two keys are the same when they are equal as values,
where a number equals any number of the same size and a truth value counts
as one or zero (`sameKey`). A list or a mapping that holds itself is laid
out some way down; what is one and the same there has one mark (`tied`).
-/
import StaticSite.Number.Binary64
import StaticSite.Value.Calendar

namespace StaticSite

open StaticSite.Number

/-- A value of a data file. A `fixedList` is a list in the place of a key, or a pair. A
`listedMap` is a mapping whose entries were given in a list. -/
inductive Value where
  | null
  | bool (b : Bool)
  | int (n : Int)
  | float (x : Binary64)
  | string (s : String)
  | bytes (content : List UInt8)
  | date (d : Date)
  | moment (m : Moment)
  | list (items : List Value)
  | fixedList (items : List Value)
  | map (entries : List (Value × Value))
  | listedMap (entries : List (Value × Value))
  | set (members : List Value)
  | tied (mark : Nat) (v : Value)
  deriving Inhabited

namespace Value

/-! ## 1. Parts -/

/-- The items of a list. -/
def items? : Value → Option (List Value)
  | list items => some items
  | tied _ v => v.items?
  | _ => none

/-- The entries of a mapping. -/
def entries? : Value → Option (List (Value × Value))
  | map entries => some entries
  | listedMap entries => some entries
  | tied _ v => v.entries?
  | _ => none

/-- The members of a set. -/
def members? : Value → Option (List Value)
  | set members => some members
  | tied _ v => v.members?
  | _ => none

/-! ## 2. Truth -/

/-- Null, false, zero and the empty string, list, mapping and set are void. -/
def isVoid : Value → Bool
  | null => true
  | bool b => !b
  | int n => n == 0
  | float x => x.isZero
  | string s => s.isEmpty
  | bytes content => content.isEmpty
  | date _ => false
  | moment _ => false
  | list items => items.isEmpty
  | fixedList items => items.isEmpty
  | map entries => entries.isEmpty
  | listedMap entries => entries.isEmpty
  | set members => members.isEmpty
  | tied _ v => v.isVoid

/-! ## 3. Keys -/

/-- A truth value or an integer as an integer. -/
def asInt? : Value → Option Int
  | bool b => some (if b then 1 else 0)
  | int n => some n
  | _ => none

mutual

/-- Are two values the same key? -/
def sameKey : Value → Value → Bool
  | null, null => true
  | string s, string t => s == t
  | bytes a, bytes b => a == b
  | date d, date e => d == e
  | moment m, moment n => m == n
  | float x, float y => x.eqNumber y
  | bool b, v => (v.asInt? == some (if b then 1 else 0)) || floatIs v (if b then 1 else 0)
  | int n, v => (v.asInt? == some n) || floatIs v n
  | float x, v =>
    match v.asInt? with
    | some n => x.eqInt n
    | none => false
  | fixedList a, fixedList b => sameKeys a b
  | _, _ => false

/-- Are two lists of values the same key? -/
def sameKeys : List Value → List Value → Bool
  | [], [] => true
  | a :: s, b :: t => sameKey a b && sameKeys s t
  | _, _ => false

/-- Is the value a float equal to an integer? -/
def floatIs : Value → Int → Bool
  | float x, n => x.eqInt n
  | _, _ => false

end

/-- The value of the first entry with the key. -/
def findKey (key : Value) : List (Value × Value) → Option Value
  | [] => none
  | (k, v) :: rest => if sameKey k key then some v else findKey key rest

/-- The value of the entry with a string for its key. -/
def field? (name : String) (entries : List (Value × Value)) : Option Value :=
  findKey (string name) entries

/-- The entries with a value put under a key: in the place of the entry with that key,
or at the end. -/
def putKey (key value : Value) : List (Value × Value) → List (Value × Value)
  | [] => [(key, value)]
  | (k, v) :: rest => if sameKey k key then (k, value) :: rest else (k, v) :: putKey key value rest

/-- Can the value be a key at all? A list, a mapping or a set cannot, nor can a fixed list
that holds one of them. -/
def isHashable : Value → Bool
  | list _ => false
  | map _ => false
  | listedMap _ => false
  | set _ => false
  | tied _ v => isHashable v
  | fixedList items => hashableAll items
  | _ => true
where
  /-- Can all the values be keys? -/
  hashableAll : List Value → Bool
    | [] => true
    | v :: rest => isHashable v && hashableAll rest

end Value

end StaticSite
