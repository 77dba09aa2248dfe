/-
StaticSite.Value.SetOrder — the order in which a set shows its members.

The members of a set stand in a table, each in the place that its hash asks
for or, where that is taken, in the next place of a fixed search. They are
shown in the order of the table. Only numbers have a hash that is the same
in every run; a set with other members shows them as they were written.
-/
import StaticSite.Value.Basic

namespace StaticSite.Value

open StaticSite.Number

/-! ## 1. Hashes -/

/-- The prime that hashes of numbers are reduced by. -/
def hashPrime : Nat :=
  Nat.pow 2 61 - 1

/-- The hash with a sign, as a number of 64 bits. Minus one stands for no hash, so that minus
two takes its place. -/
def signedHash (negative : Bool) (magnitude : Nat) : Nat :=
  if !negative || magnitude == 0 then magnitude
  else Nat.pow 2 64 - (if magnitude == 1 then 2 else magnitude)

/-- The hash of a number; numbers that are equal have one hash. -/
def hash? : Value → Option Nat
  | bool b => some (if b then 1 else 0)
  | int n => some (signedHash (decide (n < 0)) (n.natAbs % hashPrime))
  | float (.finite s m e) =>
    some (signedHash s (m * Nat.pow 2 (Int.emod e 61).toNat % hashPrime))
  | float (.infinite s) => some (signedHash s 314159)
  | _ => none

/-! ## 2. Places -/

/-- How many places after a taken one are looked at before the search goes elsewhere. -/
def nearPlaces : Nat := 9

/-- The first free place of the search, in a table of a size; the first argument bounds it. -/
def freePlace (size : Nat) (isTaken : Nat → Bool) : Nat → Nat → Nat → Nat
  | 0, _, place => place
  | bound + 1, rest, place =>
    let near := if place + nearPlaces < size then nearPlaces else 0
    match (List.range (near + 1)).find? fun n => !isTaken (place + n) with
    | some n => place + n
    | none =>
      let rest := rest / 32
      freePlace size isTaken bound rest ((place * 5 + 1 + rest) % size)

/-- The size of the table for a number of members. -/
def tableSize (count : Nat) : Nat :=
  if count < 5 then 8 else Nat.pow 2 (Nat.log2 (2 * count) + 1)

/-- The members that are in the table, with their places, and one more. -/
def seat (size : Nat) (seated : List (Nat × Value)) (hash : Nat) (v : Value) :
    List (Nat × Value) :=
  let isTaken (n : Nat) : Bool := seated.any fun (place, _) => place == n
  (freePlace size isTaken (size + 16) hash (hash % size), v) :: seated

/-- The members in the order of the table, if all have a hash. -/
def seatAll (size : Nat) (seated : List (Nat × Value)) : List Value → Option (List Value)
  | [] => some ((seated.mergeSort fun a b => decide (a.1 ≤ b.1)).map Prod.snd)
  | v :: rest =>
    match v.hash? with
    | none => none
    | some hash => seatAll size (seat size seated hash v) rest

/-- The members of a set in the order in which it shows them. -/
def setOrder (members : List Value) : List Value :=
  (seatAll (tableSize members.length) [] members).getD members

end StaticSite.Value
