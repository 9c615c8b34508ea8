import LayeredSettings.Value.Basic

namespace LayeredSettings

/-- What a number leaves when divided by the prime `2 ^ 61 - 1`, with its sign. Minus two
takes the place of minus one. -/
def signedResidue (negative : Bool) (n : Nat) : Int :=
  let residue : Int := n % (Nat.pow 2 61 - 1)
  if !negative then residue else if residue = 1 then -2 else -residue

/-- The residue of a number, alike for equal numbers of different kinds. Modulo the
prime a power of two depends on its exponent modulo 61 only. -/
def Scalar.residue? : Scalar → Option Int
  | .bool b => some (if b then 1 else 0)
  | .int n => some (signedResidue (n < 0) n.natAbs)
  | .float (.finite negative significand exponent) =>
    some (signedResidue negative (significand * Nat.pow 2 (exponent % 61).toNat))
  | .float (.infinite negative) => some (if negative then -314159 else 314159)
  | _ => none

/-- The first free place of a table for a number: the place its residue asks for or
one of the nine behind it, and else one further on that also depends on the higher
digits of the residue. -/
def freePlace (table : Array (Option Scalar)) (tries place rest : Nat) : Nat :=
  match tries with
  | 0 => place
  | tries + 1 =>
    let near := List.range (if place + 10 ≤ table.size then 10 else 1)
    match near.find? fun i => (table[place + i]?.join).isNone with
    | some i => place + i
    | none =>
      let rest := rest / 32
      freePlace table tries ((place * 5 + 1 + rest) % table.size) rest

/-- The order in which the members of a set are listed. Numbers stand by the places
they take in a table of a power of two that is more than twice as long as the set,
and of eight places for a small set. Other members stay as they came. -/
def setOrder (members : List Scalar) : List Scalar :=
  match members.mapM fun m => (m.residue?.map fun residue => (m, residue)) with
  | none => members
  | some numbers =>
    let size := if members.length < 5 then 8 else Nat.pow 2 ((2 * members.length).log2 + 1)
    let table := numbers.foldl (fun table (member, residue) =>
      let word := (residue % Nat.pow 2 64).toNat
      table.setIfInBounds (freePlace table (size + 13) (word % size) word) (some member))
      (Array.replicate size none)
    table.toList.filterMap id

end LayeredSettings
