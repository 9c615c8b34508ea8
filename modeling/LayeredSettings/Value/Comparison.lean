import LayeredSettings.Value.Limit

namespace LayeredSettings

/-- A value, with the collections it stands in, the innermost first. -/
structure Inside where
  outer : List Value
  value : Value

namespace Inside

/-- The enclosing collection a value stands for, itself inside those further out. -/
def unfold (v : Inside) (e : Enclosing) : Inside :=
  ⟨v.outer.drop (e.level + 1), v.outer.getD e.level .null⟩

/-- A value as a part of another one. -/
def part (v : Inside) (value : Value) : Inside := ⟨v.value :: v.outer, value⟩

end Inside

mutual

/-- Whether two values are equal as parts, none if comparing them part by part has to
unfold more collections that lie in themselves than `fuel` says. Those of one
reading are not unfolded: where they stand for one setting, they are the same one. -/
def compareInside (fuel : Nat) (v w : Inside) : Option Bool :=
  match fuel with
  | 0 => none
  | fuel + 1 =>
    match v.value, w.value with
    | .enclosing e, .enclosing f =>
      if e.reading = f.reading then some (e == f) else compareInside fuel (v.unfold e) (w.unfold f)
    | .enclosing e, _ => compareInside fuel (v.unfold e) w
    | _, .enclosing f => compareInside fuel v (w.unfold f)
    | .list xs, .list ys => if xs.length = ys.length then compareItems fuel v w xs ys else some false
    | .tuple xs, .tuple ys => compareItems fuel v w xs ys
    | .map xs, .map ys =>
      if xs.length = ys.length then compareEntries fuel v w xs ys else some false
    | x, y => some (x.same y)

/-- Compares the items of two values from the first on, up to one that differs. -/
def compareItems (fuel : Nat) (v w : Inside) : List Value → List Value → Option Bool
  | [], [] => some true
  | x :: xs, y :: ys =>
    match fuel with
    | 0 => none
    | fuel + 1 => do
      if ← compareInside fuel (v.part x) (w.part y) then compareItems fuel v w xs ys else return false
  | _, _ => some false

def compareEntries (fuel : Nat) (v w : Inside) :
    List (Scalar × Value) → List (Scalar × Value) → Option Bool
  | [], _ => some true
  | (key, x) :: xs, ys =>
    match fuel, ys.find? fun entry => key.same entry.1 with
    | 0, _ => none
    | _, none => some false
    | fuel + 1, some entry => do
      if ← compareInside fuel (v.part x) (w.part entry.2) then compareEntries fuel v w xs ys
      else return false

end

namespace Value

/-- Whether comparing two values part by part never ends. A comparison that meets a pair
of parts again inside that pair goes on for ever, and there are no more pairs than
the product of the sizes, with the items of one collection between each. -/
def neverDiffers (v w : Value) : Bool :=
  (compareInside ((v.size * w.size + 1) * (v.size + w.size + 2)) ⟨[], v⟩ ⟨[], w⟩).isNone

end Value

end LayeredSettings
