import LayeredSettings.Pattern.Fault

namespace LayeredSettings

/-- The least and the greatest number of characters a part of a pattern can match. -/
structure Width where
  low : Nat
  high : Nat
  deriving DecidableEq, Repr, Inhabited

/-- The number of repetitions, and the greatest width, that stands for no bound. -/
def repeatLimit : Nat := Nat.pow 2 32 - 1

/-- A part of a pattern, as far as its validity depends on it. -/
inductive Form where
  | character
  | position
  | reference (width : Width)
  | group (body : List (List Form))
  | look (behind : Bool) (body : List (List Form))
  | choice (whenSet whenUnset : List Form) (hasUnset : Bool)
  | repeated (mode : RepeatMode) (least most : Nat) (body : Form)
  deriving Repr, Inhabited

namespace Form

def isPosition : Form → Bool
  | .position => true
  | _ => false

def isRepeated : Form → Bool
  | .repeated .. => true
  | _ => false

end Form

/-- Widths are not counted further than to the limit, and least ones not even to it. A
width that is greater is therefore not fixed. -/
def Width.clamp (w : Width) : Width := ⟨min w.low (repeatLimit - 1), min w.high repeatLimit⟩

mutual

def Form.width : Form → Width
  | .character => ⟨1, 1⟩
  | .position => ⟨0, 0⟩
  | .reference width => width
  | .group body => branchesWidth body
  | .look .. => ⟨0, 0⟩
  | .choice whenSet whenUnset hasUnset =>
    let w := sequenceWidth whenSet
    let v := sequenceWidth whenUnset
    if hasUnset then ⟨min w.low v.low, max w.high v.high⟩ else ⟨0, w.high⟩
  | .repeated _ least most body =>
    let w := body.width
    ⟨w.low * least, w.high * most⟩

/-- The width of parts one after the other. -/
def sequenceWidth : List Form → Width
  | [] => ⟨0, 0⟩
  | form :: rest =>
    let w := form.width
    let v := sequenceWidth rest
    Width.clamp ⟨w.low + v.low, w.high + v.high⟩

/-- The width of alternatives. -/
def branchesWidth : List (List Form) → Width
  | [] => ⟨0, 0⟩
  | [branch] => sequenceWidth branch
  | branch :: rest =>
    let w := sequenceWidth branch
    let v := branchesWidth rest
    ⟨min w.low v.low, max w.high v.high⟩

end

mutual

/-- The first fault, from left to right and from outside to inside, that shows only
in a pattern read to its end: a look behind of no fixed width, or under the
template flag any repetition. -/
def Form.lateFault? (template : Bool) : Form → Option PatternFault
  | .character | .position | .reference _ => none
  | .group body => branchesFault? template body
  | .look behind body =>
    let w := branchesWidth body
    if behind && w.low ≠ w.high then some .lookBehindWidth else branchesFault? template body
  | .choice whenSet whenUnset _ =>
    (sequenceFault? template whenSet).or (sequenceFault? template whenUnset)
  | .repeated mode _ _ body =>
    if template then some (.templateRepeat mode) else body.lateFault? template

def sequenceFault? (template : Bool) : List Form → Option PatternFault
  | [] => none
  | form :: rest => (form.lateFault? template).or (sequenceFault? template rest)

def branchesFault? (template : Bool) : List (List Form) → Option PatternFault
  | [] => none
  | branch :: rest => (sequenceFault? template branch).or (branchesFault? template rest)

end

/-- The widths a look behind cannot have although they are fixed. -/
def farWidth : Nat := Nat.pow 2 31

mutual

/-- Whether there is a look behind that would have to go too far back. -/
def Form.looksFar : Form → Bool
  | .character | .position | .reference _ => false
  | .group body => branchesLookFar body
  | .look behind body => (behind && (branchesWidth body).low ≥ farWidth) || branchesLookFar body
  | .choice whenSet whenUnset _ => sequenceLooksFar whenSet || sequenceLooksFar whenUnset
  | .repeated _ _ _ body => body.looksFar

def sequenceLooksFar : List Form → Bool
  | [] => false
  | form :: rest => form.looksFar || sequenceLooksFar rest

def branchesLookFar : List (List Form) → Bool
  | [] => false
  | branch :: rest => sequenceLooksFar branch || branchesLookFar rest

end

end LayeredSettings
