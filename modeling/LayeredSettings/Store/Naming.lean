import LayeredSettings.Failure

namespace LayeredSettings

/-- The layer of a name. -/
def Layer.named (name : String) : Except Failure Layer :=
  match Layer.ofName? name with
  | some layer => .ok layer
  | none => .error (.unknownLayer name)

/-- The layers of some names, each with its data. One unknown name refuses all. -/
def namedLayers : List (String × List (Scalar × Value)) →
    Except Failure (List (Layer × List (Scalar × Value)))
  | [] => .ok []
  | (name, data) :: rest =>
    match Layer.named name, namedLayers rest with
    | .error failure, _ => .error failure
    | .ok _, .error failure => .error failure
    | .ok layer, .ok others => .ok ((layer, data) :: others)

end LayeredSettings
