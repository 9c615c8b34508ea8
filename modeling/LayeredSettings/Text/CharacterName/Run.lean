import LayeredSettings.Text.Split

namespace LayeredSettings

/-- Names of consecutive code points, in lines of names with semicolons between
them. Each begins with the number of words that it shares with the one before it,
and goes on with the rest of its words. -/
structure NameRun where
  first : Nat
  lines : List String

/-- The words of each name, where `before` is the name that stands in front. -/
def unfoldNames (before : List (List Char)) : List (List Char) → List (List (List Char))
  | [] => []
  | [] :: rest => [] :: unfoldNames [] rest
  | (shared :: own) :: rest =>
    let words := before.take (shared.toNat - '0'.toNat) ++ splitAt ' ' own
    words :: unfoldNames words rest

/-- The words of the names of a run. -/
def NameRun.names (run : NameRun) : List (List (List Char)) :=
  unfoldNames [] (run.lines.flatMap fun line => splitAt ';' line.toList)

/-- The code point that bears the name of these words. -/
def NameRun.find? (run : NameRun) (words : List (List Char)) : Option Nat :=
  (run.names.findIdx? (· = words)).map (run.first + ·)

end LayeredSettings
