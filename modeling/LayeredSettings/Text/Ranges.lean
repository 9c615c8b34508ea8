namespace LayeredSettings

/-- A table of closed ranges of code points. -/
abbrev CodeRanges := List (Nat × Nat)

def CodeRanges.covers (ranges : CodeRanges) (n : Nat) : Bool :=
  ranges.any fun range => range.1 ≤ n && n ≤ range.2

end LayeredSettings
