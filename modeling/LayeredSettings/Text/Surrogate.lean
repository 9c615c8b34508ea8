namespace LayeredSettings

/-- The character for a code. Half of a surrogate pair is none: the code with the same
digits in plane thirteen, which holds no characters, stands for it. -/
def charOfCode (code : Nat) : Char :=
  if 0xD800 ≤ code ∧ code ≤ 0xDFFF then Char.ofNat (0xD0000 + code) else Char.ofNat code

/-- The half of a surrogate pair that a character stands for. -/
def surrogate? (c : Char) : Option Nat :=
  if 0xDD800 ≤ c.toNat ∧ c.toNat ≤ 0xDDFFF then some (c.toNat - 0xD0000) else none

/-- The code of a character or of the half of a surrogate pair it stands for. -/
def codeOfChar (c : Char) : Nat := (surrogate? c).getD c.toNat

end LayeredSettings
