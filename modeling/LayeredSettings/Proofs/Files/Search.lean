import Mathlib.Data.List.Nodup
import Mathlib.Logic.Function.Iterate
import LayeredSettings.Files.Places

namespace LayeredSettings

namespace Tree

/-- No node of a tree is a link. -/
def Linkless (tree : Tree) : Prop := ∀ place target, tree.nodes.get? place ≠ some (.link target)

/-- Names that lead from each directory to one in it. -/
def PlainNames (names : List String) : Prop := ∀ name ∈ names, ¬(name = "" ∨ name = ".") ∧ name ≠ ".."

instance (names : List String) : Decidable (PlainNames names) := List.decidableBAll _ _

variable {tree : Tree} {names : List String}

theorem lexical_names (plain : PlainNames names) (place : List String) :
    lexical place (names.map .name) = place ++ names := by
  induction names generalizing place with
  | nil => simp [lexical]
  | cons name names ih =>
    obtain ⟨onward, inward⟩ := plain name List.mem_cons_self
    rw [List.map_cons, lexical, if_neg onward, if_neg inward, ih fun other member =>
      plain other (List.mem_cons_of_mem _ member)]
    simp

theorem linkAt?_of_linkless (linkless : tree.Linkless) (directory : List String) (p : Path) :
    tree.linkAt? directory p = none := by
  rw [linkAt?]
  split
  · next target found => exact absurd found (linkless _ target)
  · rfl

theorem follow_names (linkless : tree.Linkless) (plain : PlainNames names) (directory : List String) (budget : Nat)
    (seen : Entries Path (Option Path)) (here : Path) :
    tree.follow directory budget seen here (names.map .name) =
      placeOf directory { here with parts := here.parts ++ names } := by
  induction names generalizing here with
  | nil => simp [follow]
  | cons name names ih =>
    obtain ⟨onward, inward⟩ := plain name List.mem_cons_self
    rw [List.map_cons, follow, if_neg onward, if_neg inward]
    dsimp only
    rw [linkAt?_of_linkless linkless, ih fun other member => plain other (List.mem_cons_of_mem _ member)]
    simp

/-- A walk in which no link is followed does not end for the number of links. -/
theorem along_ne_tooManyLinks (linkless : tree.Linkless)
    (follow : List String → List String → Except WalkFault (List String × Node)) (place names : List String) :
    tree.along follow place names ≠ .error .tooManyLinks := by
  induction names generalizing place with
  | nil =>
    rw [along]
    split <;> exact nofun
  | cons name rest ih =>
    rw [along]
    split
    · split_ifs
      · exact ih _
      · exact nofun
      · exact ih _
      · exact ih _
      · exact nofun
      · split
        · exact nofun
        · next target found =>
          rw [node?, if_neg (by simp)] at found
          exact absurd found (linkless _ target)
        · exact ih _
    · exact nofun
    · exact nofun

end Tree

/-- A path of plain names from the root is its own real path where there are no links. -/
theorem Host.resolve_linkless {host : Host} {names : List String} (linkless : host.tree.Linkless)
    (plain : Tree.PlainNames names) (named : Path.hasNull ⟨.absolute, names⟩ = false) :
    host.resolve ⟨.absolute, names⟩ = .ok ⟨.absolute, names⟩ := by
  have absolute : Path.isAbsolute ⟨.absolute, names⟩ = true := rfl
  have real (budget : Nat) : host.tree.follow host.directory budget [] ⟨.absolute, []⟩ (names.map .name) = names := by
    rw [Tree.follow_names linkless plain]
    exact Tree.lexical_names plain []
  have found : host.tree.find host.directory ⟨.absolute, names⟩ ≠ .error .tooManyLinks := by
    rw [Tree.find]
    split
    · exact nofun
    · split
      · exact nofun
      · exact Tree.along_ne_tooManyLinks linkless _ _ _
  have placed : host.tree.resolve host.directory ⟨.absolute, names⟩ = .ok ⟨.absolute, names⟩ := by
    -- The search for the node has only one fault that matters here, which `found` rules out.
    simp only [Tree.resolve, absolute, if_true, real]
  rw [Host.resolve, named, placed]
  rfl

namespace Host

/-- The place of a settings file in the directory that lies so many steps outside of another one. -/
def fileAround (p : Path) (n : Nat) : Path := (Path.parent^[n] p).child projectFileName

/-- How many directories there are to look at: the directory and those around it, up to a limit. -/
def reach (directories : Nat) (p : Path) : Nat := min directories (p.parts.length + 1)

variable {check : Path → Except Failure Bool} {directories : Nat} {p : Path}

/-- The settings file of the nearest directory that has one, among so many directories: a check finds it there, and
does not find one, or fails, in every directory further inside. -/
def IsNearest (check : Path → Except Failure Bool) (directories : Nat) (p file : Path) : Prop :=
  ∃ n, n < directories ∧ n ≤ p.parts.length ∧ check (fileAround p n) = .ok true ∧
    (∀ m < n, check (fileAround p m) ≠ .ok true) ∧ file = fileAround p n

theorem IsNearest.unique {file file' : Path} (nearest : IsNearest check directories p file)
    (nearest' : IsNearest check directories p file') : file = file' := by
  obtain ⟨n, _, _, there, none, rfl⟩ := nearest
  obtain ⟨n', _, _, there', none', rfl⟩ := nearest'
  rcases Nat.lt_trichotomy n n' with inside | rfl | outside
  · exact absurd there (none' n inside)
  · rfl
  · exact absurd there' (none n' outside)

end Host

end LayeredSettings
