import LayeredSettings.Value.Basic
import Mathlib.Data.Rat.Cast.Order

namespace LayeredSettings

namespace Double

/-- The exact value of a finite number. -/
def value (negative : Bool) (significand : Nat) (exponent : Int) : ℚ :=
  (signed negative significand : ℚ) * 2 ^ exponent

theorem scaled_eq_iff (a b e f : Int) :
    a * Nat.pow 2 (e - f).toNat = b * Nat.pow 2 (f - e).toNat ↔ (a : ℚ) * 2 ^ e = b * 2 ^ f := by
  have two : (2 : ℚ) ≠ 0 := two_ne_zero
  have positive : (2 : ℚ) ^ min e f ≠ 0 := zpow_ne_zero _ two
  have left : (2 : ℚ) ^ e = 2 ^ (e - f).toNat * 2 ^ min e f := by
    rw [← zpow_natCast, ← zpow_add₀ two]
    congr 1
    omega
  have right : (2 : ℚ) ^ f = 2 ^ (f - e).toNat * 2 ^ min e f := by
    rw [← zpow_natCast, ← zpow_add₀ two]
    congr 1
    omega
  rw [left, right, ← mul_assoc, ← mul_assoc, mul_left_inj' positive, ← Int.cast_inj (α := ℚ)]
  simp

theorem equal_finite_iff {s t : Bool} {m n : Nat} {e f : Int} :
    (finite s m e).equal (finite t n f) = true ↔ value s m e = value t n f := by
  simp only [equal, beq_iff_eq]
  exact scaled_eq_iff _ _ e f

theorem equalsInt_finite_iff {s : Bool} {m : Nat} {e n : Int} :
    (finite s m e).equalsInt n = true ↔ value s m e = n := by
  have scaled := scaled_eq_iff (signed s m) n e 0
  simp only [Int.sub_zero, Int.zero_sub, zpow_zero, mul_one] at scaled
  simp only [equalsInt, beq_iff_eq]
  exact scaled

/-- What a number is compared by. -/
inductive Content where
  | number (q : ℚ)
  | infinite (negative : Bool)
  | nan (origin : NanOrigin)

def content : Double → Content
  | .finite s m e => .number (value s m e)
  | .infinite s => .infinite s
  | .nan o => .nan o

def isNan : Double → Bool
  | .nan _ => true
  | _ => false

theorem equal_iff {x y : Double} : x.equal y = true ↔ x.content = y.content ∧ x.isNan = false := by
  cases x with
  | finite =>
    cases y with
    | finite => simp [equal_finite_iff, content, isNan]
    | infinite | nan => simp [equal, content]
  | infinite => cases y <;> simp [equal, content, isNan]
  | nan => simp [equal, isNan]

theorem isNan_of_number {x : Double} {q : ℚ} (number : x.content = .number q) : x.isNan = false := by
  cases x with
  | finite | infinite => rfl
  | nan => cases number

theorem equalsInt_iff {x : Double} {n : Int} : x.equalsInt n = true ↔ x.content = .number n := by
  cases x with
  | finite => simp [equalsInt_finite_iff, content]
  | infinite | nan => simp [equalsInt, content]

end Double

namespace Scalar

/-- What a scalar is compared by: numbers of all kinds by their exact values, moments by their
instants, and a not-a-number by its origin. -/
inductive Content where
  | null
  | number (x : Double.Content)
  | text (s : String)
  | bytes (b : List UInt8)
  | date (d : Date)
  | moment (zoned : Bool) (instant : Int)

def content : Scalar → Content
  | .null => .null
  | .bool b => .number (.number (if b then 1 else 0 : Int))
  | .int n => .number (.number n)
  | .float x => .number x.content
  | .text s => .text s
  | .bytes b => .bytes b
  | .date d => .date d
  | .dateTime t => .moment t.offset.isSome t.instant

/-- Only not a number differs from itself. -/
def isNan : Scalar → Bool
  | .float x => x.isNan
  | _ => false

theorem equal_iff {s t : Scalar} : s.equal t = true ↔ s.content = t.content ∧ s.isNan = false := by
  cases s with
  | float x =>
    cases t with
    | float y => simp [equal, content, isNan, Double.equal_iff]
    | bool b | int n =>
      simp only [equal, whole?, Option.any_some, Double.equalsInt_iff, content, Content.number.injEq, isNan]
      exact ⟨fun same => ⟨same, Double.isNan_of_number same⟩, And.left⟩
    | null | text | bytes | date | dateTime => simp [equal, content, whole?]
  | bool | int =>
    cases t with
    | float y =>
      simp only [equal, whole?, Option.any_some, Double.equalsInt_iff, content, Content.number.injEq, isNan, and_true]
      exact eq_comm
    | bool | int =>
      simp only [equal, whole?, beq_iff_eq, content, Content.number.injEq, Double.Content.number.injEq,
        Int.cast_inj, isNan, and_true]
    | null | text | bytes | date | dateTime => simp [equal, content, whole?]
  | null | text | bytes | date => cases t <;> simp [equal, content, isNan, whole?]
  | dateTime u => cases t <;> simp [equal, DateTime.equal, content, isNan, whole?]

theorem same_iff {s t : Scalar} : s.same t = true ↔ s.content = t.content := by
  unfold same
  split
  · simp [content, Double.content]
  · next other =>
    rw [equal_iff, and_iff_left_of_imp]
    intro alike
    cases s with
    | float x =>
      cases x with
      | nan o =>
        cases t with
        | float y =>
          cases y with
          | nan p => exact absurd rfl (other o p rfl)
          | finite | infinite => cases alike
        | _ => cases alike
      | finite | infinite => rfl
    | _ => rfl

/-- A text equals nothing but itself. -/
theorem eq_of_equal_text {s : Scalar} {t : String}
    (same : (Scalar.text t).equal s = true ∨ s.equal (.text t) = true) : s = .text t := by
  cases s with
  | text u =>
    simp only [equal, beq_iff_eq] at same
    rcases same with rfl | rfl <;> rfl
  | null | bool | int | float | bytes | date | dateTime => simp [equal, whole?] at same

theorem same_text_iff {s : String} {t : Scalar} : (text s).same t = true ↔ t = .text s := by
  constructor
  · intro same
    exact eq_of_equal_text (.inl same)
  · rintro rfl
    exact same_iff.mpr rfl

theorem same_congr {s t : Scalar} (alike : s.same t = true) (u : Scalar) : s.same u = t.same u := by
  rw [Bool.eq_iff_iff, same_iff, same_iff, same_iff.mp alike]

end Scalar

namespace Value

/-- What an entry of a mapping is compared with. -/
theorem matched {x : Value} {found : Option (Scalar × Value)}
    (same : (match found with
      | some entry => x.same entry.2
      | none => false) = true) : ∃ entry, found = some entry ∧ x.same entry.2 = true := by
  cases found with
  | none => cases same
  | some entry => exact ⟨entry, rfl, same⟩

theorem matched_of_mem {xs ys : List (Scalar × Value)} (same : sameEntries xs ys = true) {entry : Scalar × Value}
    (member : entry ∈ xs) :
    ∃ other, ys.find? (fun other => entry.1.same other.1) = some other ∧ entry.2.same other.2 = true := by
  induction xs with
  | nil => cases member
  | cons first rest ih =>
    simp only [sameEntries, Bool.and_eq_true] at same
    rcases List.mem_cons.mp member with rfl | later
    · exact matched same.1
    · exact ih same.2 later

theorem sameEntries_of_matched {xs ys : List (Scalar × Value)} (matched : ∀ entry ∈ xs,
    ∃ other, ys.find? (fun other => entry.1.same other.1) = some other ∧ entry.2.same other.2 = true) :
    sameEntries xs ys = true := by
  induction xs with
  | nil => rfl
  | cons first rest ih =>
    obtain ⟨other, found, same⟩ := matched first (List.mem_cons_self ..)
    simp only [sameEntries, found, same, Bool.true_and]
    exact ih fun entry member => matched entry (List.mem_cons_of_mem _ member)

mutual

/-- Values equal to the same one are equal. -/
theorem same_trans : ∀ {u v w : Value}, u.same v = true → v.same w = true → u.same w = true
  | .scalar _, .scalar _, .scalar _, first, second => by
    simp only [same, Scalar.same_iff] at first second ⊢
    exact first.trans second
  | .list xs, .list ys, .list zs, first, second => by
    simp only [same] at first second ⊢
    exact sameItems_trans first second
  | .tuple xs, .tuple ys, .tuple zs, first, second => by
    simp only [same] at first second ⊢
    exact sameItems_trans first second
  | .map xs, .map ys, .map zs, first, second => by
    simp only [same, Bool.and_eq_true, beq_iff_eq] at first second ⊢
    exact ⟨first.1.trans second.1, sameEntries_trans first.2 second.2⟩
  | .set xs, .set ys, .set zs, first, second => by
    simp only [same, Bool.and_eq_true, beq_iff_eq, List.all_eq_true, List.any_eq_true, Scalar.same_iff]
      at first second ⊢
    refine ⟨first.1.trans second.1, fun x member => ?_⟩
    obtain ⟨y, there, alike⟩ := first.2 x member
    obtain ⟨z, last, alike'⟩ := second.2 y there
    exact ⟨z, last, alike.trans alike'⟩
  | .enclosing _, .enclosing _, .enclosing _, first, second => by
    simp only [same, beq_iff_eq] at first second ⊢
    exact first.trans second

theorem sameItems_trans : ∀ {xs ys zs : List Value}, sameItems xs ys = true →
    sameItems ys zs = true → sameItems xs zs = true
  | [], [], [], _, _ => rfl
  | x :: xs, y :: ys, z :: zs, first, second => by
    simp only [sameItems, Bool.and_eq_true] at first second ⊢
    exact ⟨same_trans first.1 second.1, sameItems_trans first.2 second.2⟩

theorem sameEntries_trans : ∀ {xs ys zs : List (Scalar × Value)}, sameEntries xs ys = true →
    sameEntries ys zs = true → sameEntries xs zs = true
  | [], _, _, _, _ => rfl
  | (k, x) :: xs, ys, zs, first, second => by
    simp only [sameEntries, Bool.and_eq_true] at first ⊢
    refine ⟨?_, sameEntries_trans first.2 second⟩
    obtain ⟨y, found, alike⟩ := matched first.1
    have key : k.same y.1 = true := by simpa using List.find?_some found
    obtain ⟨z, found', alike'⟩ := matched_of_mem second (List.mem_of_find?_eq_some found)
    have moved : (fun entry : Scalar × Value => k.same entry.1) = fun entry => y.1.same entry.1 :=
      funext fun entry => Scalar.same_congr key entry.1
    rw [moved, found']
    exact same_trans alike alike'

end

theorem equal_iff {v w : Value} : v.equal w = true ↔ v.same w = true ∧ ∀ s, v = .scalar s → s.isNan = false := by
  cases v with
  | scalar s =>
    cases w with
    | scalar t => simp [equal, same, Scalar.equal_iff, Scalar.same_iff]
    | list | tuple | map | set | enclosing => simp [equal, same]
  | list | tuple | map | set | enclosing => simp [equal]

/-- Values equal to the same one are equal, whatever they hold. -/
theorem equal_trans {u v w : Value} (first : u.equal v = true) (second : v.equal w = true) : u.equal w = true := by
  rw [equal_iff] at first second ⊢
  exact ⟨same_trans first.1 second.1, first.2⟩

end Value

end LayeredSettings
