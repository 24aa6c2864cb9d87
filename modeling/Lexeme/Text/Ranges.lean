/-!
# Sets of code points

A character class of the Unicode standard is a set of code points, written as its closed ranges
in increasing order.

## Main Definitions

* `Increasing` — each range is non-empty and ends before the next one starts
* `Ranges` — the closed ranges of a set of code points, in increasing order
* `Ranges.has` — membership, which gives up at the first range that starts past the point

## Design Notes

`Ranges.has_eq_true_iff` says that giving up early loses nothing, because a table comes with the
proof that its ranges are in order: a table is read as the union of its ranges, and the order is
only a matter of speed.
-/

namespace Lexeme.Text

/-- Every range is non-empty and ends before the next one starts. -/
def Increasing : List (Nat × Nat) → Prop
  | [] => True
  | [r] => r.1 ≤ r.2
  | r :: s :: rest => r.1 ≤ r.2 ∧ r.2 < s.1 ∧ Increasing (s :: rest)

/-- Decides `Increasing` range by range. -/
def decideIncreasing : (rs : List (Nat × Nat)) → Decidable (Increasing rs)
  | [] => .isTrue trivial
  | [r] => inferInstanceAs (Decidable (r.1 ≤ r.2))
  | r :: s :: rest =>
    have := decideIncreasing (s :: rest)
    inferInstanceAs (Decidable (r.1 ≤ r.2 ∧ r.2 < s.1 ∧ Increasing (s :: rest)))

instance (rs : List (Nat × Nat)) : Decidable (Increasing rs) := decideIncreasing rs

namespace Increasing

variable {r : Nat × Nat} {rest : List (Nat × Nat)}

theorem le_of_head (ordered : Increasing (r :: rest)) : r.1 ≤ r.2 := by
  cases rest with
  | nil => exact ordered
  | cons _ _ => exact ordered.1

theorem tail (ordered : Increasing (r :: rest)) : Increasing rest := by
  cases rest with
  | nil => trivial
  | cons _ _ => exact ordered.2.2

/-- Past the first range of an increasing list every range starts later. -/
theorem lt_of_mem (ordered : Increasing (r :: rest)) {s : Nat × Nat} (mem : s ∈ rest) :
    r.2 < s.1 := by
  induction rest generalizing r with
  | nil => cases mem
  | cons t rest ih =>
    obtain ⟨-, lt, later⟩ := ordered
    rcases List.mem_cons.mp mem with rfl | beyond
    · exact lt
    · have bound := ih later beyond
      have inside := later.le_of_head
      omega

end Increasing

/-- Closed ranges of code points in increasing order. -/
structure Ranges where
  /-- The ranges, `(low, high)` standing for `low ≤ n ≤ high`. -/
  list : List (Nat × Nat)
  /-- They are in order. -/
  increasing : Increasing list

/-- Whether `n` lies in one of the ranges. The search stops at the first range that starts past
`n`, which is right for ranges in increasing order. -/
def hasIn : List (Nat × Nat) → Nat → Bool
  | [], _ => false
  | (low, high) :: rest, n => if n < low then false else if n ≤ high then true else hasIn rest n

theorem hasIn_cons (low high : Nat) (rest : List (Nat × Nat)) (n : Nat) :
    hasIn ((low, high) :: rest) n =
      if n < low then false else if n ≤ high then true else hasIn rest n := rfl

/-- On increasing ranges the early stop loses nothing. -/
theorem hasIn_eq_true_iff {rs : List (Nat × Nat)} (ordered : Increasing rs) (n : Nat) :
    hasIn rs n = true ↔ ∃ r ∈ rs, r.1 ≤ n ∧ n ≤ r.2 := by
  induction rs with
  | nil => simp [hasIn]
  | cons r rest ih =>
    obtain ⟨low, high⟩ := r
    have inside := ordered.le_of_head
    rw [hasIn_cons]
    by_cases below : n < low
    · simp only [below, if_true]
      refine ⟨fun h => by simp at h, ?_⟩
      rintro ⟨s, mem, lower, -⟩
      rcases List.mem_cons.mp mem with rfl | later
      · dsimp only at lower; omega
      · have := ordered.lt_of_mem later
        dsimp only at this inside; omega
    · by_cases upto : n ≤ high
      · simp only [below, upto, if_true, if_false, true_iff]
        exact ⟨(low, high), List.mem_cons_self, by dsimp only; omega, upto⟩
      · simp only [below, upto, if_false, ih ordered.tail, List.mem_cons]
        constructor
        · rintro ⟨s, mem, bounds⟩
          exact ⟨s, .inr mem, bounds⟩
        · rintro ⟨s, rfl | mem, lower, upper⟩
          · exact absurd upper upto
          · exact ⟨s, mem, lower, upper⟩

namespace Ranges

/-- Whether a code point is in the set. -/
def has (rs : Ranges) (n : Nat) : Bool := hasIn rs.list n

/-- A set of code points is the union of its ranges. -/
theorem has_eq_true_iff (rs : Ranges) (n : Nat) :
    rs.has n = true ↔ ∃ r ∈ rs.list, r.1 ≤ n ∧ n ≤ r.2 :=
  hasIn_eq_true_iff rs.increasing n

end Ranges

end Lexeme.Text
