/-!
# Bounds counted from either end

A bound of a slice counts from the front, or from the back if it is negative, and one that lies
outside is moved to the nearer end.  A single index counts in the same way and may lie outside.
-/

namespace CecBench

/-- The place in a list of the given length that a bound means. -/
def clampBound (length : Nat) (i : Int) : Nat :=
  if i < 0 then (Int.ofNat length + i).toNat else min i.toNat length

/-- The members between two bounds, where a missing second bound is the end. -/
def slice {α : Type} (xs : List α) (start : Int) (stop : Option Int) : List α :=
  let last := (stop.map (clampBound xs.length)).getD xs.length
  (xs.take last).drop (clampBound xs.length start)

/-- The member at an index that counts from either end. -/
def atIndex? {α : Type} (xs : List α) (i : Int) : Option α :=
  let place := if i < 0 then Int.ofNat xs.length + i else i
  if place < 0 then none else xs[place.toNat]?

example : slice [1, 2, 3] (-2) none = [2, 3] ∧ slice [1, 2, 3] 0 (some (-1)) = [1, 2] := by decide

end CecBench
