/-!
# Words

Places and counts are kept in signed words of 64 bits.  A caller can name a number that is in no word,
and where no nearer number can stand for it, that is a fault.
-/

namespace CecBench

/-- One more than the greatest number in a word. -/
def wordLimit : Nat := Nat.pow 2 63

/-- The number is in a word. -/
def isWord (n : Int) : Bool := decide (-Int.ofNat wordLimit ≤ n ∧ n < Int.ofNat wordLimit)

example : isWord (2 ^ 63 - 1) = true ∧ isWord (2 ^ 63) = false ∧ isWord (-2 ^ 63) = true := by decide

end CecBench
