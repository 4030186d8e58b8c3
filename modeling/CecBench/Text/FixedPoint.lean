/-!
# Seconds with fixed places

Times are whole milliseconds.  They are shown in seconds with three places, which is exact, or with
one.  For one place a number of seconds is a fraction, and the nearest tenth is shown, of two that are
as near the even one.
-/

namespace CecBench.Text

/-- A number of milliseconds as seconds with three places. -/
def secondsToMillis (ms : Nat) : String :=
  let fraction := toString (ms % 1000)
  toString (ms / 1000) ++ "." ++ String.ofList (List.replicate (3 - fraction.length) '0') ++ fraction

/-- The whole number nearest to a fraction, of two that are as near the even one. -/
def nearest (num den : Nat) : Nat :=
  let low := num / den
  let rest := 2 * (num % den)
  if rest < den ∨ rest = den ∧ low % 2 = 0 then low else low + 1

/-- A number of milliseconds as seconds in a number of 53 binary digits, which is given as a
fraction. -/
def binarySeconds (ms : Nat) : Nat × Nat :=
  -- The seconds times 1024, so that the first digit is behind the point for no time but none.
  let place := (ms * 1024 / 1000).log2
  let digits := nearest (ms * Nat.pow 2 (62 - place)) (1000 * Nat.pow 2 (place - 62))
  (digits * Nat.pow 2 (place - 62), Nat.pow 2 (62 - place))

/-- A number of tenths with its point. -/
def tenths (n : Nat) : String := toString (n / 10) ++ "." ++ toString (n % 10)

/-- The text with blanks before it, up to a width. -/
def padLeft (width : Nat) (s : String) : String :=
  String.ofList (List.replicate (width - s.length) ' ') ++ s

end CecBench.Text
