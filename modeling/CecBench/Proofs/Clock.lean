import CecBench.Clock
import Mathlib.Algebra.Order.Ring.Nat

/-!
# What a clock shows

Between two looks that are so many milliseconds apart a clock shows a number of seconds.  On a clock
that runs on it is any number that is more, by less than half a millisecond, and on another one the
nearest number of 53 binary digits (`Clock.Shows`).  The tenths told of it are the nearest ones, of two
that are as near the even one (`IsNearest`).

There is always one number of tenths to be told (`Clock.tells_iff`).  On a clock that runs on it is a
half that goes up, by whatever the clock runs on, for no fraction that it shows is as near to two
tenths (`isNearest_of_more`).
-/

namespace CecBench

/-! ## The nearest whole number -/

/-- `n` is the whole number nearest to the fraction, of two that are as near the even one. -/
structure IsNearest (num den n : Nat) : Prop where
  /-- The fraction is not more than one half above it. -/
  above : 2 * num ≤ 2 * (n * den) + den
  /-- Nor below it. -/
  below : 2 * (n * den) ≤ 2 * num + den
  even : 2 * num = 2 * (n * den) + den ∨ 2 * (n * den) = 2 * num + den → n % 2 = 0

theorem isNearest_nearest (num : Nat) {den : Nat} (hden : 0 < den) :
    IsNearest num den (Text.nearest num den) := by
  have hnum : num / den * den + num % den = num := Nat.div_add_mod' num den
  have hrest : num % den < den := Nat.mod_lt num hden
  unfold Text.nearest
  dsimp only
  split
  · exact ⟨by omega, by omega, by omega⟩
  · have hnext : (num / den + 1) * den = num / den * den + den := Nat.succ_mul _ _
    exact ⟨by omega, by omega, by omega⟩

theorem IsNearest.unique {num den n n' : Nat} (hden : 0 < den) (h : IsNearest num den n)
    (h' : IsNearest num den n') : n = n' := by
  -- Of two that are nearest the greater one is the next one, and then both of them are even.
  have hle {n n' : Nat} (h : IsNearest num den n) (h' : IsNearest num den n') : n' ≤ n := by
    by_contra hlt
    have hnext : (n + 1) * den ≤ n' * den := Nat.mul_le_mul_right den (Nat.lt_of_not_le hlt)
    have hnext' : (n + 1) * den = n * den + den := Nat.succ_mul n den
    have habove := h.above
    have hbelow := h'.below
    have heven := h.even (.inl (by omega))
    have heven' := h'.even (.inr (by omega))
    have hthird : (n + 2) * den ≤ n' * den := Nat.mul_le_mul_right den (by omega)
    have hthird' : (n + 2) * den = n * den + 2 * den := Nat.add_mul n 2 den
    omega
  exact Nat.le_antisymm (hle h' h) (hle h h')

/-! ## Clocks -/

namespace Clock

/-- What the clock may show between two looks that are so many milliseconds apart: a number of seconds,
as a fraction. -/
inductive Shows (c : Clock) (ms : Nat) : Nat → Nat → Prop
  /-- A clock that runs on shows more, by less than half a millisecond. -/
  | more {num den : Nat} : c.runsOn = true → ms * den < 1000 * num →
    2000 * num < (2 * ms + 1) * den → Shows c ms num den
  /-- Another one shows the nearest number of 53 binary digits.  The first of them stands for so many
  seconds as there are in `2 ^ place` parts of 1024. -/
  | rounded {place digits : Nat} : c.runsOn = false →
    2 ^ place * 1000 ≤ ms * 1024 → ms * 1024 < 2 ^ (place + 1) * 1000 →
    IsNearest (ms * 2 ^ (62 - place)) (1000 * 2 ^ (place - 62)) digits →
    Shows c ms (digits * 2 ^ (place - 62)) (2 ^ (62 - place))
  | nothing {den : Nat} : c.runsOn = false → ms = 0 → 0 < den → Shows c ms 0 den

/-- The tenths of a second that are told of what the clock shows. -/
def Tells (c : Clock) (ms n : Nat) : Prop :=
  ∃ num den, c.Shows ms num den ∧ IsNearest (10 * num) den n

variable {c : Clock} {ms num den n place : Nat}

theorem Shows.pos (h : c.Shows ms num den) : 0 < den := by
  cases h with
  | more _ hmore hless =>
    by_contra hnone
    obtain rfl : den = 0 := by omega
    omega
  | rounded => exact Nat.two_pow_pos _
  | nothing _ _ hden => exact hden

/-- No tenth but one is near to what a clock shows that runs on. -/
theorem isNearest_of_more (hmore : ms * den < 1000 * num)
    (hless : 2000 * num < (2 * ms + 1) * den) : IsNearest (10 * num) den ((ms + 50) / 100) := by
  have hlow : 100 * ((ms + 50) / 100) * den ≤ (ms + 50) * den := Nat.mul_le_mul_right den (by omega)
  have hhigh : (ms + 51) * den ≤ (100 * ((ms + 50) / 100) + 100) * den :=
    Nat.mul_le_mul_right den (by omega)
  simp only [Nat.add_mul, Nat.mul_assoc] at hlow hhigh hless
  exact ⟨by omega, by omega, by omega⟩

/-- The place of the first digit is that of the greatest power of two. -/
theorem log2_eq_iff (hms : 0 < ms) : (ms * 1024 / 1000).log2 = place ↔
    2 ^ place * 1000 ≤ ms * 1024 ∧ ms * 1024 < 2 ^ (place + 1) * 1000 := by
  rw [Nat.log2_eq_iff (by omega), Nat.le_div_iff_mul_le (by decide),
    Nat.div_lt_iff_lt_mul (by decide)]

theorem between_of_runsOn (h : c.runsOn = true) : c.between ms = (4 * ms + 1, 4000) := if_pos h

theorem between_of_not_runsOn (h : c.runsOn = false) : c.between ms = Text.binarySeconds ms :=
  if_neg (by simp [h])

theorem shows_between (c : Clock) (ms : Nat) : c.Shows ms (c.between ms).1 (c.between ms).2 := by
  cases hruns : c.runsOn with
  | true =>
    rw [between_of_runsOn hruns]
    exact .more hruns (by omega) (by omega)
  | false =>
    rw [between_of_not_runsOn hruns]
    cases ms with
    | zero => exact .nothing hruns rfl (Nat.two_pow_pos 62)
    | succ ms =>
      obtain ⟨hfirst, hnext⟩ := (log2_eq_iff (Nat.succ_pos ms)).mp rfl
      have hden : 0 < 1000 * 2 ^ (((ms + 1) * 1024 / 1000).log2 - 62) :=
        Nat.mul_pos (by decide) (Nat.two_pow_pos _)
      exact .rounded hruns hfirst hnext (isNearest_nearest _ hden)

/-- Whatever is shown, the tenths that are nearest to it are the same. -/
theorem Shows.tenths_eq (h : c.Shows ms num den) (hnearest : IsNearest (10 * num) den n) :
    n = c.tenths ms := by
  have hden := h.pos
  cases h with
  | more hruns hmore hless =>
    have hmiddle : IsNearest (10 * (4 * ms + 1)) 4000 ((ms + 50) / 100) :=
      isNearest_of_more (by omega) (by omega)
    rw [tenths, between_of_runsOn hruns]
    exact (hnearest.unique hden (isNearest_of_more hmore hless)).trans
      (hmiddle.unique (by decide) (isNearest_nearest _ (by decide)))
  | @rounded place digits hruns hfirst hnext hdigits =>
    have hms : 0 < ms := by
      have hpos := Nat.two_pow_pos place
      omega
    have hplace : (ms * 1024 / 1000).log2 = place := (log2_eq_iff hms).mpr ⟨hfirst, hnext⟩
    have hunit : 0 < 1000 * 2 ^ (place - 62) := Nat.mul_pos (by decide) (Nat.two_pow_pos _)
    have hbinary : Text.binarySeconds ms = (digits * 2 ^ (place - 62), 2 ^ (62 - place)) := by
      rw [hdigits.unique hunit (isNearest_nearest _ hunit), ← hplace]
      rfl
    rw [tenths, between_of_not_runsOn hruns, hbinary]
    exact hnearest.unique hden (isNearest_nearest _ hden)
  | nothing hruns hms =>
    subst hms
    have hzero : IsNearest (10 * 0) den 0 := ⟨by omega, by omega, by omega⟩
    rw [tenths, between_of_not_runsOn hruns]
    exact hnearest.unique hden hzero

/-- There is one number of tenths to be told. -/
theorem tells_iff : c.Tells ms n ↔ n = c.tenths ms := by
  constructor
  · rintro ⟨num, den, hshows, hnearest⟩
    exact hshows.tenths_eq hnearest
  · rintro rfl
    exact ⟨_, _, c.shows_between ms, isNearest_nearest _ (c.shows_between ms).pos⟩

end Clock

/-- Half of a tenth goes up on a clock that runs on.  On another one it goes to the even tenth, if the
time is a binary fraction. -/
example : [150, 250, 350, 850].map ({} : Clock).seconds = ["0.2", "0.3", "0.4", "0.9"] ∧
    [150, 250, 350, 850].map { runsOn := false : Clock }.seconds = ["0.1", "0.2", "0.3", "0.8"] := by
  decide

end CecBench
