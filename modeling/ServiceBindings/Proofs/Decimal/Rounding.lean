import Mathlib.Algebra.Order.Field.Power
import Mathlib.Algebra.Order.Ring.Rat
import Mathlib.Tactic.FieldSimp
import Mathlib.Tactic.Linarith
import Mathlib.Tactic.LinearCombination
import Mathlib.Tactic.Ring
import ServiceBindings.Decimal.Shortest

/-!
The numbers that patterns stand for, and the patterns that numbers are rounded to. A number is rounded to a pattern if
it lies in the interval of the pattern, between the middles of the pattern and its neighbours.
-/

namespace ServiceBindings.Decimal

namespace Format

variable {f : Format} {n : Nat}

/-- The number of a pattern, whose sign is left out. The exponent stands in front of the fraction; where it is zero, the
number has no bit in front of its fraction, and the exponent counts as one. -/
def value (f : Format) (n : Nat) : ℚ :=
  let exponent := n / 2 ^ f.fractionBits
  let fraction := n % 2 ^ f.fractionBits
  let least : Int := 2 - 2 ^ (f.exponentBits - 1) - f.fractionBits
  if exponent = 0 then fraction * 2 ^ least
  else (2 ^ f.fractionBits + fraction) * 2 ^ (least + exponent - 1)

/-- The first pattern whose exponent has all bits set, which is above the patterns of numbers. -/
def limit (f : Format) : Nat :=
  (2 ^ f.exponentBits - 1) * 2 ^ f.fractionBits

/-- Whether a number is rounded to a pattern: no pattern is nearer, and of two that are equally near it is the even one.
The pattern behind the last one of a number counts as the next number. -/
def Rounds (f : Format) (n : Nat) (x : ℚ) : Prop :=
  ∀ k ≤ f.limit, k ≠ n →
    |x - f.value n| < |x - f.value k| ∨ |x - f.value n| = |x - f.value k| ∧ n % 2 = 0

/-! ### Neighbours -/

theorem leastExponent_eq (f : Format) : f.leastExponent = 2 - 2 ^ (f.exponentBits - 1) - f.fractionBits := by
  simp [leastExponent]

/-- A pattern is a fraction below an exponent, which is zero or not. -/
theorem exists_parts (f : Format) (n : Nat) :
    n < 2 ^ f.fractionBits ∨ ∃ e m, m < 2 ^ f.fractionBits ∧ n = (e + 1) * 2 ^ f.fractionBits + m := by
  have hparts := Nat.div_add_mod' n (2 ^ f.fractionBits)
  have hm := Nat.mod_lt n (Nat.two_pow_pos f.fractionBits)
  cases he : n / 2 ^ f.fractionBits with
  | zero =>
    rw [he, Nat.zero_mul, Nat.zero_add] at hparts
    exact .inl (hparts ▸ hm)
  | succ e => exact .inr ⟨e, _, hm, by rw [← he, hparts]⟩

section Parts

variable {e m : Nat} (hm : m < 2 ^ f.fractionBits)

include hm

theorem div_high : ((e + 1) * 2 ^ f.fractionBits + m) / 2 ^ f.fractionBits = e + 1 := by
  rw [Nat.mul_comm, Nat.mul_add_div (Nat.two_pow_pos _), Nat.div_eq_of_lt hm, Nat.add_zero]

theorem mod_high : ((e + 1) * 2 ^ f.fractionBits + m) % 2 ^ f.fractionBits = m := by
  rw [Nat.mul_comm, Nat.mul_add_mod, Nat.mod_eq_of_lt hm]

theorem value_low : f.value m = m * 2 ^ f.leastExponent := by
  simp [value, leastExponent_eq, Nat.div_eq_of_lt hm, Nat.mod_eq_of_lt hm]

theorem value_high :
    f.value ((e + 1) * 2 ^ f.fractionBits + m) = (2 ^ f.fractionBits + m) * 2 ^ (f.leastExponent + e) := by
  have hexponent : 2 - 2 ^ (f.exponentBits - 1) - (f.fractionBits : Int) + ((e + 1 : Nat) : Int) - 1 =
      f.leastExponent + e := by
    rw [leastExponent_eq]
    push_cast
    ring
  simp only [value, div_high hm, mod_high hm, hexponent]
  simp

end Parts

/-- The exponent of two that belongs to the last bit of a pattern. -/
def lastBit (f : Format) (n : Nat) : Int :=
  f.leastExponent + (n / 2 ^ f.fractionBits - 1 : Nat)

theorem lastBit_low (hn : n < 2 ^ f.fractionBits) : f.lastBit n = f.leastExponent := by
  simp [lastBit, Nat.div_eq_of_lt hn]

theorem lastBit_high {e m : Nat} (hm : m < 2 ^ f.fractionBits) :
    f.lastBit ((e + 1) * 2 ^ f.fractionBits + m) = f.leastExponent + e := by
  simp [lastBit, div_high hm]

/-- The next pattern stands for the number that is larger by the last bit. -/
theorem value_succ (f : Format) (n : Nat) : f.value (n + 1) = f.value n + 2 ^ f.lastBit n := by
  have hzero : 0 < 2 ^ f.fractionBits := Nat.two_pow_pos _
  obtain hn | ⟨e, m, hm, rfl⟩ := f.exists_parts n
  · rw [value_low hn, lastBit_low hn]
    obtain hnext | hfull : n + 1 < 2 ^ f.fractionBits ∨ n + 1 = 2 ^ f.fractionBits := by omega
    · rw [value_low hnext]
      push_cast
      ring
    · -- The fraction is full: the exponent is one from here on.
      have hpattern : n + 1 = (0 + 1) * 2 ^ f.fractionBits + 0 := by omega
      have hfull : (n : ℚ) + 1 = 2 ^ f.fractionBits := by exact_mod_cast hfull
      rw [hpattern, value_high hzero]
      push_cast
      rw [← hfull, add_zero, add_zero]
      ring
  · rw [value_high hm, lastBit_high hm]
    obtain hnext | hfull : m + 1 < 2 ^ f.fractionBits ∨ m + 1 = 2 ^ f.fractionBits := by omega
    · rw [Nat.add_assoc, value_high hnext]
      push_cast
      ring
    · have hpattern : (e + 1) * 2 ^ f.fractionBits + m + 1 = (e + 1 + 1) * 2 ^ f.fractionBits + 0 := by
        rw [Nat.add_assoc, hfull]
        ring
      have hfull : (m : ℚ) + 1 = 2 ^ f.fractionBits := by exact_mod_cast hfull
      have hexponent : f.leastExponent + ((e + 1 : Nat) : Int) = f.leastExponent + e + 1 := by
        push_cast
        ring
      rw [hpattern, value_high hzero, hexponent, zpow_add_one₀ (by norm_num)]
      push_cast
      linear_combination -(2 : ℚ) ^ (f.leastExponent + e) * hfull

theorem value_strictMono (f : Format) : StrictMono f.value :=
  strictMono_nat_of_lt_succ fun n => by
    rw [value_succ]
    have : (0 : ℚ) < 2 ^ f.lastBit n := by positivity
    linarith

theorem value_zero (f : Format) : f.value 0 = 0 := by
  simp [value_low (Nat.two_pow_pos f.fractionBits)]

/-! ### Intervals -/

/-- What a positive pattern is decoded into, and where its neighbour below is: half as far away as the one above if the
significand is the least one of its exponent, and as far otherwise. -/
structure Decoded (f : Format) (n significand : Nat) : Prop where
  magnitude : f.magnitude n = .finite significand (f.lastBit n)
  pos : 0 < significand
  lt : significand < 2 ^ (f.fractionBits + 1)
  value : f.value n = significand * 2 ^ f.lastBit n
  parity : significand % 2 = n % 2
  below : f.lastBit (n - 1) =
    if significand = 2 ^ f.fractionBits ∧ f.lastBit n ≠ f.leastExponent then f.lastBit n - 1 else f.lastBit n

end Format

/-- Whether a number lies in an interval of the given unit. -/
def Interval.Holds (i : Interval) (unit x : ℚ) : Prop :=
  if i.closed then i.low * unit ≤ x ∧ x ≤ i.high * unit else i.low * unit < x ∧ x < i.high * unit

/-- What lies between two numbers in an interval lies in it. -/
theorem Interval.Holds.between {i : Interval} {unit x y z : ℚ} (hx : i.Holds unit x) (hz : i.Holds unit z) (hxy : x ≤ y)
    (hyz : y ≤ z) : i.Holds unit y := by
  unfold Holds at *
  split at hx
  · next hclosed =>
    rw [if_pos hclosed] at hz ⊢
    exact ⟨hx.1.trans hxy, hyz.trans hz.2⟩
  · next hopen =>
    rw [if_neg hopen] at hz ⊢
    exact ⟨hx.1.trans_le hxy, hyz.trans_lt hz.2⟩

namespace Format

variable {f : Format} {n significand : Nat}

/-- A quarter of the last bit of a pattern. -/
def quarter (f : Format) (n : Nat) : ℚ :=
  2 ^ f.lastBit n / 4

theorem quarter_pos (f : Format) (n : Nat) : 0 < f.quarter n :=
  div_pos (zpow_pos (by norm_num) _) (by norm_num)

section Middles

variable (h : f.Decoded n significand)

include h

theorem Decoded.centre : ((f.interval significand (f.lastBit n)).centre : ℚ) * f.quarter n = f.value n := by
  simp only [interval, quarter, h.value]
  push_cast
  ring

/-- The interval of a pattern ends in the middle between it and the next one. -/
theorem Decoded.high :
    2 * (((f.interval significand (f.lastBit n)).high : ℚ) * f.quarter n) = f.value n + f.value (n + 1) := by
  rw [value_succ, h.value]
  simp only [interval, quarter]
  push_cast
  ring

/-- The interval of a pattern begins in the middle between it and the one before. -/
theorem Decoded.low (hpos : 0 < n) :
    2 * (((f.interval significand (f.lastBit n)).low : ℚ) * f.quarter n) = f.value (n - 1) + f.value n := by
  have hstep := value_succ f (n - 1)
  rw [Nat.sub_add_cancel hpos, h.below] at hstep
  have hsignificand := h.pos
  by_cases hdense : significand = 2 ^ f.fractionBits ∧ f.lastBit n ≠ f.leastExponent
  · rw [if_pos hdense, zpow_sub_one₀ (by norm_num)] at hstep
    have hlow : ((f.interval significand (f.lastBit n)).low : ℚ) = 4 * significand - 1 := by
      have : (f.interval significand (f.lastBit n)).low = 4 * significand - 1 := by
        simp [interval, hdense.1, hdense.2]
      rw [this, Nat.cast_sub (by omega)]
      push_cast
      ring
    rw [hlow, quarter]
    linear_combination hstep - 2 * h.value
  · rw [if_neg hdense] at hstep
    have hlow : ((f.interval significand (f.lastBit n)).low : ℚ) = 4 * significand - 2 := by
      have : (f.interval significand (f.lastBit n)).low = 4 * significand - 2 := by
        simp only [interval, Nat.pow_eq, Bool.and_eq_true, decide_eq_true_eq, bne_iff_ne, hdense, if_false]
      rw [this, Nat.cast_sub (by omega)]
      push_cast
      ring
    rw [hlow, quarter]
    linear_combination hstep - 2 * h.value

end Middles

/-! ### Rounding -/

/-- Which of two numbers is nearer is a matter of the middle between them. -/
private theorem nearer_iff_of_lt {v w x : ℚ} (hvw : v < w) {even : Prop} :
    (|x - v| < |x - w| ∨ |x - v| = |x - w| ∧ even) ↔ 2 * x < v + w ∨ 2 * x = v + w ∧ even := by
  have hsquares : (x - w) ^ 2 - (x - v) ^ 2 = (w - v) * (v + w - 2 * x) := by ring
  have hlt : |x - v| < |x - w| ↔ 2 * x < v + w := by
    rw [← sq_lt_sq, ← sub_pos, hsquares, mul_pos_iff_of_pos_left (sub_pos.mpr hvw), sub_pos]
  have heq : |x - v| = |x - w| ↔ 2 * x = v + w := by
    rw [← sq_eq_sq_iff_abs_eq_abs, eq_comm, ← sub_eq_zero, hsquares, mul_eq_zero_iff_left (sub_pos.mpr hvw).ne',
      sub_eq_zero, eq_comm]
  rw [hlt, heq]

private theorem nearer_iff_of_gt {v w x : ℚ} (hwv : w < v) {even : Prop} :
    (|x - v| < |x - w| ∨ |x - v| = |x - w| ∧ even) ↔ w + v < 2 * x ∨ 2 * x = w + v ∧ even := by
  have h : (|-x - -v| < |-x - -w| ∨ |-x - -v| = |-x - -w| ∧ even) ↔ _ := nearer_iff_of_lt (neg_lt_neg hwv)
  have habs : ∀ u : ℚ, |-x - -u| = |x - u| := fun u => by rw [neg_sub_neg, abs_sub_comm]
  rw [habs, habs] at h
  rw [h]
  constructor
  · rintro (hlt | ⟨heq, heven⟩)
    · exact .inl (by linarith)
    · exact .inr ⟨by linarith, heven⟩
  · rintro (hlt | ⟨heq, heven⟩)
    · exact .inl (by linarith)
    · exact .inr ⟨by linarith, heven⟩

theorem holds_iff {i : Interval} {unit x : ℚ} :
    i.Holds unit x ↔ (i.low * unit < x ∨ x = i.low * unit ∧ i.closed = true) ∧
      (x < i.high * unit ∨ x = i.high * unit ∧ i.closed = true) := by
  unfold Interval.Holds
  cases i.closed <;> simp [le_iff_lt_or_eq, @eq_comm _ x]

/-- The numbers that are rounded to a pattern are those of its interval. -/
theorem Decoded.rounds_iff (h : f.Decoded n significand) (hpos : 0 < n) (hn : n < f.limit) {x : ℚ} :
    f.Rounds n x ↔ (f.interval significand (f.lastBit n)).Holds (f.quarter n) x := by
  have hlow := h.low hpos
  have hhigh := h.high
  have hclosed : (f.interval significand (f.lastBit n)).closed = true ↔ n % 2 = 0 := by simp [interval, h.parity]
  have hmono := f.value_strictMono
  rw [holds_iff, hclosed]
  constructor
  · intro hrounds
    have hbelow := hrounds (n - 1) (by omega) (by omega)
    have habove := hrounds (n + 1) hn (by omega)
    rw [nearer_iff_of_gt (hmono (by omega)), ← hlow] at hbelow
    rw [nearer_iff_of_lt (hmono (by omega)), ← hhigh] at habove
    refine ⟨hbelow.imp (fun hlt => ?_) fun heq => ⟨?_, heq.2⟩, habove.imp (fun hlt => ?_) fun heq => ⟨?_, heq.2⟩⟩
    · linarith
    · linarith [heq.1]
    · linarith
    · linarith [heq.1]
  · rintro ⟨hbelow, habove⟩ k _ hk
    rcases Nat.lt_or_gt_of_ne hk with hk | hk
    · have hle := hmono.monotone (Nat.le_sub_one_of_lt hk)
      rw [nearer_iff_of_gt (hmono hk)]
      rcases hbelow with hlt | ⟨heq, heven⟩
      · exact .inl (by linarith)
      · exact (lt_or_eq_of_le (by linarith : f.value k + f.value n ≤ 2 * x)).imp_right fun heq => ⟨heq.symm, heven⟩
    · have hle := hmono.monotone (Nat.succ_le_of_lt hk)
      rw [nearer_iff_of_lt (hmono hk)]
      rcases habove with hlt | ⟨heq, heven⟩
      · exact .inl (by simp only [Nat.succ_eq_add_one] at hle; linarith)
      · refine (lt_or_eq_of_le ?_).imp_right fun heq => ⟨heq, heven⟩
        simp only [Nat.succ_eq_add_one] at hle
        linarith

end Format

end ServiceBindings.Decimal
