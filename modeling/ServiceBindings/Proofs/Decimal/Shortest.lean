import Mathlib.Data.Rat.Floor
import Mathlib.Tactic.NormNum
import ServiceBindings.Proofs.Decimal.Rounding

/-!
The shortest decimals of patterns. The search takes the first number of digits for which a decimal next to the number
of the pattern is rounded to the pattern. Every decimal with as many digits or fewer lies on the same grid as the two
that are tried, or below the first power of ten on it, so that none is missed.
-/

namespace ServiceBindings.Decimal

/-! ### Decimals -/

/-- The number of a decimal. -/
def Scientific.value (s : Scientific) : ℚ :=
  s.digits * 10 ^ s.exponent

/-- Whether a number is a decimal with at most so many digits. -/
def HasDigits (k : Nat) (x : ℚ) : Prop :=
  ∃ (d : Nat) (e : Int), d < 10 ^ k ∧ x = d * 10 ^ e

theorem HasDigits.pos {k : Nat} {x : ℚ} (h : HasDigits k x) (hx : x ≠ 0) : 0 < k := by
  refine Nat.pos_of_ne_zero ?_
  rintro rfl
  obtain ⟨d, e, hd, rfl⟩ := h
  obtain rfl : d = 0 := by simpa using hd
  exact hx (by simp)

/-- Whether a number is nearer to a target than another one is, or as near and not smaller. -/
def Preferred (target x y : ℚ) : Prop :=
  |x - target| < |y - target| ∨ |x - target| = |y - target| ∧ y ≤ x

/-- Whether a number is the shortest decimal of a pattern: it is rounded to the pattern, no decimal that is has fewer
digits, and none with as many is preferred to it. -/
structure Shortest (f : Format) (n : Nat) (x : ℚ) : Prop where
  rounds : f.Rounds n x
  digits : ∃ k, HasDigits k x ∧ ∀ y, f.Rounds n y →
    (∀ j, HasDigits j y → k ≤ j) ∧ (HasDigits k y → Preferred (f.value n) x y)

/-- Decimals with some number of digits lie on the grid of those that are tried, or below all of them that are not
smaller than the first power of ten. -/
theorem HasDigits.grid {v y : ℚ} {lead : Int} {n below : Nat} (hy : HasDigits n y) (hn : 0 < n) (hlead : 10 ^ lead ≤ v)
    (hbelow : below * 10 ^ (lead - n + 1) ≤ v) (habove : v < (below + 1 : Nat) * 10 ^ (lead - n + 1)) :
    (y ≤ v → y ≤ below * 10 ^ (lead - n + 1)) ∧ (v < y → (below + 1 : Nat) * 10 ^ (lead - n + 1) ≤ y) := by
  obtain ⟨d, e', hd, rfl⟩ := hy
  have hunit : (0 : ℚ) < 10 ^ (lead - n + 1) := zpow_pos (by norm_num) _
  by_cases he : lead - n + 1 ≤ e'
  · obtain ⟨k, hk⟩ := Int.le.dest he
    have hmultiple : (d : ℚ) * 10 ^ e' = (d * 10 ^ k : Nat) * 10 ^ (lead - n + 1) := by
      rw [← hk, zpow_add₀ (by norm_num), zpow_natCast]
      push_cast
      ring
    rw [hmultiple]
    constructor
    · intro hle
      have hlt : d * 10 ^ k < below + 1 := by exact_mod_cast lt_of_mul_lt_mul_right (hle.trans_lt habove) hunit.le
      exact mul_le_mul_of_nonneg_right (by exact_mod_cast Nat.le_of_lt_succ hlt) hunit.le
    · intro hlt
      have hlt : below < d * 10 ^ k := by exact_mod_cast lt_of_mul_lt_mul_right (hbelow.trans_lt hlt) hunit.le
      exact mul_le_mul_of_nonneg_right (by exact_mod_cast hlt) hunit.le
  · have hpower : (10 : ℚ) ^ lead = (10 ^ (n - 1) : Nat) * 10 ^ (lead - n + 1) := by
      push_cast
      rw [← zpow_natCast, ← zpow_add₀ (by norm_num)]
      congr 1
      omega
    have hfirst : (10 : ℚ) ^ lead ≤ below * 10 ^ (lead - n + 1) := by
      have hlt : 10 ^ (n - 1) < below + 1 := by
        exact_mod_cast lt_of_mul_lt_mul_right ((hpower ▸ hlead).trans_lt habove) hunit.le
      rw [hpower]
      exact mul_le_mul_of_nonneg_right (by exact_mod_cast Nat.le_of_lt_succ hlt) hunit.le
    have hsmall : (d : ℚ) * 10 ^ e' < 10 ^ lead := calc
      (d : ℚ) * 10 ^ e' < 10 ^ n * 10 ^ e' :=
        mul_lt_mul_of_pos_right (by exact_mod_cast hd) (zpow_pos (by norm_num) _)
      _ = 10 ^ (n + e') := by rw [zpow_add₀ (by norm_num), zpow_natCast]
      _ ≤ 10 ^ lead := zpow_le_zpow_right₀ (by norm_num) (by omega)
    exact ⟨fun _ => (hsmall.trans_le hfirst).le, fun hlt => absurd (hsmall.trans_le (hlead.trans hlt.le)) (lt_irrefl _)⟩

/-! ### Ratios of integers -/

theorem Interval.contains_iff {i : Interval} {num den : Nat} (hden : 0 < den) (d : Nat) (e : Int) :
    i.contains num den d e = true ↔ i.Holds (num / den) (d * 10 ^ e) := by
  have hden : (0 : ℚ) < den := by exact_mod_cast hden
  unfold contains Holds
  cases e with
  | ofNat k =>
    have hle : ∀ m : Nat, (m : ℚ) * (num / den) ≤ d * 10 ^ (Int.ofNat k) ↔ m * num ≤ d * 10 ^ k * den := by
      intro m
      rw [← mul_div_assoc, div_le_iff₀ hden, Int.ofNat_eq_natCast, zpow_natCast]
      exact_mod_cast Iff.rfl
    have hge : ∀ m : Nat, (d : ℚ) * 10 ^ (Int.ofNat k) ≤ m * (num / den) ↔ d * 10 ^ k * den ≤ m * num := by
      intro m
      rw [← mul_div_assoc, le_div_iff₀ hden, Int.ofNat_eq_natCast, zpow_natCast]
      exact_mod_cast Iff.rfl
    cases i.closed with
    | true => simp only [if_true, Bool.and_eq_true, decide_eq_true_eq, Nat.pow_eq, hle, hge]
    | false =>
      simp only [Bool.false_eq_true, if_false, Bool.and_eq_true, decide_eq_true_eq, Nat.pow_eq, ← not_le, hle, hge]
  | negSucc k =>
    have hpower : (0 : ℚ) < 10 ^ (k + 1) := by positivity
    have hle : ∀ m : Nat, (m : ℚ) * (num / den) ≤ d * 10 ^ (Int.negSucc k) ↔ m * (num * 10 ^ (k + 1)) ≤ d * den := by
      intro m
      rw [← mul_div_assoc, div_le_iff₀ hden, zpow_negSucc, mul_right_comm, ← div_eq_mul_inv, le_div_iff₀ hpower,
        mul_assoc]
      exact_mod_cast Iff.rfl
    have hge : ∀ m : Nat, (d : ℚ) * 10 ^ (Int.negSucc k) ≤ m * (num / den) ↔ d * den ≤ m * (num * 10 ^ (k + 1)) := by
      intro m
      rw [← mul_div_assoc, le_div_iff₀ hden, zpow_negSucc, mul_right_comm, ← div_eq_mul_inv, div_le_iff₀ hpower,
        mul_assoc]
      exact_mod_cast Iff.rfl
    cases i.closed with
    | true => simp only [if_true, Bool.and_eq_true, decide_eq_true_eq, Nat.pow_eq, hle, hge]
    | false =>
      simp only [Bool.false_eq_true, if_false, Bool.and_eq_true, decide_eq_true_eq, Nat.pow_eq, ← not_le, hle, hge]

/-- The decimals next to a number, and which of them is preferred. -/
theorem neighbours_spec (num : Nat) {den : Nat} (hden : 0 < den) (e : Int) :
    ∃ below above, neighbours .up num den e = (below, above) ∧ (below : ℚ) * 10 ^ e ≤ num / den ∧
      (num / den : ℚ) < (below + 1 : Nat) * 10 ^ e ∧
      (above = true ↔ (below + (below + 1 : Nat) : ℚ) * 10 ^ e ≤ 2 * (num / den)) := by
  obtain ⟨a, b, hb, hneighbours, hratio⟩ : ∃ a b : Nat, 0 < b ∧
      neighbours .up num den e = (a / b, Ties.up.above a b) ∧ (num / den : ℚ) = a / b * 10 ^ e := by
    cases e with
    | ofNat k =>
      refine ⟨num, den * 10 ^ k, by positivity, rfl, ?_⟩
      rw [Int.ofNat_eq_natCast, zpow_natCast]
      push_cast
      field_simp
    | negSucc k =>
      refine ⟨num * 10 ^ (k + 1), den, hden, rfl, ?_⟩
      rw [zpow_negSucc]
      push_cast
      field_simp
  have hunit : (0 : ℚ) < 10 ^ e := zpow_pos (by norm_num) _
  have hb' : (0 : ℚ) < b := by exact_mod_cast hb
  have hparts : (b : ℚ) * (a / b : Nat) + (a % b : Nat) = a := by exact_mod_cast Nat.div_add_mod a b
  have hrest : ((a % b : Nat) : ℚ) < b := by exact_mod_cast Nat.mod_lt a hb
  refine ⟨_, _, hneighbours, ?_, ?_, ?_⟩
  · rw [hratio]
    refine mul_le_mul_of_nonneg_right ?_ hunit.le
    rw [le_div_iff₀ hb']
    have : (0 : ℚ) ≤ (a % b : Nat) := Nat.cast_nonneg _
    linarith
  · rw [hratio]
    refine mul_lt_mul_of_pos_right ?_ hunit
    rw [div_lt_iff₀ hb']
    push_cast
    linarith
  · rw [hratio, ← mul_assoc, mul_le_mul_iff_left₀ hunit, ← mul_div_assoc, le_div_iff₀ hb']
    have habove : Ties.up.above a b = true ↔ (b : ℚ) ≤ 2 * (a % b : Nat) := by
      simp only [Ties.above, decide_eq_true_eq]
      exact_mod_cast Iff.rfl
    rw [habove]
    push_cast at hparts ⊢
    constructor
    · intro h
      linarith
    · intro h
      linarith

/-! ### The search -/

theorem preferred_of_le {v x y : ℚ} (h : |x - v| ≤ |y - v|) (hyx : y ≤ x) : Preferred v x y :=
  (lt_or_eq_of_le h).imp_right fun heq => ⟨heq, hyx⟩

theorem preferred_below {v x y : ℚ} (hx : x ≤ v) (hyx : y ≤ x) : Preferred v x y := by
  refine preferred_of_le ?_ hyx
  rw [abs_of_nonpos (sub_nonpos.mpr hx), abs_of_nonpos (sub_nonpos.mpr (hyx.trans hx))]
  linarith

theorem preferred_above {v x y : ℚ} (hx : v ≤ x) (hxy : x ≤ y) : Preferred v x y := by
  rcases hxy.lt_or_eq with hlt | rfl
  · refine .inl ?_
    rw [abs_of_nonneg (sub_nonneg.mpr hx), abs_of_nonneg (sub_nonneg.mpr (hx.trans hxy))]
    linarith
  · exact .inr ⟨rfl, le_rfl⟩

/-- Of two neighbours the upper one is preferred to all that are not between them, if it is not farther. -/
theorem preferred_upper {v lo hi y : ℚ} (hhi : v < hi) (hnear : lo + hi ≤ 2 * v)
    (hy : (y ≤ v → y ≤ lo) ∧ (v < y → hi ≤ y)) : Preferred v hi y := by
  rcases le_or_gt y v with hle | hlt
  · refine preferred_of_le ?_ (hle.trans hhi.le)
    have hylo := hy.1 hle
    rw [abs_of_nonneg (sub_nonneg.mpr hhi.le), abs_of_nonpos (sub_nonpos.mpr hle)]
    linarith
  · exact preferred_above hhi.le (hy.2 hlt)

/-- The lower one is preferred if it is nearer. -/
theorem preferred_lower {v lo hi y : ℚ} (hlo : lo ≤ v) (hnear : 2 * v < lo + hi)
    (hy : (y ≤ v → y ≤ lo) ∧ (v < y → hi ≤ y)) : Preferred v lo y := by
  rcases le_or_gt y v with hle | hlt
  · exact preferred_below hlo (hy.1 hle)
  · have hhiy := hy.2 hlt
    refine .inl ?_
    rw [abs_of_nonpos (sub_nonpos.mpr hlo), abs_of_nonneg (sub_nonneg.mpr hlt.le)]
    linarith

/-- A one with zeros has no more digits than the largest number before it, since the zeros need not be counted. -/
theorem hasDigits_of_le {d n : Nat} (hd : d ≤ 10 ^ n) (hn : 0 < n) (e : Int) : HasDigits n (d * 10 ^ e) := by
  rcases Nat.lt_or_eq_of_le hd with hlt | rfl
  · exact ⟨d, e, hlt, rfl⟩
  · refine ⟨1, n + e, Nat.one_lt_pow (Nat.ne_of_gt hn) (by decide), ?_⟩
    rw [zpow_add₀ (by norm_num), zpow_natCast]
    push_cast
    ring

/-- What is not larger than a number with its first digit at a power of ten has no more digits than there are down to
its last one. -/
theorem succ_le_of_mul_le {v : ℚ} {lead : Int} {n below : Nat} (hnext : v < 10 ^ (lead + 1))
    (hbelow : below * 10 ^ (lead - n + 1) ≤ v) : below + 1 ≤ 10 ^ n := by
  have hunit : (0 : ℚ) < 10 ^ (lead - n + 1) := zpow_pos (by norm_num) _
  have hlt : (below : ℚ) * 10 ^ (lead - n + 1) < (10 ^ n : Nat) * 10 ^ (lead - n + 1) := by
    refine (hbelow.trans_lt hnext).trans_eq ?_
    push_cast
    rw [← zpow_natCast, ← zpow_add₀ (by norm_num)]
    congr 1
    omega
  exact_mod_cast lt_of_mul_lt_mul_right hlt hunit.le

/-- Whether a decimal is the preferred one of those in an interval that have at most so many digits. A one with as many
zeros counts among them. -/
structure Best (i : Interval) (unit target : ℚ) (n : Nat) (s : Scientific) : Prop where
  digits : s.digits ≤ 10 ^ n
  holds : i.Holds unit s.value
  preferred : ∀ y, i.Holds unit y → HasDigits n y → Preferred target s.value y

section Search

variable {i : Interval} {num den : Nat} {lead : Int} (hden : 0 < den)
  (hcentre : i.Holds (num / den) ((i.centre * num : Nat) / den))
  (hlead : (10 : ℚ) ^ lead ≤ (i.centre * num : Nat) / den)
  (hnext : ((i.centre * num : Nat) / den : ℚ) < 10 ^ (lead + 1))

include hden hcentre hlead hnext

/-- A step of the search takes the preferred one of all decimals with some number of digits, or there are none and it
goes on. -/
theorem search_step {n : Nat} (hn : 0 < n) :
    (∃ s, (∀ attempts, search .up i num den lead (attempts + 1) n = s) ∧
      Best i (num / den) ((i.centre * num : Nat) / den) n s) ∨
    ((∀ attempts, search .up i num den lead (attempts + 1) n = search .up i num den lead attempts (n + 1)) ∧
      ∀ y, i.Holds (num / den) y → ¬ HasDigits n y) := by
  obtain ⟨below, above, hneighbours, hbelow, habove, hprefer⟩ :=
    neighbours_spec (i.centre * num) hden (lead - n + 1)
  have hsearch : ∀ attempts, search .up i num den lead (attempts + 1) n =
      if i.contains num den below (lead - n + 1) && i.contains num den (below + 1) (lead - n + 1) then
        ⟨if above then below + 1 else below, lead - n + 1⟩
      else if i.contains num den below (lead - n + 1) then ⟨below, lead - n + 1⟩
      else if i.contains num den (below + 1) (lead - n + 1) then ⟨below + 1, lead - n + 1⟩
      else search .up i num den lead attempts (n + 1) := by
    intro attempts
    rw [search, hneighbours]
  generalize hv : ((i.centre * num : Nat) / den : ℚ) = v at *
  have hdigits := succ_le_of_mul_le hnext hbelow
  have hgrid : ∀ y, HasDigits n y → (y ≤ v → y ≤ below * 10 ^ (lead - n + 1)) ∧
      (v < y → (below + 1 : Nat) * 10 ^ (lead - n + 1) ≤ y) :=
    fun y hy => hy.grid hn hlead hbelow habove
  have hlow : i.contains num den below (lead - n + 1) = true ↔ _ := Interval.contains_iff hden below (lead - n + 1)
  have hhigh : i.contains num den (below + 1) (lead - n + 1) = true ↔ _ :=
    Interval.contains_iff hden (below + 1) (lead - n + 1)
  -- A decimal in the interval has the neighbour on its side between it and the centre, so this one is in it too.
  have hwithin : ∀ y, i.Holds (num / den) y → HasDigits n y →
      y ≤ v ∧ i.contains num den below (lead - n + 1) = true ∨
        v < y ∧ i.contains num den (below + 1) (lead - n + 1) = true := by
    intro y hy hyn
    rcases le_or_gt y v with hle | hlt
    · exact .inl ⟨hle, hlow.mpr (hy.between hcentre ((hgrid y hyn).1 hle) hbelow)⟩
    · exact .inr ⟨hlt, hhigh.mpr (hcentre.between hy habove.le ((hgrid y hyn).2 hlt))⟩
  cases hhitLow : i.contains num den below (lead - n + 1) with
  | true =>
    cases hhitHigh : i.contains num den (below + 1) (lead - n + 1) with
    | true =>
      cases hpick : above with
      | true =>
        have hnear : (below : ℚ) * 10 ^ (lead - n + 1) + (below + 1 : Nat) * 10 ^ (lead - n + 1) ≤ 2 * v := by
          rw [← add_mul]
          exact hprefer.mp hpick
        exact .inl ⟨⟨below + 1, lead - n + 1⟩, fun attempts => by simp [hsearch, hhitLow, hhitHigh, hpick], hdigits,
          hhigh.mp hhitHigh, fun y _ hyn => preferred_upper habove hnear (hgrid y hyn)⟩
      | false =>
        have hnear : 2 * v < (below : ℚ) * 10 ^ (lead - n + 1) + (below + 1 : Nat) * 10 ^ (lead - n + 1) := by
          rw [← add_mul, ← not_le, ← hprefer, hpick]
          decide
        exact .inl ⟨⟨below, lead - n + 1⟩, fun attempts => by simp [hsearch, hhitLow, hhitHigh, hpick],
          Nat.le_of_succ_le hdigits, hlow.mp hhitLow, fun y _ hyn => preferred_lower hbelow hnear (hgrid y hyn)⟩
    | false =>
      refine .inl ⟨⟨below, lead - n + 1⟩, fun attempts => by simp [hsearch, hhitLow, hhitHigh],
        Nat.le_of_succ_le hdigits, hlow.mp hhitLow, fun y hy hyn => ?_⟩
      rcases hwithin y hy hyn with ⟨hle, _⟩ | ⟨_, hhit⟩
      · exact preferred_below hbelow ((hgrid y hyn).1 hle)
      · cases hhit.symm.trans hhitHigh
  | false =>
    cases hhitHigh : i.contains num den (below + 1) (lead - n + 1) with
    | true =>
      refine .inl ⟨⟨below + 1, lead - n + 1⟩, fun attempts => by simp [hsearch, hhitLow, hhitHigh], hdigits,
        hhigh.mp hhitHigh, fun y hy hyn => ?_⟩
      rcases hwithin y hy hyn with ⟨_, hhit⟩ | ⟨hlt, _⟩
      · cases hhit.symm.trans hhitLow
      · exact preferred_above habove.le ((hgrid y hyn).2 hlt)
    | false =>
      refine .inr ⟨fun attempts => by simp [hsearch, hhitLow, hhitHigh], fun y hy hyn => ?_⟩
      rcases hwithin y hy hyn with ⟨_, hhit⟩ | ⟨_, hhit⟩
      · cases hhit.symm.trans hhitLow
      · cases hhit.symm.trans hhitHigh

/-- The search finds the preferred one of the shortest decimals in an interval, if it tries enough digits. -/
theorem search_spec {attempts n : Nat} (hn : 0 < n)
    (hexists : ∃ j, n ≤ j ∧ j < n + attempts ∧ ∃ y, i.Holds (num / den) y ∧ HasDigits j y) :
    ∃ N s, search .up i num den lead attempts n = s ∧ n ≤ N ∧ N < n + attempts ∧
      Best i (num / den) ((i.centre * num : Nat) / den) N s ∧
      ∀ y, i.Holds (num / den) y → ∀ j, n ≤ j → HasDigits j y → N ≤ j := by
  induction attempts generalizing n with
  | zero =>
    obtain ⟨j, hle, hlt, _⟩ := hexists
    omega
  | succ attempts ih =>
    rcases search_step hden hcentre hlead hnext hn with ⟨s, hs, hbest⟩ | ⟨hs, hnone⟩
    · exact ⟨n, s, hs attempts, le_rfl, by omega, hbest, fun y _ j hj _ => hj⟩
    · obtain ⟨j, hle, hlt, y, hy, hyj⟩ := hexists
      have hlater : ∀ j y, i.Holds (num / den) y → HasDigits j y → n ≤ j → n + 1 ≤ j := by
        intro j y hy hyj hj
        refine Nat.lt_of_le_of_ne hj ?_
        rintro rfl
        exact hnone y hy hyj
      obtain ⟨N, s, hfound, hle', hN, hbest, hshortest⟩ :=
        ih (Nat.succ_pos n) ⟨j, hlater j y hy hyj hle, by omega, y, hy, hyj⟩
      refine ⟨N, s, (hs attempts).trans hfound, by omega, by omega, hbest, fun y hy j hj hyj => ?_⟩
      exact hshortest y hy j (hlater j y hy hyj hj) hyj

end Search

/-! ### First digits and last zeros -/

theorem digitCount_spec {n : Nat} (hn : 0 < n) : 10 ^ (digitCount n - 1) ≤ n ∧ n < 10 ^ digitCount n := by
  have hcount : 0 < digitCount n := Nat.length_toDigits_pos
  refine ⟨?_, (Nat.length_toDigits_le_iff (by decide) hcount).mp le_rfl⟩
  by_contra hlt
  rcases Nat.eq_zero_or_pos (digitCount n - 1) with hzero | hpos
  · rw [hzero] at hlt
    omega
  · have hle : digitCount n ≤ digitCount n - 1 :=
      (Nat.length_toDigits_le_iff (by decide) hpos).mpr (Nat.not_le.mp hlt)
    omega

/-- A quotient lies between the power of ten of its first digit and the next one. -/
theorem leadingExponent_spec {num den : Nat} (hnum : 0 < num) (hden : 0 < den) :
    (10 : ℚ) ^ leadingExponent num den ≤ num / den ∧ (num / den : ℚ) < 10 ^ (leadingExponent num den + 1) := by
  have hden' : (0 : ℚ) < den := by exact_mod_cast hden
  have hnum' : (0 : ℚ) < num := by exact_mod_cast hnum
  unfold leadingExponent
  split
  · next hle =>
    obtain ⟨hlow, hhigh⟩ := digitCount_spec (Nat.div_pos hle hden)
    have hcount : 0 < digitCount (num / den) := Nat.length_toDigits_pos
    have hpred : ((digitCount (num / den) : Nat) : Int) - 1 = (digitCount (num / den) - 1 : Nat) := by omega
    have hparts := Nat.div_add_mod num den
    have hrest := Nat.mod_lt num hden
    rw [sub_add_cancel, hpred, zpow_natCast, zpow_natCast, le_div_iff₀ hden', div_lt_iff₀ hden']
    constructor
    · exact_mod_cast (Nat.mul_le_mul_right den hlow).trans (Nat.div_mul_le_self num den)
    · exact_mod_cast (Nat.div_lt_iff_lt_mul hden).mp hhigh
  · next hlt =>
    have hpos : 0 < (den - 1) / num := Nat.div_pos (by omega) hnum
    obtain ⟨hlow, hhigh⟩ := digitCount_spec hpos
    have hcount : 0 < digitCount ((den - 1) / num) := Nat.length_toDigits_pos
    have hsucc :
        -((digitCount ((den - 1) / num) : Nat) : Int) + 1 = -((digitCount ((den - 1) / num) - 1 : Nat) : Int) := by
      omega
    rw [hsucc, zpow_neg, zpow_neg, zpow_natCast, zpow_natCast]
    constructor
    · rw [inv_le_comm₀ (by positivity) (by positivity), inv_div, div_le_iff₀ hnum']
      have hle := (Nat.div_lt_iff_lt_mul hnum).mp hhigh
      exact_mod_cast (by omega : den ≤ 10 ^ digitCount ((den - 1) / num) * num)
    · rw [lt_inv_comm₀ (by positivity) (by positivity), inv_div, lt_div_iff₀ hnum']
      have hle := (Nat.le_div_iff_mul_le hnum).mp hlow
      exact_mod_cast (by omega : 10 ^ (digitCount ((den - 1) / num) - 1) * num < den)

theorem Scientific.trim_value (k : Nat) (s : Scientific) : (trim k s).value = s.value := by
  induction k generalizing s with
  | zero => rfl
  | succ k ih =>
    unfold trim
    split
    · next hzero =>
      rw [ih, value, value, zpow_add_one₀ (by norm_num)]
      have hdigits : ((s.digits / 10 : Nat) : ℚ) * 10 = s.digits := by
        exact_mod_cast Nat.div_mul_cancel (Nat.dvd_of_mod_eq_zero hzero.2)
      rw [← hdigits]
      ring
    · rfl

/-- No zero is left at the end of the digits. -/
theorem Scientific.trim_digits {k : Nat} {s : Scientific} (hpos : s.digits ≠ 0) (hlt : s.digits < 10 ^ k) :
    (trim k s).digits % 10 ≠ 0 := by
  induction k generalizing s with
  | zero => omega
  | succ k ih =>
    unfold trim
    split
    · next hzero =>
      rw [Nat.pow_succ] at hlt
      exact ih (by simp only; omega) (by simp only; omega)
    · next hzero => exact fun hlast => hzero ⟨hpos, hlast⟩

/-! ### Patterns -/

namespace Format

variable {f : Format} {n significand : Nat}

theorem Decoded.high_eq (h : f.Decoded n significand) :
    ((f.interval significand (f.lastBit n)).high : ℚ) * f.quarter n = f.value n + 2 * f.quarter n := by
  rw [← h.centre]
  simp only [interval]
  push_cast
  ring

theorem Decoded.low_eq (h : f.Decoded n significand) :
    ((f.interval significand (f.lastBit n)).low : ℚ) * f.quarter n = f.value n - f.quarter n ∧
        significand = 2 ^ f.fractionBits ∨
      ((f.interval significand (f.lastBit n)).low : ℚ) * f.quarter n = f.value n - 2 * f.quarter n := by
  have hpos := h.pos
  rw [← h.centre]
  by_cases hdense : significand = 2 ^ f.fractionBits ∧ f.lastBit n ≠ f.leastExponent
  · refine .inl ⟨?_, hdense.1⟩
    simp only [interval, Nat.pow_eq, Bool.and_eq_true, decide_eq_true_eq, bne_iff_ne, if_pos hdense]
    rw [Nat.cast_sub (by omega)]
    push_cast
    ring
  · refine .inr ?_
    simp only [interval, Nat.pow_eq, Bool.and_eq_true, decide_eq_true_eq, bne_iff_ne, if_neg hdense]
    rw [Nat.cast_sub (by omega)]
    push_cast
    ring

/-- The number of a pattern lies within the interval of the pattern. -/
theorem Decoded.holds_value (h : f.Decoded n significand) :
    (f.interval significand (f.lastBit n)).Holds (f.quarter n) (f.value n) := by
  have hquarter := f.quarter_pos n
  rw [holds_iff, h.high_eq]
  refine ⟨.inl ?_, .inl (by linarith)⟩
  rcases h.low_eq with ⟨hlow, _⟩ | hlow <;> rw [hlow] <;> linarith

/-- With seventeen digits there are decimals in every interval: one of the two next to the number is nearer than the
ends of the interval. -/
theorem Decoded.exists_hasDigits (h : f.Decoded n significand) (hbits : 2 ^ (f.fractionBits + 1) < 10 ^ 16) {lead : Int}
    (hlead : 10 ^ lead ≤ f.value n) (hnext : f.value n < 10 ^ (lead + 1)) :
    ∃ y, (f.interval significand (f.lastBit n)).Holds (f.quarter n) y ∧ HasDigits 17 y := by
  have hquarter := f.quarter_pos n
  have hstep : (0 : ℚ) < 10 ^ (lead - (17 : Nat) + 1) := zpow_pos (by norm_num) _
  obtain ⟨below, hbelow, habove⟩ : ∃ below : Nat, below * 10 ^ (lead - (17 : Nat) + 1) ≤ f.value n ∧
      f.value n < (below + 1 : Nat) * 10 ^ (lead - (17 : Nat) + 1) := by
    refine ⟨⌊f.value n / 10 ^ (lead - (17 : Nat) + 1)⌋₊, ?_, ?_⟩
    · exact (le_div_iff₀ hstep).mp (Nat.floor_le (div_nonneg (by rw [h.value]; positivity) hstep.le))
    · exact_mod_cast (div_lt_iff₀ hstep).mp (Nat.lt_floor_add_one _)
  have hdigits := succ_le_of_mul_le hnext hbelow
  have hscaled : (10 : ℚ) ^ (lead - (17 : Nat) + 1) * 10 ^ 16 ≤ f.value n := by
    refine le_trans (le_of_eq ?_) hlead
    rw [← zpow_natCast, ← zpow_add₀ (by norm_num)]
    congr 1
    push_cast
    ring
  have hvalue : f.value n = 4 * significand * f.quarter n := by
    rw [h.value, quarter]
    ring
  have hsignificand : (significand : ℚ) < 10 ^ 16 := by exact_mod_cast h.lt.trans hbits
  have hlow := hasDigits_of_le (Nat.le_of_succ_le hdigits) (by decide) (lead - (17 : Nat) + 1)
  have hhigh := hasDigits_of_le hdigits (by decide) (lead - (17 : Nat) + 1)
  generalize (10 : ℚ) ^ (lead - (17 : Nat) + 1) = step at *
  push_cast at habove hhigh
  by_cases hhit : (below + 1) * step < f.value n + 2 * f.quarter n
  · refine ⟨_, holds_iff.mpr ⟨.inl ?_, .inl (h.high_eq ▸ hhit)⟩, hhigh⟩
    rcases h.low_eq with ⟨hend, _⟩ | hend <;> rw [hend] <;> linarith
  · -- The one above is too far away, so the one below is nearer than the lower end.
    refine ⟨_, holds_iff.mpr ⟨.inl ?_, .inl ?_⟩, hlow⟩
    · rcases h.low_eq with ⟨_, hdense⟩ | hend
      · refine absurd ?_ hhit
        have hdouble : (significand : ℚ) * 2 < 10 ^ 16 := by
          rw [hdense]
          exact_mod_cast (Nat.pow_succ 2 f.fractionBits ▸ hbits)
        nlinarith
      · rw [hend]
        nlinarith
    · rw [h.high_eq]
      linarith

theorem value_pos (hpos : 0 < n) : 0 < f.value n := by
  rw [← f.value_zero]
  exact f.value_strictMono hpos

/-- Zero is not rounded to a positive pattern. -/
theorem Rounds.ne_zero {x : ℚ} (h : f.Rounds n x) (hpos : 0 < n) : x ≠ 0 := by
  rintro rfl
  have hvalue := value_pos (f := f) hpos
  have hzero := h 0 (Nat.zero_le _) (Nat.ne_of_lt hpos)
  rw [value_zero, sub_self, abs_zero, zero_sub, abs_neg, abs_of_pos hvalue] at hzero
  rcases hzero with hlt | ⟨heq, _⟩
  · exact absurd hlt (not_lt.mpr hvalue.le)
  · exact absurd heq hvalue.ne'

/-- What the search finds for a positive pattern is the shortest decimal of it. -/
theorem Decoded.shortest (h : f.Decoded n significand) (hpos : 0 < n) (hn : n < f.limit)
    (hbits : 2 ^ (f.fractionBits + 1) < 10 ^ 16) :
    Shortest f n (f.shortest .up significand (f.lastBit n)).value ∧
      (f.shortest .up significand (f.lastBit n)).digits % 10 ≠ 0 := by
  have hrounds : ∀ x, f.Rounds n x ↔ (f.interval significand (f.lastBit n)).Holds (f.quarter n) x :=
    fun x => h.rounds_iff hpos hn
  obtain ⟨num, den, hnum, hden, hquarter, hsearch⟩ : ∃ num den : Nat, 0 < num ∧ 0 < den ∧
      f.quarter n = num / den ∧ f.shortest .up significand (f.lastBit n) =
        (search .up (f.interval significand (f.lastBit n)) num den
          (leadingExponent ((f.interval significand (f.lastBit n)).centre * num) den) 17 1).trim 18 := by
    have hne := Nat.ne_of_gt h.pos
    unfold quarter Format.shortest
    cases f.lastBit n with
    | ofNat k =>
      refine ⟨2 ^ k, 4, by positivity, by decide, ?_, by simp [hne]⟩
      rw [Int.ofNat_eq_natCast, zpow_natCast]
      push_cast
      rfl
    | negSucc k =>
      refine ⟨1, 4 * 2 ^ (k + 1), by decide, by positivity, ?_, by simp [hne]⟩
      rw [zpow_negSucc]
      push_cast
      field_simp
  generalize hi : f.interval significand (f.lastBit n) = i at *
  have hcentre : ((i.centre * num : Nat) / den : ℚ) = f.value n := by
    rw [← h.centre, hi, hquarter]
    push_cast
    ring
  have hcentrePos : 0 < i.centre * num := by
    have := h.pos
    rw [← hi]
    simp only [interval]
    positivity
  obtain ⟨hlead, hnext⟩ := leadingExponent_spec hcentrePos hden
  generalize leadingExponent (i.centre * num) den = lead at *
  have hvalue := h.holds_value
  obtain ⟨y, hy, hyn⟩ := h.exists_hasDigits hbits (hcentre ▸ hlead) (hcentre ▸ hnext)
  rw [hi, hquarter] at hvalue hy
  have hattempts : 17 < 1 + 17 := by decide
  obtain ⟨N, s, hs, hNpos, hN, hbest, hshortest⟩ :=
    search_spec hden (hcentre.symm ▸ hvalue) hlead hnext Nat.one_pos ⟨17, by decide, hattempts, y, hy, hyn⟩
  rw [hsearch, hs]
  rw [hcentre] at hbest
  rw [hquarter] at hrounds
  have hround : f.Rounds n s.value := (hrounds _).mpr hbest.holds
  refine ⟨⟨?_, N, ?_, fun y hy => ?_⟩, ?_⟩
  · rwa [Scientific.trim_value]
  · rw [Scientific.trim_value]
    exact hasDigits_of_le hbest.digits hNpos _
  · rw [Scientific.trim_value]
    have hholds := (hrounds y).mp hy
    exact ⟨fun j hj => hshortest y hholds j (hj.pos (hy.ne_zero hpos)) hj, hbest.preferred y hholds⟩
  · refine Scientific.trim_digits ?_ ?_
    · intro hzero
      exact hround.ne_zero hpos (by simp [Scientific.value, hzero])
    · have hle : 10 ^ N ≤ 10 ^ 17 := Nat.pow_le_pow_right (by decide) (by omega)
      have hdigits := hbest.digits
      omega

end Format

end ServiceBindings.Decimal
