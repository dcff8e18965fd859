import ServiceBindings.Json.Scan
import ServiceBindings.Proofs.Sequence

/-!
Reading integers that were written. The digits of an integer are read as the integer, as long as it is in the range of
64 bits and what follows does not go on with it.
-/

namespace ServiceBindings.Json

open Text

/-- Whether a text does not go on with a number that comes before it. -/
structure Ends (gs : Glyphs) : Prop where
  digit : gs.head?.bind digitAt? = none
  point : gs.head? ≠ some (some '.')
  exponent : atExponent gs = false

theorem ends_nil : Ends [] := ⟨rfl, by simp, rfl⟩

theorem ends_cons {c : Char} (hdigit : digitAt? (some c) = none) (hpoint : c ≠ '.') (he : c ≠ 'e') (hE : c ≠ 'E')
    (rest : Glyphs) : Ends (some c :: rest) := by
  refine ⟨hdigit, by simpa using hpoint, ?_⟩
  unfold atExponent
  split
  · next heq => exact absurd (Option.some.inj (List.cons.inj heq).1) he
  · next heq => exact absurd (Option.some.inj (List.cons.inj heq).1) hE
  · rfl

theorem finishNumber_of_ends {rest : Glyphs} (hrest : Ends rest) (negative : Bool) (n : Nat) :
    finishNumber negative n rest = .ok (integral negative n, rest) := by
  unfold finishNumber
  split
  · next more => exact absurd rfl hrest.point
  · rw [if_neg (by simp [hrest.exponent])]

/-! ### Digits -/

theorem le_ofDigitChars (cs : List Char) (n : Nat) : n ≤ Nat.ofDigitChars 10 cs n := by
  induction cs generalizing n with
  | nil => exact Nat.le_refl n
  | cons c rest ih =>
    have hrest := ih (10 * n + (c.toNat - '0'.toNat))
    exact Nat.le_trans (by omega) hrest

theorem digitAt?_of_isDigit {c : Char} (h : c.isDigit = true) : digitAt? (some c) = some (c.toNat - '0'.toNat) := by
  rw [digitAt?, if_pos h]

/-- Digits of a number within the limit are all taken. -/
theorem takeDigits_digits {limit : Nat} {cs : List Char} (hdigits : ∀ c ∈ cs, c.isDigit = true) {rest : Glyphs}
    (hrest : rest.head?.bind digitAt? = none) (n : Nat) (hlimit : Nat.ofDigitChars 10 cs n ≤ limit) :
    takeDigits limit n (.ofChars cs ++ rest) = (Nat.ofDigitChars 10 cs n, cs.length, rest) := by
  induction cs generalizing n with
  | nil =>
    cases rest with
    | nil => rfl
    | cons g more =>
      have hg : digitAt? g = none := hrest
      simp only [Glyphs.ofChars, List.map_nil, List.nil_append, takeDigits, hg]
      rfl
  | cons c cs ih =>
    obtain ⟨hc, hcs⟩ := List.forall_mem_cons.mp hdigits
    have hvalue : Nat.ofDigitChars 10 (c :: cs) n = Nat.ofDigitChars 10 cs (n * 10 + (c.toNat - '0'.toNat)) := by
      rw [Nat.mul_comm n]
      rfl
    rw [hvalue] at hlimit ⊢
    have hfits : ¬limit < n * 10 + (c.toNat - '0'.toNat) :=
      Nat.not_lt.mpr (Nat.le_trans (le_ofDigitChars cs _) hlimit)
    have hread := ih hcs _ hlimit
    simp only [Glyphs.ofChars, List.map_cons, List.cons_append, takeDigits, digitAt?_of_isDigit hc, if_neg hfits]
    rw [show cs.map some ++ rest = Glyphs.ofChars cs ++ rest from rfl, hread]
    rfl

theorem isDigit_of_mem_toDigits {n : Nat} {c : Char} (hc : c ∈ Nat.toDigits 10 n) : c.isDigit = true :=
  Nat.isDigit_of_mem_toDigits (by decide) (by decide) hc

theorem exists_first_digit (n : Nat) : ∃ c cs, Nat.toDigits 10 n = c :: cs ∧ c.isDigit = true := by
  obtain ⟨c, cs, hcs⟩ := List.exists_cons_of_ne_nil (Nat.toDigits_ne_nil (b := 10) (n := n))
  exact ⟨c, cs, hcs, isDigit_of_mem_toDigits (hcs ▸ List.mem_cons_self)⟩

/-- A digit is nothing that is no digit. -/
theorem digit_ne {c : Char} (h : c.isDigit = true) {other : Char} (hother : other.isDigit = false) : c ≠ other := by
  rintro rfl
  rw [h] at hother
  cases hother

private theorem digitChar_ne_zero : ∀ n < 10, 0 < n → Nat.digitChar n ≠ '0' := by decide

/-- The first digit of a positive number is not zero. -/
theorem toDigits_head {n : Nat} (h : 0 < n) :
    ∃ c cs, Nat.toDigits 10 n = c :: cs ∧ c ≠ '0' := by
  induction n using Nat.strongRecOn with
  | ind n ih =>
    by_cases hsmall : n < 10
    · exact ⟨_, _, Nat.toDigits_of_lt_base hsmall, digitChar_ne_zero n hsmall h⟩
    · obtain ⟨c, cs, hdigits, hc⟩ := ih (n / 10) (by omega) (by omega)
      refine ⟨c, cs ++ [(n % 10).digitChar], ?_, hc⟩
      rw [Nat.toDigits_of_base_le (by decide) (Nat.not_lt.mp hsmall), hdigits]
      rfl

/-- The digits of a number are read as the number. -/
theorem scanNumber_toDigits (negative : Bool) {n : Nat} (hn : n ≤ largestInteger) {rest : Glyphs} (hrest : Ends rest) :
    scanNumber negative (.ofChars (Nat.toDigits 10 n) ++ rest) = .ok (integral negative n, rest) := by
  rcases Nat.eq_zero_or_pos n with rfl | hpos
  · have hzero : Glyphs.ofChars (Nat.toDigits 10 0) ++ rest = some '0' :: rest := rfl
    rw [hzero, scanNumber, if_neg (by simp [hrest.digit]), finishNumber_of_ends hrest]
  · have hdigits (c : Char) (hc : c ∈ Nat.toDigits 10 n) : c.isDigit = true := isDigit_of_mem_toDigits hc
    have hvalue : Nat.ofDigitChars 10 (Nat.toDigits 10 n) 0 = n := Nat.ofDigitChars_toDigits (by decide) (by decide)
    have htake := takeDigits_digits hdigits hrest.digit 0 (hvalue.symm ▸ hn)
    have hmore : leadingDigits rest = 0 := by
      cases rest with
      | nil => rfl
      | cons g more =>
        have hg : digitAt? g = none := hrest.digit
        simp [leadingDigits, skipDigits, hg]
    obtain ⟨c, cs, hcs, hc⟩ := toDigits_head hpos
    have hfirst := digitAt?_of_isDigit (hdigits c (by simp [hcs]))
    rw [hcs] at htake hvalue ⊢
    rw [hvalue] at htake
    simp only [Glyphs.ofChars, List.map_cons, List.cons_append] at htake ⊢
    rw [scanNumber]
    · simp [hfirst, htake, hmore, finishNumber_of_ends hrest]
    · exact fun heq => hc (Option.some.inj heq)

theorem integral_natAbs {n : Int} (h : 0 ≤ n) : integral false n.natAbs = .integer n := by
  have hsame : (n.natAbs : Int) = n := by omega
  rw [integral, Bool.not_false, if_pos rfl, hsame]

/-- A negative number in the range of 64 bits is an integer. -/
theorem integral_natAbs_of_neg {n : Int} (h : n < 0) (hleast : n.natAbs ≤ Nat.pow 2 63) :
    integral true n.natAbs = .integer n := by
  have hsame : -(n.natAbs : Int) = n := by omega
  rw [integral, Bool.not_true, if_neg Bool.false_ne_true, if_neg (by omega), hsame]

end ServiceBindings.Json
