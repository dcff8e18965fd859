import ServiceBindings.Proofs.Text.Lowercase

/-!
Letters of both cases. No character is a lowercase and an uppercase letter at once, and a character that has another
lowercase form becomes one lowercase letter, except for `İ`, whose form is an `i` with a dot of its own above it. A
capital without such a form stays one in a text in lowercase.
-/

namespace ServiceBindings.Text

/-! ### Runs -/

/-- Whether two runs that overlap have no code point in common: they alternate, or one of them is a single code point
between two of the other. -/
def Run.alternates (r s : Run) : Bool :=
  (r.step == 2 && s.step == 2 && (r.first + s.first) % 2 == 1) ||
    (r.first == r.last && !s.contains r.first) || (s.first == s.last && !r.contains s.first)

theorem Run.not_contains_of_alternates {r s : Run} (h : r.alternates s = true) {n : Nat} (hr : r.contains n = true) :
    s.contains n = false := by
  by_contra hs
  rw [Bool.not_eq_false] at hs
  obtain ⟨hrfirst, hrlast, hrstep⟩ := Run.contains_iff.mp hr
  obtain ⟨hsfirst, hslast, hsstep⟩ := Run.contains_iff.mp hs
  simp only [Run.alternates, Bool.or_eq_true, Bool.and_eq_true, beq_iff_eq, Bool.not_eq_true'] at h
  rcases h with (⟨⟨hr2, hs2⟩, hodd⟩ | ⟨hsingle, hfree⟩) | ⟨hsingle, hfree⟩
  · rw [hr2] at hrstep
    rw [hs2] at hsstep
    omega
  · obtain rfl : n = r.first := by omega
    exact absurd (hs.symm.trans hfree) (by decide)
  · obtain rfl : n = s.first := by omega
    exact absurd (hr.symm.trans hfree) (by decide)

/-- Whether a run has no code point in common with others, none of which ends before it begins. -/
def Run.avoids (r : Run) : List Run → Bool
  | [] => true
  | s :: rest => r.last < s.first || (r.alternates s && r.avoids rest)

theorem memRuns_of_avoids {r : Run} {runs : List Run} (h : r.avoids runs = true) {n : Nat}
    (hn : r.contains n = true) : memRuns runs n = false := by
  induction runs with
  | nil => rfl
  | cons s rest ih =>
    obtain ⟨-, hlast, -⟩ := Run.contains_iff.mp hn
    simp only [Run.avoids, Bool.or_eq_true, Bool.and_eq_true, decide_eq_true_eq] at h
    unfold memRuns
    rcases h with hbeyond | ⟨halternates, hrest⟩
    · exact if_pos (by omega)
    · rw [Run.not_contains_of_alternates halternates hn, ih hrest, ite_self, ite_self]

/-- Runs that end before a code point do not decide whether it is in one. -/
theorem memRuns_dropWhile {runs : List Run} {bound n : Nat} (hbound : bound ≤ n) (h : memRuns runs n = true) :
    memRuns (runs.dropWhile (·.last < bound)) n = true := by
  induction runs with
  | nil => cases h
  | cons r rest ih =>
    by_cases hr : r.last < bound
    · rw [List.dropWhile_cons_of_pos (by simpa using hr)]
      unfold memRuns at h
      split at h
      · cases h
      · rw [if_neg (by omega)] at h
        exact ih h
    · rwa [List.dropWhile_cons_of_neg (by simpa using hr)]

/-- Whether two lists of runs have no code point in common. Both are in increasing order, so that what ends before a
run of the first is of no concern to the runs after it. -/
def disjointRuns : List Run → List Run → Bool
  | [], _ => true
  | r :: rest, runs =>
    let later := runs.dropWhile (·.last < r.first)
    r.avoids later && disjointRuns rest later

theorem memRuns_of_disjointRuns {rs ss : List Run} (h : disjointRuns rs ss = true) {n : Nat}
    (hn : memRuns rs n = true) : memRuns ss n = false := by
  induction rs generalizing ss with
  | nil => cases hn
  | cons r rest ih =>
    obtain ⟨havoids, hrest⟩ := Bool.and_eq_true_iff.mp h
    unfold memRuns at hn
    split_ifs at hn with hfirst hlast
    all_goals
      by_contra hss
      have hlater := memRuns_dropWhile (show r.first ≤ n by omega) (Bool.not_eq_false _ ▸ hss)
    · exact absurd (hlater.symm.trans (memRuns_of_avoids havoids hn)) (by decide)
    · exact absurd (hlater.symm.trans (ih hrest hn)) (by decide)

/-- Whether the code points of a run all belong to one of others. -/
def Run.within (r : Run) : List Run → Bool
  | [] => false
  | s :: rest =>
    if s.last < r.first then r.within rest
    else r.last ≤ s.last && s.contains r.first && (s.step == 1 || s.step == r.step || r.first == r.last)

theorem memRuns_of_within {r : Run} {runs : List Run} (hruns : ∀ s ∈ runs, s.first ≤ s.last)
    (h : r.within runs = true) {n : Nat} (hn : r.contains n = true) : memRuns runs n = true := by
  induction runs with
  | nil => cases h
  | cons s rest ih =>
    obtain ⟨hs, hothers⟩ := List.forall_mem_cons.mp hruns
    obtain ⟨hfirst, hlast, hstep⟩ := Run.contains_iff.mp hn
    unfold Run.within at h
    unfold memRuns
    split at h
    · rw [if_neg (by omega), if_neg (by omega)]
      exact ih hothers h
    · simp only [Bool.and_eq_true, Bool.or_eq_true, decide_eq_true_eq, beq_iff_eq] at h
      obtain ⟨⟨hend, hbegin⟩, hsteps⟩ := h
      obtain ⟨hsfirst, -, hsstep⟩ := Run.contains_iff.mp hbegin
      rw [if_neg (by omega), if_pos (by omega), Run.contains_iff]
      refine ⟨by omega, by omega, ?_⟩
      rcases hsteps with (hone | hsame) | hsingle
      · rw [hone, Nat.mod_one]
      · have hsum : n - s.first = (n - r.first) + (r.first - s.first) := by omega
        rw [hsum, Nat.add_mod, hsstep, hsame, hstep]
        simp
      · obtain rfl : n = r.first := by omega
        exact hsstep

/-! ### Letters -/

private theorem letters_disjoint : disjointRuns lowercaseLetters uppercaseLetters = true := by
  decide +kernel

private theorem lowercaseLetters_bounds : ∀ r ∈ lowercaseLetters, r.first ≤ r.last := by
  decide +kernel

/-- Where the code points of a run move to. -/
def Shift.target (s : Shift) : Run :=
  ⟨(s.run.first + s.distance).toNat, (s.run.last + s.distance).toNat, s.run.step⟩

private theorem lowerShifts_letters : lowerShifts.all (·.target.within lowercaseLetters) = true := by
  decide +kernel

theorem not_isUpper_of_isLower {c : Char} (h : isLower c = true) : isUpper c = false :=
  memRuns_of_disjointRuns letters_disjoint h

/-- The capital whose lowercase form is not one letter: a dot remains above the `i`. -/
def dottedCapital : Char := 'İ'

private theorem lowerExpansions_dotted : ∀ e ∈ lowerExpansions, Char.ofNat e.1 = dottedCapital := by
  decide

private theorem target_contains {s : Shift} (hs : s ∈ lowerShifts) {n : Nat} (hn : s.run.contains n = true) :
    s.target.contains (n + s.distance).toNat = true := by
  obtain ⟨hfirst, hlast, hstep⟩ := Run.contains_iff.mp hn
  -- the run does not begin so low that it would be moved below zero
  have hbegin : s.run.contains s.run.first = true := Run.contains_iff.mpr ⟨Nat.le_refl _, by omega, by simp⟩
  obtain ⟨-, hsign, -⟩ := settled_of_contains hs hbegin
  have ha : 'a'.toNat = 97 := rfl
  have hdistance : (n + s.distance).toNat - (s.run.first + s.distance).toNat = n - s.run.first := by omega
  refine Run.contains_iff.mpr ⟨?_, ?_, ?_⟩
  · simp only [Shift.target]
    omega
  · simp only [Shift.target]
    omega
  · simp only [Shift.target, hdistance, hstep]

/-- A character with another lowercase form becomes a lowercase letter. -/
theorem exists_lower_eq {c : Char} (h : lower c ≠ [c]) (hdotted : c ≠ dottedCapital) :
    ∃ d, lower c = [d] ∧ isLower d = true := by
  rcases mapCase_cases lowerShifts lowerExpansions c with ⟨ns, hns, -⟩ | hstays | ⟨s, hs, hcontains, hmoved⟩
  · have heq := lowerExpansions_dotted (c.toNat, ns) hns
    rw [Char.ofNat_toNat] at heq
    exact absurd heq hdotted
  · exact absurd hstays h
  · obtain ⟨hvalid, -⟩ := settled_of_contains hs hcontains
    refine ⟨_, hmoved, ?_⟩
    unfold isLower
    rw [toNat_ofNat, if_pos hvalid]
    have hwithin := List.all_eq_true.mp lowerShifts_letters s hs
    exact memRuns_of_within lowercaseLetters_bounds hwithin (target_contains hs hcontains)

/-- A capital without a lowercase form. -/
def isLoneCapital (c : Char) : Bool :=
  isUpper c && lower c == [c]

/-! ### Texts in lowercase -/

/-- What stands for a character in a text that was mapped to lowercase. -/
inductive Lowering (c : Char) : List Char → Prop
  | same (h : lower c = [c]) : Lowering c [c]
  | letter {d : Char} (h : lower c ≠ [c]) (hdotted : c ≠ dottedCapital) (hd : isLower d = true) : Lowering c [d]
  | dotted (h : c = dottedCapital) : Lowering c ['i', '\u0307']

private theorem sigma_lowers : lower capitalSigma ≠ [capitalSigma] ∧ capitalSigma ≠ dottedCapital ∧
    isLower 'ς' = true ∧ isLower 'σ' = true := by
  decide

private theorem dotted_lowers : lower dottedCapital = ['i', '\u0307'] ∧ isLower 'i' = true := by
  decide

theorem lowerAfter_cons (before : List Char) (c : Char) (rest : List Char) :
    ∃ image, Lowering c image ∧ lowerAfter before (c :: rest) = image ++ lowerAfter (c :: before) rest := by
  rw [lowerAfter]
  refine ⟨_, ?_, rfl⟩
  split_ifs with hsigma hfinal
  · subst hsigma
    exact .letter sigma_lowers.1 sigma_lowers.2.1 sigma_lowers.2.2.1
  · subst hsigma
    exact .letter sigma_lowers.1 sigma_lowers.2.1 sigma_lowers.2.2.2
  · by_cases hsame : lower c = [c]
    · rw [hsame]
      exact .same hsame
    by_cases hdotted : c = dottedCapital
    · subst hdotted
      rw [dotted_lowers.1]
      exact .dotted rfl
    · obtain ⟨d, hd, hlower⟩ := exists_lower_eq hsame hdotted
      rw [hd]
      exact .letter hsame hdotted hlower

/-- The first letter that stands for a character is lowercase if the character is or has a lowercase form, and
uppercase if it is a capital without one. -/
theorem Lowering.head {c : Char} {image : List Char} (h : Lowering c image) :
    ∃ d tail, image = d :: tail ∧ (isLower d = true ↔ isLower c = true ∨ lower c ≠ [c]) ∧
      (isUpper d = true ↔ isLoneCapital c = true) := by
  cases h with
  | same h => exact ⟨c, [], rfl, by simp [h], by simp [isLoneCapital, h]⟩
  | @letter d h hdotted hd => exact ⟨d, [], rfl, by simp [h, hd], by simp [isLoneCapital, h, not_isUpper_of_isLower hd]⟩
  | dotted h =>
    subst h
    have hi := not_isUpper_of_isLower dotted_lowers.2
    exact ⟨'i', _, rfl, by simp [dotted_lowers], by simp [isLoneCapital, dotted_lowers.1, hi]⟩

theorem Lowering.of_lone {c : Char} {image : List Char} (h : Lowering c image) (hc : isLoneCapital c = true) :
    image = [c] := by
  have hsame : lower c = [c] := by simpa using (Bool.and_eq_true_iff.mp hc).2
  cases h with
  | same => rfl
  | letter h => exact absurd hsame h
  | dotted h =>
    subst h
    exact absurd hsame (by decide)

/-- A text that was mapped to lowercase begins with a lowercase letter if it began with one or with a character that
has such a form. -/
theorem head?_lowerAfter (before cs : List Char) :
    (lowerAfter before cs).head?.any isLower = true ↔ ∃ e ∈ cs.head?, isLower e = true ∨ lower e ≠ [e] := by
  cases cs with
  | nil => simp [lowerAfter]
  | cons c rest =>
    obtain ⟨image, himage, hcons⟩ := lowerAfter_cons before c rest
    obtain ⟨d, tail, rfl, hlower, -⟩ := himage.head
    simp [hcons, hlower]

end ServiceBindings.Text
