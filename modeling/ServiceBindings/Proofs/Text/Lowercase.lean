import Mathlib.Data.List.Basic
import ServiceBindings.Proofs.Lookup
import ServiceBindings.Text.Case

/-!
Lowercase texts. The lowercase form of a character stays as it is under a second mapping, so that lowercase words do
not change any more. The tables are compared run by run: a run moves to a place where no other run is moved from.
-/

namespace ServiceBindings.Text

/-- A number that is no code point stands for the character zero. -/
theorem toNat_ofNat (n : Nat) : (Char.ofNat n).toNat = if n.isValidChar then n else 0 := by
  by_cases h : n.isValidChar
  · rw [if_pos h, Char.ofNat, dif_pos h]
    rfl
  · rw [if_neg h, Char.ofNat, dif_neg h]
    rfl

/-! ### Shifts -/

/-- A moved code point belongs to one of the runs. -/
theorem shiftBy_eq (shifts : List Shift) (n : Nat) :
    shiftBy shifts n = n ∨ ∃ s ∈ shifts, s.run.contains n = true ∧ shiftBy shifts n = (n + s.distance).toNat := by
  induction shifts with
  | nil => exact .inl rfl
  | cons s rest ih =>
    unfold shiftBy
    split_ifs with hbefore hwithin hmember
    · exact .inl rfl
    · exact .inr ⟨s, List.mem_cons_self, hmember, rfl⟩
    · exact .inl rfl
    · rcases ih with hstay | ⟨t, ht, hcontains, hmoved⟩
      · exact .inl hstay
      · exact .inr ⟨t, List.mem_cons_of_mem s ht, hcontains, hmoved⟩

/-- A mapped character is one of those with several images, stays as it is, or moves with its run. -/
theorem mapCase_cases (shifts : List Shift) (expansions : List (Nat × List Nat)) (c : Char) :
    (∃ ns, (c.toNat, ns) ∈ expansions ∧ mapCase shifts expansions c = ns.map Char.ofNat) ∨
      mapCase shifts expansions c = [c] ∨
      ∃ s ∈ shifts, s.run.contains c.toNat = true ∧
        mapCase shifts expansions c = [Char.ofNat (c.toNat + s.distance).toNat] := by
  unfold mapCase
  cases hexpansions : expansions.lookup c.toNat with
  | some ns => exact .inl ⟨ns, mem_of_lookup_eq_some hexpansions, rfl⟩
  | none =>
    right
    rcases shiftBy_eq shifts c.toNat with hstays | ⟨s, hs, hcontains, hmoved⟩
    · exact .inl (by simp [hstays])
    · exact .inr ⟨s, hs, hcontains, by simp [hmoved]⟩

theorem mapCase_ne_nil (shifts : List Shift) {expansions : List (Nat × List Nat)} (h : ∀ e ∈ expansions, e.2 ≠ [])
    (c : Char) : mapCase shifts expansions c ≠ [] := by
  rcases mapCase_cases shifts expansions c with ⟨ns, hns, himage⟩ | hstays | ⟨s, -, -, hmoved⟩
  · rw [himage]
    simpa using h (c.toNat, ns) hns
  · rw [hstays]
    exact List.cons_ne_nil c []
  · rw [hmoved]
    exact List.cons_ne_nil _ []

/-- Whether none of the code points `first`, `first + step` and so on, up to `last`, is moved: a run that does not end
before them begins after them or alternates with them. -/
def avoids (first last step : Nat) : List Shift → Bool
  | [] => true
  | s :: rest =>
    if s.run.last < first then avoids first last step rest
    else
      last < s.run.first ||
        (((step == 2 && s.run.step == 2 && (first + s.run.first) % 2 == 1) ||
          (first == last && !s.run.contains first)) && avoids first last step rest)

theorem shiftBy_of_avoids {first last step : Nat} {shifts : List Shift} (h : avoids first last step shifts = true)
    {n : Nat} (hfirst : first ≤ n) (hlast : n ≤ last) (hstep : (n - first) % step = 0) : shiftBy shifts n = n := by
  induction shifts with
  | nil => rfl
  | cons s rest ih =>
    unfold avoids at h
    unfold shiftBy
    split at h
    · rw [ih h, if_neg (show ¬n ≤ s.run.last by omega), ite_self]
    · simp only [Bool.or_eq_true, Bool.and_eq_true, decide_eq_true_eq, beq_iff_eq, Bool.not_eq_true'] at h
      rcases h with hafter | ⟨hapart, hrest⟩
      · exact if_pos (by omega)
      · rw [ih hrest]
        split_ifs with hlow hhigh hcontains
        · rfl
        · exfalso
          rcases hapart with ⟨⟨rfl, hrun⟩, hodd⟩ | ⟨hsingle, hfree⟩
          · obtain ⟨-, -, hmember⟩ := Run.contains_iff.mp hcontains
            rw [hrun] at hmember
            omega
          · obtain rfl : n = first := by omega
            rw [hcontains] at hfree
            cases hfree
        · rfl
        · rfl

/-- Whether the code points of a shift move to places where they stay, none of which is a sign of ASCII. -/
def settles (s : Shift) : Bool :=
  let first := (s.run.first + s.distance).toNat
  let last := (s.run.last + s.distance).toNat
  'a'.toNat ≤ first && (last < 0xD800 || (0xDFFF < first && last < 0x110000)) &&
    lowerExpansions.all (fun e => e.1 < first || last < e.1) && avoids first last s.run.step lowerShifts

private theorem lowerShifts_settle : lowerShifts.all settles = true := by
  decide +kernel

private theorem lowerExpansions_settle : ∀ e ∈ lowerExpansions, ∀ n ∈ e.2,
    lower (Char.ofNat n) = [Char.ofNat n] ∧ 'a' ≤ Char.ofNat n := by
  decide

/-! ### Characters -/

/-- A moved code point is that of a character, which the tables leave alone. -/
theorem settled_of_contains {s : Shift} (hs : s ∈ lowerShifts) {n : Nat} (hn : s.run.contains n = true) :
    let m := (n + s.distance).toNat
    m.isValidChar ∧ 'a'.toNat ≤ m ∧ lowerExpansions.lookup m = none ∧ shiftBy lowerShifts m = m := by
  intro m
  have hsettles := List.all_eq_true.mp lowerShifts_settle s hs
  simp only [settles, Bool.and_eq_true, Bool.or_eq_true, decide_eq_true_eq, List.all_eq_true] at hsettles
  obtain ⟨⟨⟨hsign, hvalid⟩, hexpansions⟩, havoids⟩ := hsettles
  obtain ⟨hfirstRun, hlastRun, hmember⟩ := Run.contains_iff.mp hn
  have ha : 'a'.toNat = 97 := rfl
  have hfirst : (s.run.first + s.distance).toNat ≤ m := by omega
  have hlast : m ≤ (s.run.last + s.distance).toNat := by omega
  have hdistance : m - (s.run.first + s.distance).toNat = n - s.run.first := by omega
  refine ⟨?_, by omega, ?_, shiftBy_of_avoids havoids hfirst hlast (by rw [hdistance]; exact hmember)⟩
  · rcases hvalid with hlow | ⟨hhigh, hbound⟩
    · exact .inl (by omega)
    · exact .inr ⟨by omega, by omega⟩
  · refine List.lookup_eq_none_iff.mpr fun e he => ?_
    rcases hexpansions e he with hbefore | hafter
    · exact by simp; omega
    · exact by simp; omega

theorem lower_of_stays {c : Char} (hexpansions : lowerExpansions.lookup c.toNat = none)
    (hshifts : shiftBy lowerShifts c.toNat = c.toNat) : lower c = [c] := by
  simp [lower, mapCase, hexpansions, hshifts]

/-- A lowercase form stays, and is no sign of ASCII but the character itself. -/
theorem of_mem_lower {c d : Char} (h : d ∈ lower c) : lower d = [d] ∧ (d = c ∨ 'a' ≤ d) := by
  unfold lower at h
  rcases mapCase_cases lowerShifts lowerExpansions c with ⟨ns, hns, himage⟩ | hstays | ⟨s, hs, hcontains, hmoved⟩
  · rw [himage, List.mem_map] at h
    obtain ⟨n, hn, rfl⟩ := h
    obtain ⟨hstays, hsign⟩ := lowerExpansions_settle (c.toNat, ns) hns n hn
    exact ⟨hstays, .inr hsign⟩
  · rw [hstays, List.mem_singleton] at h
    subst h
    exact ⟨hstays, .inl rfl⟩
  · rw [hmoved, List.mem_singleton] at h
    obtain ⟨hvalid, hsign, hnone, hfixed⟩ := settled_of_contains hs hcontains
    have hnat : d.toNat = (c.toNat + s.distance).toNat := by rw [h, toNat_ofNat, if_pos hvalid]
    rw [← hnat] at hsign hnone hfixed
    exact ⟨lower_of_stays hnone hfixed, .inr hsign⟩

theorem lower_ne_nil (c : Char) : lower c ≠ [] := by
  have hsome : ∀ e ∈ lowerExpansions, e.2 ≠ [] := by decide
  exact mapCase_ne_nil lowerShifts hsome c

/-! ### Words -/

/-- Whether mapping a text to lowercase leaves each of its characters alone. -/
def Lowered (cs : List Char) : Prop :=
  ∀ c ∈ cs, lower c = [c]

/-- The image of a character within a text is a lowercase form of it, or a form of sigma. -/
theorem mem_lowerAfter {before cs : List Char} {d : Char} (h : d ∈ lowerAfter before cs) :
    (∃ c ∈ cs, d ∈ lower c) ∨ d = 'ς' ∨ d = 'σ' := by
  induction cs generalizing before with
  | nil => cases h
  | cons c rest ih =>
    rcases List.mem_append.mp h with h | h
    · split at h
      · right
        split at h
        · exact .inl (List.mem_singleton.mp h)
        · exact .inr (List.mem_singleton.mp h)
      · exact .inl ⟨c, List.mem_cons_self, h⟩
    · exact (ih h).imp_left fun ⟨e, he, hd⟩ => ⟨e, List.mem_cons_of_mem c he, hd⟩

private theorem lower_sigmas : lower capitalSigma ≠ [capitalSigma] ∧ lower 'σ' = ['σ'] ∧ lower 'ς' = ['ς'] := by
  decide

theorem lowered_lowerWord (cs : List Char) : Lowered (lowerWord cs) := by
  intro d hd
  rcases mem_lowerAfter hd with ⟨c, -, hc⟩ | rfl | rfl
  · exact (of_mem_lower hc).1
  · exact lower_sigmas.2.2
  · exact lower_sigmas.2.1

/-- A word that is in lowercase stays as it is: a capital sigma would not. -/
theorem lowerWord_of_lowered {cs : List Char} (h : Lowered cs) : lowerWord cs = cs := by
  unfold lowerWord
  generalize [] = before
  induction cs generalizing before with
  | nil => rfl
  | cons c rest ih =>
    obtain ⟨hc, hrest⟩ := List.forall_mem_cons.mp h
    have hne : c ≠ capitalSigma := by
      rintro rfl
      exact lower_sigmas.1 hc
    rw [lowerAfter, if_neg hne, hc, ih hrest]
    rfl

/-- A sign of ASCII is in the lowercase form of a text only if it is in the text. -/
theorem mem_of_mem_lowerWord {cs : List Char} {d : Char} (h : d ∈ lowerWord cs) (hsign : d < 'a') : d ∈ cs := by
  rcases mem_lowerAfter h with ⟨c, hc, hd⟩ | rfl | rfl
  · rcases (of_mem_lower hd).2 with rfl | hle
    · exact hc
    · exact absurd hsign (Char.not_lt.mpr hle)
  · exact absurd hsign (by decide)
  · exact absurd hsign (by decide)

/-- A character that has no other lowercase form remains in the lowercase form of a text. -/
theorem mem_lowerWord {cs : List Char} {d : Char} (hd : d ∈ cs) (hstays : lower d = [d]) : d ∈ lowerWord cs := by
  have hsigma : d ≠ capitalSigma := by
    rintro rfl
    exact lower_sigmas.1 hstays
  unfold lowerWord
  generalize [] = before
  induction cs generalizing before with
  | nil => cases hd
  | cons c rest ih =>
    rw [lowerAfter]
    rcases List.mem_cons.mp hd with rfl | hd
    · rw [if_neg hsigma, hstays]
      exact List.mem_append_left _ (List.mem_singleton_self d)
    · exact List.mem_append_right _ (ih hd _)

theorem lowerWord_ne_nil {cs : List Char} (h : cs ≠ []) : lowerWord cs ≠ [] := by
  obtain ⟨c, rest, rfl⟩ := List.exists_cons_of_ne_nil h
  unfold lowerWord
  rw [lowerAfter]
  split
  · simp
  · simp [lower_ne_nil]

end ServiceBindings.Text
